import SharedBindings.Names.Kind

/-!
# Sharing of locals

How the locals of the top level are shared between host and guest, and with it what a name
without a sigil stands for.
-/

namespace SharedBindings

inductive LocalPolicy where
  /-- Host locals reach every unit; what a unit does to them is not read back. -/
  | transient
  /-- Host locals reach every unit and guest locals are read back. -/
  | persistent
  /-- Local-style names stand for guest globals. -/
  | globalBacked
deriving DecidableEq

namespace LocalPolicy

instance : Inhabited LocalPolicy := ⟨.transient⟩

def localKind : LocalPolicy → Kind
  | .transient => .localVariable
  | .persistent => .localVariable
  | .globalBacked => .localGlobal

/-- The kinds read back after a unit, in the order of their passes. -/
def resyncOrder : LocalPolicy → List Kind
  | .transient => [.instanceVariable, .globalVariable, .classVariable, .constant]
  | .persistent => [.localVariable, .instanceVariable, .globalVariable, .classVariable, .constant]
  | .globalBacked => [.localGlobal]

def candidateKinds (policy : LocalPolicy) : List Kind :=
  [.classVariable, .instanceVariable, .globalVariable, .constant, policy.localKind]

def classify (policy : LocalPolicy) (name : String) : Option Kind :=
  policy.candidateKinds.find? (·.accepts name)

theorem accepts_of_classify {policy : LocalPolicy} {name : String} {kind : Kind}
    (classified : policy.classify name = some kind) : kind.accepts name = true := by
  rw [classify] at classified
  simpa using List.find?_some classified

end LocalPolicy

end SharedBindings
