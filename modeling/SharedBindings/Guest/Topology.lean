import SharedBindings.Guest.Cell

/-!
# Scope topology

How scopes hang together: superclasses, the scope that receives a constant, and the scopes in
which a name of each kind is looked for. Every search goes from the most specific scope to the
least specific one.
-/

namespace SharedBindings.Guest

def superclass? (guest : Guest) (scope : Scope) : Option Scope :=
  match guest.adoptions.lookup scope with
  | some adopted => adopted
  | none => ((guest.module? scope).map Module.superclass).join

/-- A scope may be named as its own superclass; the hierarchy ends there. -/
def ancestor? (guest : Guest) (scope : Scope) : Option Scope :=
  (guest.superclass? scope).filter (· ≠ scope)

def linkCount (guest : Guest) : Nat :=
  guest.modules.length + guest.adoptions.size

def climb (guest : Guest) : Nat → Scope → List Scope
  | 0, scope => [scope]
  | steps + 1, scope =>
      match guest.ancestor? scope with
      | some parent => scope :: guest.climb steps parent
      | none => [scope]

/-- A scope and all scopes above it. A hierarchy without cycles has no longer chain than it has
scopes with a superclass, so the climb always gets to the end of it. -/
def ancestors (guest : Guest) (scope : Scope) : List Scope :=
  guest.climb guest.linkCount scope

def receiver? (guest : Guest) (receiver : Scope) : Option Scope :=
  if guest.isDefined receiver then some receiver else none

/-- Where a constant is written: the body being executed comes before the receiver. -/
def storeScope? (guest : Guest) (receiver : Scope) : Option Scope :=
  guest.current <|> guest.receiver? receiver

/-- The scopes in which a constant is looked for: the receiver, the top level, and the scope
above the top level, where top-level constants live. -/
def lookupScopes (guest : Guest) (receiver : Scope) : List Scope :=
  ((guest.receiver? receiver).toList ++ guest.top :: (guest.superclass? guest.top).toList).eraseDups

/-- The scopes in which a name of some kind is looked for under a receiver. The process-wide
kinds have one place, whatever the scope. -/
def searchScopes (guest : Guest) (kind : Kind) (receiver : Scope) : List Scope :=
  match kind with
  | .constant => guest.lookupScopes receiver
  | .instanceVariable => (guest.receiver? receiver).toList
  | .classVariable => (guest.receiver? receiver).toList.flatMap guest.ancestors
  | .globalVariable | .localGlobal | .localVariable => [guest.top]

def searchPath (guest : Guest) (kind : Kind) (receiver : Scope) (name : String) : List Cell :=
  (guest.searchScopes kind receiver).map (kind.cell · name)

/-- Where a name is anchored when it is used under a receiver. The argument list and everything
process-wide belong to the top level. -/
def anchorFor (guest : Guest) (kind : Kind) (receiver : Scope) (name : String) : Scope :=
  match kind with
  | .constant => if name = argumentsName then guest.top else receiver
  | .instanceVariable | .classVariable => receiver
  | .globalVariable | .localGlobal | .localVariable => guest.top

def readFirst (guest : Guest) (path : List Cell) : Option Value :=
  path.findSome? guest.read

def eraseFirst (guest : Guest) (path : List Cell) : Option Cell × Guest :=
  match path.find? fun cell => (guest.content cell).isSome with
  | some cell => (some cell, guest.erase cell)
  | none => (none, guest)

variable (guest : Guest) (place : Place) (change : Table → Table)

@[simp] theorem superclass?_changeTable (scope : Scope) :
    (guest.changeTable place change).superclass? scope = guest.superclass? scope := by
  have kept := guest.map_module?_changeTable place change Module.superclass (by simp) scope
  simp only [superclass?, adoptions_changeTable, kept]

@[simp] theorem receiver?_changeTable (scope : Scope) :
    (guest.changeTable place change).receiver? scope = guest.receiver? scope := by
  simp only [receiver?, isDefined_changeTable]

@[simp] theorem storeScope?_changeTable (scope : Scope) :
    (guest.changeTable place change).storeScope? scope = guest.storeScope? scope := by
  simp only [storeScope?, current_changeTable, receiver?_changeTable]

theorem eraseFirst_eq (path : List Cell) :
    guest.eraseFirst path =
      (path.find? fun cell => (guest.content cell).isSome,
        (path.find? fun cell => (guest.content cell).isSome).elim guest guest.erase) := by
  unfold eraseFirst
  cases path.find? fun cell => (guest.content cell).isSome <;> rfl

theorem content_eraseFirst_of_notMem {path : List Cell} {cell : Cell} (apart : cell ∉ path) :
    (guest.eraseFirst path).2.content cell = guest.content cell := by
  unfold eraseFirst
  split
  · rename_i erased found
    have different : cell ≠ erased := fun same => apart (same ▸ List.mem_of_find?_eq_some found)
    rw [content_erase, if_neg different]
  · rfl

theorem eraseFirst_singleton (cell : Cell) : (guest.eraseFirst [cell]).2 = guest.erase cell := by
  cases held : guest.content cell with
  | some value => simp [eraseFirst, held]
  | none => simp [eraseFirst, held, guest.erase_of_no_content cell held]

theorem receiver?_eq_some_iff {receiver scope : Scope} :
    guest.receiver? receiver = some scope ↔ guest.isDefined receiver = true ∧ receiver = scope := by
  by_cases defined : guest.isDefined receiver = true <;> simp [receiver?, defined]

end SharedBindings.Guest
