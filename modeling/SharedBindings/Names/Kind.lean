import SharedBindings.Names.Grammar

/-!
# Kinds of bindings

What a shared name stands for in the guest: a constant, a variable of an object or class, a
global, or a local of the top level. Every kind owns a grammar, and a name can be used with a
kind exactly when the whole of it is in that grammar.
-/

namespace SharedBindings

inductive Kind where
  /-- A local variable of the top level, `count`. -/
  | localVariable
  /-- A name spelled like a local that stands for a guest global, `count` for `$count`. -/
  | localGlobal
  /-- A variable of one object, `@count`. -/
  | instanceVariable
  /-- A variable of a class, shared down its hierarchy, `@@count`. -/
  | classVariable
  /-- A global, `$count`. -/
  | globalVariable
  /-- A constant of a scope, `MAX`. -/
  | constant
deriving DecidableEq

namespace Kind

/-- Every kind, in the order in which values are delivered to the guest. -/
def all : List Kind :=
  [.localVariable, .localGlobal, .instanceVariable, .classVariable, .globalVariable, .constant]

theorem mem_all (kind : Kind) : kind ∈ all := by
  cases kind <;> decide

def position (kind : Kind) : Nat :=
  all.idxOf kind

def label : Kind → String
  | .localVariable => "local variable"
  | .localGlobal => "local global"
  | .instanceVariable => "instance variable"
  | .classVariable => "class variable"
  | .globalVariable => "global variable"
  | .constant => "constant"

instance : ToString Kind := ⟨label⟩

def tag : Kind → String
  | .localVariable => "Local"
  | .localGlobal => "LocalGlobal"
  | .instanceVariable => "Instance"
  | .classVariable => "Class"
  | .globalVariable => "Global"
  | .constant => "Constant"

def spells : Kind → List Char → Bool
  | .globalVariable, '$' :: rest => Names.isWord rest
  | .instanceVariable, '@' :: rest => Names.isWord rest
  | .classVariable, '@' :: '@' :: rest => Names.isWord rest
  | .constant, text => Names.isConstantWord text
  | .localVariable, text => Names.isLocalWord text
  | .localGlobal, text => Names.isLocalWord text
  | _, _ => false

def accepts (kind : Kind) (name : String) : Bool :=
  kind.spells name.toList

/-- The name that a binding carries inside the guest. -/
def guestName (kind : Kind) (name : String) : String :=
  match kind with
  | .localGlobal => "$" ++ name
  | _ => name

def localNameOfGlobal? (global : String) : Option String :=
  match global.toList with
  | '$' :: rest => if Names.isLocalWord rest then some (String.ofList rest) else none
  | _ => none

/-- Guest code caches the places where it found constants, so only changes to constants make a
cache stale. -/
def isCached : Kind → Bool
  | .constant => true
  | _ => false

/-- Every unit runs in a local frame of its own, so locals are delivered to each of them. -/
def isFramed : Kind → Bool
  | .localVariable => true
  | _ => false

end Kind

/-- The constant that holds the guest's command-line arguments. There is one for the whole
guest, found at the top level. -/
def argumentsName : String :=
  "ARGV"

end SharedBindings
