/-!
# Scopes

The number by which a guest is asked about one of its modules, classes or objects. The number
alone says nothing of whether the guest has the scope, or has defined it yet.
-/

namespace SharedBindings

structure Scope where
  number : UInt32
deriving DecidableEq

namespace Scope

/-- The scope at a position of the guest's module list. The last number stands for every
position past it. -/
def atIndex (index : Nat) : Scope :=
  ⟨if index < UInt32.size then UInt32.ofNat index else UInt32.ofNat (UInt32.size - 1)⟩

def index (scope : Scope) : Nat :=
  scope.number.toNat

theorem atIndex_index (scope : Scope) : atIndex scope.index = scope := by
  have small : scope.number.toNat < UInt32.size := scope.number.toNat_lt
  simp only [atIndex, index, small, if_true, UInt32.ofNat_toNat]

instance : Ord Scope := ⟨fun left right => compare left.number right.number⟩

instance : ToString Scope := ⟨fun scope => "#" ++ toString scope.number⟩

def describe (scope : Scope) : String :=
  "ScopeId(" ++ toString scope.number ++ ")"

end Scope

end SharedBindings
