import SharedBindings.Collections.OrderedMap
import SharedBindings.Names.Kind
import SharedBindings.Scope
import SharedBindings.Value

/-!
# Guests

What is visible from outside of a guest interpreter: its modules with their tables, the globals,
and the local frame of the top level. Top-level constants live in `Object`, the superclass of
the top-level object `main`.
-/

namespace SharedBindings

/-- The contents of one namespace, in the order in which the guest lists them. -/
abbrev Table := OrderedMap String Value

inductive Guest.Slot where
  | constants
  | instanceVariables
  | classVariables
deriving DecidableEq

/-- A module, class or object. One that is reserved has a scope but is not defined yet. -/
structure Guest.Module where
  name : String
  superclass : Option Scope
  defined : Bool
  constants : Table := ∅
  instanceVariables : Table := ∅
  classVariables : Table := ∅
deriving DecidableEq

namespace Guest.Module

def table (held : Guest.Module) : Guest.Slot → Table
  | .constants => held.constants
  | .instanceVariables => held.instanceVariables
  | .classVariables => held.classVariables

def changeTable (held : Guest.Module) (slot : Guest.Slot) (change : Table → Table) :
    Guest.Module :=
  match slot with
  | .constants => { held with constants := change held.constants }
  | .instanceVariables => { held with instanceVariables := change held.instanceVariables }
  | .classVariables => { held with classVariables := change held.classVariables }

variable (held : Guest.Module) (slot other : Guest.Slot) (change : Table → Table)

@[simp] theorem superclass_changeTable :
    (held.changeTable slot change).superclass = held.superclass := by
  cases slot <;> rfl

@[simp] theorem defined_changeTable : (held.changeTable slot change).defined = held.defined := by
  cases slot <;> rfl

theorem table_changeTable :
    (held.changeTable slot change).table other =
      if other = slot then change (held.table other) else held.table other := by
  cases slot <;> cases other <;> rfl

theorem changeTable_comm {slot other : Guest.Slot} (different : slot ≠ other)
    (first second : Table → Table) :
    (held.changeTable slot first).changeTable other second =
      (held.changeTable other second).changeTable slot first := by
  match slot, other with
  | .constants, .constants => exact absurd rfl different
  | .instanceVariables, .instanceVariables => exact absurd rfl different
  | .classVariables, .classVariables => exact absurd rfl different
  | .constants, .instanceVariables | .constants, .classVariables => rfl
  | .instanceVariables, .constants | .instanceVariables, .classVariables => rfl
  | .classVariables, .constants | .classVariables, .instanceVariables => rfl

theorem changeTable_of_fixed {slot : Guest.Slot} {change : Table → Table}
    (fixed : change (held.table slot) = held.table slot) :
    held.changeTable slot change = held := by
  cases slot with
  | constants => exact congrArg (fun constants => { held with constants }) fixed
  | instanceVariables =>
      exact congrArg (fun instanceVariables => { held with instanceVariables }) fixed
  | classVariables => exact congrArg (fun classVariables => { held with classVariables }) fixed

end Guest.Module

structure Guest where
  modules : List Guest.Module
  object : Scope
  top : Scope
  /-- The module or class whose body is being executed, if any. -/
  current : Option Scope
  globals : Table
  locals : Table
  predefined : List String
  /-- Superclasses that hold in place of the ones in the module list. Their scopes need not be
  in that list. -/
  adoptions : OrderedMap Scope (Option Scope)
  /-- Names that no read answers, whatever the tables hold. -/
  hidden : List String
deriving DecidableEq

namespace Guest

/-- What a guest may answer differently from its module list. -/
structure Overlay where
  top : Option Scope
  adoptions : List (Scope × Option Scope)
  hidden : List String

def fresh : Guest where
  modules :=
    [{ name := "Object", superclass := none, defined := true },
      { name := "main", superclass := some (Scope.atIndex 0), defined := true }]
  object := Scope.atIndex 0
  top := Scope.atIndex 1
  current := none
  globals := (OrderedMap.empty.insert "$0" (.text "main")).insert "$stdout" (.text "<stdout>")
  locals := ∅
  predefined := ["$0", "$stdout"]
  adoptions := ∅
  hidden := []

instance : Inhabited Guest := ⟨fresh⟩

/-- A guest under an overlay counts no global as predefined. -/
def withOverlay (guest : Guest) (overlay : Overlay) : Guest :=
  { guest with
    top := overlay.top.getD guest.top
    predefined := []
    adoptions := overlay.adoptions.foldl (fun all pair => all.insert pair.1 pair.2) ∅
    hidden := overlay.hidden }

def module? (guest : Guest) (scope : Scope) : Option Guest.Module :=
  guest.modules[scope.index]?

def moduleName? (guest : Guest) (scope : Scope) : Option String :=
  (guest.module? scope).map Module.name

def isDefined (guest : Guest) (scope : Scope) : Bool :=
  ((guest.module? scope).map Module.defined).getD false

def isPredefined (guest : Guest) (global : String) : Bool :=
  guest.predefined.contains global

def addModule (guest : Guest) (name : String) (defined : Bool) : Scope × Guest :=
  (Scope.atIndex guest.modules.length,
    { guest with
      modules := guest.modules ++ [{ name, superclass := some guest.object, defined }] })

def changeModule (guest : Guest) (scope : Scope) (change : Guest.Module → Guest.Module) : Guest :=
  { guest with modules := guest.modules.modify scope.index change }

/-- Completes the definition of a reserved module; false if there is no such module. -/
def define (guest : Guest) (scope : Scope) : Bool × Guest :=
  ((guest.module? scope).isSome,
    guest.changeModule scope fun held => { held with defined := true })

theorem module?_changeModule (guest : Guest) (scope other : Scope)
    (change : Guest.Module → Guest.Module) :
    (guest.changeModule scope change).module? other =
      if other = scope then (guest.module? other).map change else guest.module? other := by
  have sameIndex : scope.index = other.index ↔ other = scope :=
    ⟨fun same => by rw [← Scope.atIndex_index other, ← same, Scope.atIndex_index],
      fun same => same ▸ rfl⟩
  simp only [module?, changeModule, List.getElem?_modify, sameIndex]
  by_cases same : other = scope <;> simp [same]

theorem changeModule_changeModule (guest : Guest) (scope : Scope)
    (first second : Guest.Module → Guest.Module) :
    (guest.changeModule scope first).changeModule scope second =
      guest.changeModule scope (second ∘ first) := by
  simp only [changeModule, List.modify_modify_eq]

theorem changeModule_comm {left right : Scope} (different : left ≠ right) (guest : Guest)
    (first second : Guest.Module → Guest.Module) :
    (guest.changeModule left first).changeModule right second =
      (guest.changeModule right second).changeModule left first := by
  have apart : left.index ≠ right.index := fun same =>
    different (by rw [← Scope.atIndex_index left, same, Scope.atIndex_index])
  simp only [changeModule, List.modify_modify_ne first second _ apart]

end Guest

end SharedBindings
