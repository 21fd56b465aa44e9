import SharedBindings.Guest.Basic

/-!
# Cells

Where the guest keeps values. A place is one of its tables, a cell is a name in a place. Every
kind of binding has its own places, except that a local-style name and the global that it
stands for share a cell.
-/

namespace SharedBindings

inductive Place where
  | within (scope : Scope) (slot : Guest.Slot)
  | globals
  | locals
deriving DecidableEq

/-- The scope that a place belongs to; the process-wide places have none. -/
def Place.scope? : Place → Option Scope
  | .within scope _ => some scope
  | .globals => none
  | .locals => none

structure Cell where
  place : Place
  name : String
deriving DecidableEq

/-- The place in which a kind of binding is kept. The scope matters to the kinds that are kept
per scope. -/
def Kind.place (kind : Kind) (scope : Scope) : Place :=
  match kind with
  | .constant => .within scope .constants
  | .instanceVariable => .within scope .instanceVariables
  | .classVariable => .within scope .classVariables
  | .localGlobal => .globals
  | .globalVariable => .globals
  | .localVariable => .locals

def Kind.cell (kind : Kind) (scope : Scope) (name : String) : Cell :=
  ⟨kind.place scope, kind.guestName name⟩

namespace Guest

def table (guest : Guest) : Place → Table
  | .within scope slot => ((guest.module? scope).map (·.table slot)).getD ∅
  | .globals => guest.globals
  | .locals => guest.locals

/-- Changes the table at a place. A scope without a module has no tables to change. -/
def changeTable (guest : Guest) (place : Place) (change : Table → Table) : Guest :=
  match place with
  | .within scope slot => guest.changeModule scope (·.changeTable slot change)
  | .globals => { guest with globals := change guest.globals }
  | .locals => { guest with locals := change guest.locals }

def has (guest : Guest) (place : Place) : Bool :=
  place.scope?.all fun scope => (guest.module? scope).isSome

def names (guest : Guest) (place : Place) : List String :=
  (guest.table place).keys

/-- What a cell holds, hidden or not. -/
def content (guest : Guest) (cell : Cell) : Option Value :=
  (guest.table cell.place).lookup cell.name

def read (guest : Guest) (cell : Cell) : Option Value :=
  if guest.hidden.contains cell.name then none else guest.content cell

def write (guest : Guest) (cell : Cell) (value : Value) : Guest :=
  guest.changeTable cell.place (·.insert cell.name value)

def erase (guest : Guest) (cell : Cell) : Guest :=
  guest.changeTable cell.place (·.erase cell.name)

def readings (guest : Guest) (place : Place) : List (String × Option Value) :=
  (guest.names place).map fun name => (name, guest.read ⟨place, name⟩)

def setArguments (guest : Guest) (arguments : List String) : Guest :=
  guest.write (Kind.constant.cell guest.object argumentsName) (.list (arguments.map .text))

def clearLocals (guest : Guest) : Guest :=
  { guest with locals := ∅ }

variable (guest : Guest) (place other : Place) (change : Table → Table)

@[simp] theorem object_changeTable : (guest.changeTable place change).object = guest.object := by
  cases place <;> rfl

@[simp] theorem top_changeTable : (guest.changeTable place change).top = guest.top := by
  cases place <;> rfl

@[simp] theorem current_changeTable : (guest.changeTable place change).current = guest.current := by
  cases place <;> rfl

@[simp] theorem predefined_changeTable :
    (guest.changeTable place change).predefined = guest.predefined := by
  cases place <;> rfl

@[simp] theorem adoptions_changeTable :
    (guest.changeTable place change).adoptions = guest.adoptions := by
  cases place <;> rfl

@[simp] theorem hidden_changeTable : (guest.changeTable place change).hidden = guest.hidden := by
  cases place <;> rfl

/-- Changing a table keeps every module, and what does not look at tables sees no difference. -/
theorem map_module?_changeTable {α : Type} (view : Guest.Module → α)
    (blind : ∀ held slot, view (held.changeTable slot change) = view held) (scope : Scope) :
    ((guest.changeTable place change).module? scope).map view = (guest.module? scope).map view := by
  cases place with
  | globals => rfl
  | locals => rfl
  | within owner slot =>
      rw [changeTable, module?_changeModule]
      split
      · rw [Option.map_map]
        exact congrArg (fun each => (guest.module? scope).map each)
          (funext fun held => blind held slot)
      · rfl

@[simp] theorem isDefined_changeTable (scope : Scope) :
    (guest.changeTable place change).isDefined scope = guest.isDefined scope := by
  have kept := guest.map_module?_changeTable place change Module.defined (by simp) scope
  exact congrArg (Option.getD · false) kept

@[simp] theorem has_changeTable : (guest.changeTable place change).has other = guest.has other := by
  cases other with
  | globals => rfl
  | locals => rfl
  | within scope slot =>
      have kept := guest.map_module?_changeTable place change (fun _ => ()) (fun _ _ => rfl) scope
      simpa [has, Place.scope?] using congrArg Option.isSome kept

theorem table_changeTable_self :
    (guest.changeTable place change).table place =
      if guest.has place then change (guest.table place) else guest.table place := by
  cases place with
  | globals => rfl
  | locals => rfl
  | within scope slot =>
      cases found : guest.module? scope <;>
        simp [table, changeTable, has, Place.scope?, module?_changeModule, found,
          Module.table_changeTable]

theorem table_changeTable_other {place other : Place} (different : other ≠ place)
    (change : Table → Table) :
    (guest.changeTable place change).table other = guest.table other := by
  match place, other with
  | .globals, .globals => exact absurd rfl different
  | .locals, .locals => exact absurd rfl different
  | .globals, .locals | .globals, .within _ _ | .locals, .globals | .locals, .within _ _
  | .within _ _, .globals | .within _ _, .locals => rfl
  | .within owner slot, .within scope otherSlot =>
      rw [changeTable, table, module?_changeModule]
      split
      · rename_i sameScope
        have apart : otherSlot ≠ slot := fun sameSlot => different (sameScope ▸ sameSlot ▸ rfl)
        cases found : guest.module? scope <;> simp [table, found, Module.table_changeTable, apart]
      · rfl

theorem table_of_not_has {place : Place} (missing : guest.has place = false) :
    guest.table place = ∅ := by
  cases place with
  | globals => simp [has, Place.scope?] at missing
  | locals => simp [has, Place.scope?] at missing
  | within scope slot =>
      have absent : guest.module? scope = none := by simpa [has, Place.scope?] using missing
      simp [table, absent]

theorem changeTable_comm {place other : Place} (different : place ≠ other)
    (first second : Table → Table) :
    (guest.changeTable place first).changeTable other second =
      (guest.changeTable other second).changeTable place first := by
  match place, other with
  | .globals, .globals => exact absurd rfl different
  | .locals, .locals => exact absurd rfl different
  | .globals, .locals | .globals, .within _ _ | .locals, .globals | .locals, .within _ _
  | .within _ _, .globals | .within _ _, .locals => rfl
  | .within owner slot, .within scope otherSlot =>
      simp only [changeTable]
      by_cases sameScope : owner = scope
      · subst sameScope
        have apart : slot ≠ otherSlot := fun sameSlot => different (sameSlot ▸ rfl)
        simp only [changeModule_changeModule]
        refine congrArg (guest.changeModule owner) (funext fun held => ?_)
        exact held.changeTable_comm apart first second
      · exact changeModule_comm sameScope guest _ _

theorem changeTable_of_fixed (fixed : change (guest.table place) = guest.table place) :
    guest.changeTable place change = guest := by
  cases place with
  | globals => exact congrArg (fun globals => { guest with globals }) fixed
  | locals => exact congrArg (fun locals => { guest with locals }) fixed
  | within scope slot =>
      rw [changeTable, changeModule]
      suffices guest.modules.modify scope.index (·.changeTable slot change) = guest.modules by
        rw [this]
      apply List.ext_getElem?
      intro index
      rw [List.getElem?_modify]
      by_cases here : scope.index = index
      · cases found : guest.modules[index]? with
        | none => rfl
        | some held =>
            have stored : guest.module? scope = some held := by rw [module?, here, found]
            have unchanged : change (held.table slot) = held.table slot := by
              simpa [table, stored] using fixed
            simp [here, held.changeTable_of_fixed unchanged]
      · simp [here]

variable (cell target : Cell) (value : Value)

theorem write_comm (different : cell.place ≠ target.place) (first second : Value) :
    (guest.write cell first).write target second = (guest.write target second).write cell first :=
  guest.changeTable_comm different _ _

theorem write_of_content (stored : guest.content cell = some value) :
    guest.write cell value = guest :=
  guest.changeTable_of_fixed cell.place _ (OrderedMap.insert_of_lookup stored)

theorem erase_of_no_content (missing : guest.content cell = none) : guest.erase cell = guest :=
  guest.changeTable_of_fixed cell.place _ (OrderedMap.erase_of_lookup_none missing)

theorem content_write :
    (guest.write cell value).content target =
      if target = cell ∧ guest.has cell.place then some value else guest.content target := by
  by_cases samePlace : target.place = cell.place
  · rw [content, write, samePlace, table_changeTable_self]
    by_cases present : guest.has cell.place = true
    · simp only [present, if_true, OrderedMap.lookup_insert, and_true]
      by_cases sameName : target.name = cell.name
      · have same : target = cell := by cases target; cases cell; simp_all
        simp [same]
      · have different : target ≠ cell := fun same => sameName (same ▸ rfl)
        simp [different, sameName, content, samePlace]
    · simp [present, content, samePlace]
  · have different : target ≠ cell := fun same => samePlace (same ▸ rfl)
    simp [content, write, table_changeTable_other guest samePlace, different]

theorem read_eq_some_iff {guest : Guest} {cell : Cell} {value : Value} :
    guest.read cell = some value ↔
      guest.hidden.contains cell.name = false ∧ guest.content cell = some value := by
  rw [read]
  cases guest.hidden.contains cell.name <;> simp

theorem content_erase :
    (guest.erase cell).content target = if target = cell then none else guest.content target := by
  by_cases samePlace : target.place = cell.place
  · rw [content, erase, samePlace, table_changeTable_self]
    cases present : guest.has cell.place with
    | true =>
        simp only [if_true, OrderedMap.lookup_erase]
        by_cases sameName : target.name = cell.name
        · have same : target = cell := by cases target; cases cell; simp_all
          simp [same]
        · have different : target ≠ cell := fun same => sameName (same ▸ rfl)
          simp [different, sameName, content, samePlace]
    | false => simp [content, samePlace, guest.table_of_not_has present]
  · have different : target ≠ cell := fun same => samePlace (same ▸ rfl)
    simp [content, erase, table_changeTable_other guest samePlace, different]

/-- The names of a table keep their order when a cell goes. -/
theorem names_erase (place : Place) :
    (guest.erase cell).names place = (guest.names place).filter fun name => cell ≠ ⟨place, name⟩ := by
  by_cases here : place = cell.place
  · subst here
    have named : (fun name => decide (cell ≠ ⟨cell.place, name⟩)) =
        fun name => decide (name ≠ cell.name) := by
      funext name
      refine decide_eq_decide.mpr (not_congr ⟨fun same => ?_, fun same => ?_⟩)
      · exact (congrArg Cell.name same).symm
      · rw [same]
    rw [names, erase, table_changeTable_self, named]
    cases present : guest.has cell.place with
    | true => exact OrderedMap.keys_erase _ _
    | false =>
        rw [names, guest.table_of_not_has present]
        rfl
  · rw [names, erase, table_changeTable_other guest here, names, eq_comm, List.filter_eq_self]
    exact fun name _ => decide_eq_true fun same => here (congrArg Cell.place same).symm

end Guest

end SharedBindings
