import SharedBindings.Proofs.Registry.Bookkeeping

/-!
# Registries are rosters

Apart from the bindings behind its handles, a registry is a roster: the list of its keys, each with
the handle that was given out when the key arrived. The roster is all there is to the answers of a
registry. Its index says the same as the roster about every name, in whatever order names come, go
and come again, and whatever is written through handles in between.
-/

namespace SharedBindings

/-- Keys with their handles, in the order in which the keys arrived. -/
structure Roster where
  rows : List (Key × Handle)
  /-- How many handles have been given out. The next one gets this number. -/
  issued : Nat
deriving DecidableEq

namespace Roster

def empty : Roster :=
  ⟨[], 0⟩

def handle? (roster : Roster) (key : Key) : Option Handle :=
  (roster.rows.find? fun row => row.1 = key).map Prod.snd

/-- A key that is listed keeps its row; another one is listed last, with a new handle. -/
def enter (roster : Roster) (key : Key) : Handle × Roster :=
  match roster.handle? key with
  | some handle => (handle, roster)
  | none =>
      (⟨roster.issued⟩,
        { rows := roster.rows ++ [(key, ⟨roster.issued⟩)], issued := roster.issued + 1 })

/-- Takes the row of a key out and leaves the others in their order. -/
def strike (roster : Roster) (key : Key) : Option Handle × Roster :=
  (roster.handle? key, { roster with rows := roster.rows.filter fun row => row.1 ≠ key })

def keys (roster : Roster) : List Key :=
  roster.rows.map Prod.fst

/-- The rows with a name, under whatever anchors. -/
def named (roster : Roster) (name : String) : List (Key × Handle) :=
  roster.rows.filter fun row => row.1.name = name

theorem handle?_of_mem {roster : Roster} (distinct : roster.keys.Nodup) {row : Key × Handle}
    (member : row ∈ roster.rows) : roster.handle? row.1 = some row.2 := by
  unfold handle?
  cases found : roster.rows.find? fun candidate => candidate.1 = row.1 with
  | none =>
      have missed := List.find?_eq_none.mp found row member
      simp at missed
  | some candidate =>
      have sameKey : candidate.1 = row.1 := by simpa using List.find?_some found
      have same : candidate = row :=
        List.inj_on_of_nodup_map distinct (List.mem_of_find?_eq_some found) member sameKey
      rw [same, Option.map_some]

end Roster

namespace Registry

/-- What can happen to a registry and the bindings that its handles lead to. -/
inductive Change where
  | upsert (binding : Binding)
  | remove (key : Key)
  /-- Anything written through a handle, a whole other binding included. -/
  | rewrite (handle : Handle) (update : Binding → Binding)

/-- Makes a change and tells the handle that it hands out. -/
def make (registry : Registry) : Change → Option Handle × Registry
  | .upsert binding =>
      let (handle, after) := registry.upsert binding
      (some handle, after)
  | .remove key =>
      let (entry, after) := registry.remove key
      (entry.map Entry.handle, after)
  | .rewrite handle update => (none, registry.changeHeld handle update)

def makeAll (registry : Registry) : List Change → List (Option Handle) × Registry
  | [] => ([], registry)
  | change :: rest =>
      let (handle, next) := registry.make change
      let (handles, last) := next.makeAll rest
      (handle :: handles, last)

def rows (registry : Registry) : List (Key × Handle) :=
  registry.entries.entries.map fun pair => (pair.1, pair.2.handle)

end Registry

namespace Roster

/-- What a change is to a roster: of a binding it takes the key alone, and what is written through a
handle is nothing to it. -/
def make (roster : Roster) : Registry.Change → Option Handle × Roster
  | .upsert binding =>
      let (handle, after) := roster.enter binding.key
      (some handle, after)
  | .remove key => roster.strike key
  | .rewrite _ _ => (none, roster)

def makeAll (roster : Roster) : List Registry.Change → List (Option Handle) × Roster
  | [] => ([], roster)
  | change :: rest =>
      let (handle, next) := roster.make change
      let (handles, last) := next.makeAll rest
      (handle :: handles, last)

end Roster

namespace Registry

variable {registry : Registry} {roster : Roster} {key : Key} {name : String}

/-- A registry whose books are in order and whose rows are those of a roster. -/
structure Keeps (registry : Registry) (roster : Roster) : Prop where
  booked : registry.Booked
  rows : registry.rows = roster.rows
  issued : registry.issued = roster.issued

theorem keys_eq_map_rows (registry : Registry) :
    registry.entries.keys = registry.rows.map Prod.fst := by
  rw [rows, List.map_map]
  rfl

theorem map_handle_values (registry : Registry) :
    registry.entries.values.map Entry.handle = registry.rows.map Prod.snd := by
  rw [rows, OrderedMap.values, List.map_map, List.map_map]
  rfl

theorem handle?_eq_find?_rows (registry : Registry) (key : Key) :
    registry.handle? key = (registry.rows.find? fun row => row.1 = key).map Prod.snd := by
  have scan (entries : List (Key × Entry)) :
      (Entries.lookup key entries).map Entry.handle =
        ((entries.map fun pair => (pair.1, pair.2.handle)).find? fun row => row.1 = key).map
          Prod.snd := by
    induction entries with
    | nil => rfl
    | cons pair rest ih =>
        rw [List.map_cons, List.find?_cons, Entries.lookup]
        by_cases here : key = pair.1
        · simp [here]
        · simp only [here, Ne.symm here, if_false, decide_false, ih]
  exact scan registry.entries.entries

theorem Keeps.handle? (keeps : registry.Keeps roster) (key : Key) :
    registry.handle? key = roster.handle? key := by
  rw [handle?_eq_find?_rows, keeps.rows, Roster.handle?]

theorem rows_mapValues {change : Key → Entry → Entry}
    (kept : ∀ key entry, (change key entry).handle = entry.handle) (registry : Registry) :
    { registry with entries := registry.entries.mapValues change }.rows = registry.rows := by
  simp only [rows, OrderedMap.mapValues, List.map_map, Function.comp_def, kept]

theorem rows_changeAt (registry : Registry) (key : Key) (update : Binding → Binding) :
    (registry.changeAt key update).rows = registry.rows := by
  refine registry.rows_mapValues fun other entry => ?_
  split <;> rfl

theorem rows_changeHeld (registry : Registry) (handle : Handle) (update : Binding → Binding) :
    (registry.changeHeld handle update).rows = registry.rows := by
  refine registry.rows_mapValues fun other entry => ?_
  split <;> rfl

theorem rows_remove (registry : Registry) (key : Key) :
    (registry.remove key).2.rows = registry.rows.filter fun row => row.1 ≠ key := by
  have erased : (registry.remove key).2.entries = registry.entries.erase key := by
    unfold remove
    cases stored : registry.entryAt? key with
    | some entry => rfl
    | none => exact (OrderedMap.erase_of_lookup_none stored).symm
  rw [rows, erased, rows, List.filter_map]
  rfl

theorem keeps_empty (settings : Settings) : (empty settings).Keeps Roster.empty :=
  ⟨booked_empty settings, rfl, rfl⟩

theorem Keeps.upsert (keeps : registry.Keeps roster) (binding : Binding) :
    (registry.upsert binding).1 = (roster.enter binding.key).1 ∧
      (registry.upsert binding).2.Keeps (roster.enter binding.key).2 := by
  have booked := keeps.booked.upsert binding
  cases stored : registry.entryAt? binding.key with
  | some entry =>
      have listed : roster.handle? binding.key = some entry.handle := by
        rw [← keeps.handle?, Registry.handle?, stored, Option.map_some]
      simp only [Registry.upsert, stored] at booked ⊢
      simp only [Roster.enter, listed]
      exact ⟨trivial, booked, (registry.rows_changeAt _ _).trans keeps.rows, keeps.issued⟩
  | none =>
      have unlisted : roster.handle? binding.key = none := by
        rw [← keeps.handle?, Registry.handle?, stored, Option.map_none]
      have appended (entry : Entry) :
          (registry.entries.insert binding.key entry).entries =
            registry.entries.entries ++ [(binding.key, entry)] :=
        OrderedMap.entries_insert_of_absent entry stored
      simp only [Registry.upsert, stored] at booked ⊢
      simp only [Roster.enter, unlisted, ← keeps.issued]
      refine ⟨trivial, booked, ?_, rfl⟩
      rw [Registry.rows, appended, List.map_append, ← keeps.rows]
      rfl

theorem Keeps.remove (keeps : registry.Keeps roster) (key : Key) :
    (registry.remove key).1.map Entry.handle = (roster.strike key).1 ∧
      (registry.remove key).2.Keeps (roster.strike key).2 := by
  have handle : (registry.remove key).1.map Entry.handle = registry.handle? key := by
    unfold Registry.remove Registry.handle?
    cases registry.entryAt? key <;> rfl
  have issued : (registry.remove key).2.issued = registry.issued := by
    unfold Registry.remove
    cases registry.entryAt? key <;> rfl
  constructor
  · rw [handle, keeps.handle?]
    rfl
  · constructor
    case booked => exact keeps.booked.remove key
    case rows => rw [rows_remove, keeps.rows, Roster.strike]
    case issued => rw [issued, keeps.issued, Roster.strike]

theorem Keeps.make (keeps : registry.Keeps roster) (change : Change) :
    (registry.make change).1 = (roster.make change).1 ∧
      (registry.make change).2.Keeps (roster.make change).2 := by
  cases change with
  | upsert binding =>
      obtain ⟨sameHandle, kept⟩ := keeps.upsert binding
      exact ⟨congrArg some sameHandle, kept⟩
  | remove key => exact keeps.remove key
  | rewrite handle update =>
      have booked := keeps.booked.changeHeld update handle
      exact ⟨rfl, booked, (registry.rows_changeHeld handle update).trans keeps.rows, keeps.issued⟩

theorem Keeps.makeAll (keeps : registry.Keeps roster) (changes : List Change) :
    (registry.makeAll changes).1 = (roster.makeAll changes).1 ∧
      (registry.makeAll changes).2.Keeps (roster.makeAll changes).2 := by
  induction changes generalizing registry roster with
  | nil => exact ⟨rfl, keeps⟩
  | cons change rest ih =>
      obtain ⟨sameHandle, kept⟩ := keeps.make change
      obtain ⟨sameHandles, last⟩ := ih kept
      exact ⟨congrArg₂ List.cons sameHandle sameHandles, last⟩

/-- What a registry tells about itself, read off a roster. -/
structure Tells (registry : Registry) (roster : Roster) : Prop where
  rows : registry.rows = roster.rows
  distinctKeys : roster.keys.Nodup
  distinctHandles : (roster.rows.map Prod.snd).Nodup
  size : registry.size = roster.rows.length
  lookup : ∀ key, registry.handle? key = roster.handle? key
  /-- Names and bindings run parallel to the rows. -/
  names : registry.names = roster.keys.map Key.name
  bindings : registry.bindings.map some = roster.rows.map fun row => registry.behind? row.2
  anchors : ∀ name, registry.anchorsOf name = (roster.named name).map fun row => row.1.anchor
  distinctAnchors : ∀ name, (registry.anchorsOf name).Nodup
  contains : ∀ name, registry.containsName name = true ↔ registry.anchorsOf name ≠ []
  first : ∀ name, (registry.firstNamed? name).bind registry.handle? =
    (roster.named name).head?.map Prod.snd

theorem nodup_anchorsAmong {keys : List Key} (distinct : keys.Nodup) (name : String) :
    (anchorsAmong keys name).Nodup := by
  refine (distinct.filter _).map_on fun first firstMember second secondMember sameAnchor => ?_
  have firstName : first.name = name := by simpa using (List.mem_filter.mp firstMember).2
  have secondName : second.name = name := by simpa using (List.mem_filter.mp secondMember).2
  cases first
  cases second
  simp_all

theorem Booked.containsName_iff (booked : registry.Booked) (name : String) :
    registry.containsName name = true ↔ registry.anchorsOf name ≠ [] := by
  rw [booked.anchorsOf_eq, containsName, booked.index]
  cases anchorsAmong registry.entries.keys name <;> simp

/-- The index leads to the earliest entry with a name. -/
theorem Booked.firstNamed?_eq (booked : registry.Booked) (name : String) :
    registry.firstNamed? name = registry.entries.keys.find? fun key => key.name = name := by
  rw [firstNamed?, booked.anchorsOf_eq, anchorsAmong, List.head?_map, List.head?_filter,
    Option.map_map]
  cases found : registry.entries.keys.find? fun key => key.name = name with
  | none => rfl
  | some key =>
      have named : key.name = name := by simpa using List.find?_some found
      simp [← named]

theorem Keeps.bindings (keeps : registry.Keeps roster) :
    registry.bindings.map some = roster.rows.map fun row => registry.behind? row.2 := by
  rw [← keeps.rows, Registry.bindings, Registry.rows, OrderedMap.values, List.map_map, List.map_map,
    List.map_map]
  refine List.map_congr_left fun pair member => ?_
  exact (keeps.booked.behind?_of_entryAt? (OrderedMap.mem_entries_iff.mp member)).symm

theorem Keeps.anchorsOf (keeps : registry.Keeps roster) (name : String) :
    registry.anchorsOf name = (roster.named name).map fun row => row.1.anchor := by
  rw [keeps.booked.anchorsOf_eq, anchorsAmong, keys_eq_map_rows, keeps.rows, List.filter_map,
    List.map_map]
  rfl

theorem Keeps.distinctKeys (keeps : registry.Keeps roster) : roster.keys.Nodup := by
  rw [Roster.keys, ← keeps.rows, ← keys_eq_map_rows]
  exact registry.entries.keys_nodup

theorem Keeps.first (keeps : registry.Keeps roster) (name : String) :
    (registry.firstNamed? name).bind registry.handle? =
      (roster.named name).head?.map Prod.snd := by
  rw [keeps.booked.firstNamed?_eq, keys_eq_map_rows, keeps.rows, List.find?_map, Roster.named,
    List.head?_filter]
  change ((roster.rows.find? fun row => row.1.name = name).map Prod.fst).bind registry.handle? = _
  cases found : roster.rows.find? fun row => row.1.name = name with
  | none => rfl
  | some row =>
      have listed := Roster.handle?_of_mem keeps.distinctKeys (List.mem_of_find?_eq_some found)
      rw [Option.map_some, Option.bind_some, keeps.handle?, listed, Option.map_some]

theorem Keeps.tells (keeps : registry.Keeps roster) : registry.Tells roster where
  rows := keeps.rows
  distinctKeys := keeps.distinctKeys
  distinctHandles := by
    have apart := keeps.booked.apart
    rw [handles, List.map_append, List.nodup_append, map_handle_values, keeps.rows] at apart
    exact apart.1
  size := by
    rw [← keeps.rows, Registry.rows, List.length_map]
    rfl
  lookup := keeps.handle?
  names := by rw [Registry.names, keys_eq_map_rows, keeps.rows, Roster.keys]
  bindings := keeps.bindings
  anchors := keeps.anchorsOf
  distinctAnchors name := by
    rw [keeps.booked.anchorsOf_eq]
    exact nodup_anchorsAmong registry.entries.keys_nodup name
  contains := keeps.booked.containsName_iff
  first := keeps.first

/-- Whatever happens to an empty registry, it hands out the same handles as a roster to which the
same happens, and afterwards it tells what is on the roster. -/
theorem makeAll_tells_roster (settings : Settings) (changes : List Change) :
    ((empty settings).makeAll changes).1 = (Roster.empty.makeAll changes).1 ∧
      ((empty settings).makeAll changes).2.Tells (Roster.empty.makeAll changes).2 := by
  obtain ⟨sameHandles, keeps⟩ := (keeps_empty settings).makeAll changes
  exact ⟨sameHandles, keeps.tells⟩

end Registry

end SharedBindings
