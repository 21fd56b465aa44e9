import Mathlib.Data.List.Nodup
import SharedBindings.Exchange.Resync

/-!
# The books of a registry

Beside its entries a registry keeps an index of anchors by name and the number of the next handle.
`Registry.Booked` says that both agree with the entries: the index has the anchors of every name in
the order of the entries, and every handle leads to one binding only. Every change to a registry
keeps its books, whatever is written through handles in between.
-/

namespace SharedBindings.Registry

/-- The anchors that a name has among some keys, in their order. -/
def anchorsAmong (keys : List Key) (name : String) : List Scope :=
  (keys.filter fun key => key.name = name).map Key.anchor

/-- Every handle that leads anywhere: those of the entries, then those of what was removed. -/
def handles (registry : Registry) : List Handle :=
  (registry.entries.values ++ registry.released).map Entry.handle

structure Booked (registry : Registry) : Prop where
  index : ∀ name, registry.index.lookup name =
    match anchorsAmong registry.entries.keys name with
    | [] => none
    | first :: rest => some (first :: rest)
  issued : ∀ handle ∈ registry.handles, handle.serial < registry.issued
  apart : registry.handles.Nodup

variable {registry before after : Registry} {key other : Key} {entry held : Entry}

theorem Booked.anchorsOf_eq (booked : registry.Booked) (name : String) :
    registry.anchorsOf name = anchorsAmong registry.entries.keys name := by
  rw [anchorsOf, booked.index]
  cases anchorsAmong registry.entries.keys name <;> rfl

theorem mem_anchorsAmong_iff {keys : List Key} {name : String} {anchor : Scope} :
    anchor ∈ anchorsAmong keys name ↔ ⟨anchor, name⟩ ∈ keys := by
  simp only [anchorsAmong, List.mem_map, List.mem_filter, decide_eq_true_eq]
  constructor
  · rintro ⟨key, ⟨member, rfl⟩, rfl⟩
    exact member
  · intro member
    exact ⟨_, ⟨member, rfl⟩, rfl⟩

theorem mem_entries_of_entryAt? (stored : registry.entryAt? key = some entry) :
    (key, entry) ∈ registry.entries.entries :=
  OrderedMap.mem_entries_iff.mpr stored

/-- A handle is registered under one key only. -/
theorem Booked.eq_of_handle_eq (booked : registry.Booked)
    (stored : registry.entryAt? key = some entry) (alsoStored : registry.entryAt? other = some held)
    (sameHandle : entry.handle = held.handle) : key = other := by
  have apart : (registry.entries.entries.map fun pair => pair.2.handle).Nodup := by
    have registered := booked.apart
    rw [handles, List.map_append, List.nodup_append] at registered
    simpa [OrderedMap.values, Function.comp_def] using registered.1
  have same : (key, entry) = (other, held) :=
    List.inj_on_of_nodup_map apart (mem_entries_of_entryAt? stored)
      (mem_entries_of_entryAt? alsoStored) sameHandle
  exact congrArg Prod.fst same

theorem Booked.behind?_of_mem (booked : registry.Booked)
    (member : entry ∈ registry.entries.values ++ registry.released) :
    registry.behind? entry.handle = some entry.binding := by
  unfold behind?
  cases found : (registry.entries.values ++ registry.released).find? fun candidate =>
      candidate.handle = entry.handle with
  | none =>
      have missed := List.find?_eq_none.mp found entry member
      simp at missed
  | some candidate =>
      have sameHandle : candidate.handle = entry.handle := by simpa using List.find?_some found
      have same : candidate = entry :=
        List.inj_on_of_nodup_map booked.apart (List.mem_of_find?_eq_some found) member sameHandle
      rw [same]
      rfl

theorem Booked.behind?_of_entryAt? (booked : registry.Booked)
    (stored : registry.entryAt? key = some entry) :
    registry.behind? entry.handle = some entry.binding :=
  booked.behind?_of_mem (List.mem_append_left _ (List.mem_map_of_mem (mem_entries_of_entryAt? stored)))

/-- The books do not look at bindings. -/
theorem Booked.of_same (booked : before.Booked) (keys : after.entries.keys = before.entries.keys)
    (index : after.index = before.index) (issued : after.issued = before.issued)
    (handles : after.handles = before.handles) : after.Booked where
  index name := by rw [index, keys, booked.index]
  issued handle member := by
    rw [issued]
    exact booked.issued handle (handles ▸ member)
  apart := by
    rw [handles]
    exact booked.apart

theorem booked_empty (settings : Settings) : (empty settings).Booked where
  index _ := rfl
  issued _ member := nomatch member
  apart := List.nodup_nil

theorem map_handle_mapValues {change : Key → Entry → Entry}
    (kept : ∀ key entry, (change key entry).handle = entry.handle) (entries : OrderedMap Key Entry) :
    (entries.mapValues change).values.map Entry.handle = entries.values.map Entry.handle := by
  simp only [OrderedMap.values, OrderedMap.mapValues, List.map_map, Function.comp_def, kept]

section Changes

variable (update : Binding → Binding)

theorem Booked.changeAt (booked : registry.Booked) (key : Key) :
    (registry.changeAt key update).Booked := by
  apply booked.of_same (registry.keys_changeAt key update) rfl rfl
  rw [handles, handles, List.map_append, List.map_append]
  refine congrArg (· ++ _) (map_handle_mapValues (fun other entry => ?_) registry.entries)
  split <;> rfl

theorem Booked.changeAll (booked : registry.Booked) : (registry.changeAll update).Booked := by
  have keys : (registry.changeAll update).entries.keys = registry.entries.keys :=
    OrderedMap.keys_mapValues _
  apply booked.of_same keys rfl rfl
  rw [handles, handles, List.map_append, List.map_append]
  refine congrArg (· ++ _) (map_handle_mapValues (fun _ _ => ?_) registry.entries)
  rfl

theorem handle_changeOne (handle : Handle) (entry : Entry) :
    (if entry.handle = handle then entry.change update else entry).handle = entry.handle := by
  split <;> rfl

theorem map_handle_released_changeHeld (handle : Handle) :
    (registry.changeHeld handle update).released.map Entry.handle =
      registry.released.map Entry.handle := by
  simp only [Registry.changeHeld, List.map_map, Function.comp_def, handle_changeOne]

theorem Booked.changeHeld (booked : registry.Booked) (handle : Handle) :
    (registry.changeHeld handle update).Booked := by
  have keys : (registry.changeHeld handle update).entries.keys = registry.entries.keys :=
    OrderedMap.keys_mapValues _
  apply booked.of_same keys rfl rfl
  rw [handles, handles, List.map_append, List.map_append, map_handle_released_changeHeld]
  exact congrArg (· ++ _)
    (map_handle_mapValues (fun _ entry => handle_changeOne update handle entry) registry.entries)

end Changes

theorem anchorsAmong_concat (keys : List Key) (key : Key) (name : String) :
    anchorsAmong (keys ++ [key]) name =
      anchorsAmong keys name ++ if name = key.name then [key.anchor] else [] := by
  rw [anchorsAmong, List.filter_append, List.map_append]
  by_cases here : name = key.name
  · simp [anchorsAmong, here]
  · simp [anchorsAmong, here, Ne.symm here]

theorem anchorsAmong_filter (keys : List Key) (key : Key) (name : String) :
    anchorsAmong (keys.filter (· ≠ key)) name =
      if name = key.name then (anchorsAmong keys name).filter (· ≠ key.anchor)
      else anchorsAmong keys name := by
  have apart (other : Key) (sameName : other.name = key.name) :
      other ≠ key ↔ other.anchor ≠ key.anchor := by
    cases other
    cases key
    simp_all
  by_cases here : name = key.name
  · subst here
    rw [if_pos rfl, anchorsAmong, anchorsAmong, List.filter_map, List.filter_filter,
      List.filter_filter]
    refine congrArg (List.map Key.anchor) (List.filter_congr fun other _ => ?_)
    by_cases sameName : other.name = key.name
    · simp [sameName, apart other sameName]
    · simp [sameName]
  · rw [if_neg here, anchorsAmong, anchorsAmong, List.filter_filter]
    refine congrArg (List.map Key.anchor) (List.filter_congr fun other _ => ?_)
    by_cases sameName : other.name = name
    · have different : other ≠ key := fun same => here (sameName.symm.trans (same ▸ rfl))
      simp [sameName, different]
    · simp [sameName]

theorem handles_upsert_perm {binding : Binding} (absent : registry.entryAt? binding.key = none) :
    (registry.upsert binding).2.handles.Perm (⟨registry.issued⟩ :: registry.handles) := by
  have values (entry : Entry) : (registry.entries.insert binding.key entry).values =
      registry.entries.values ++ [entry] := by
    rw [OrderedMap.values, OrderedMap.entries_insert_of_absent entry absent, List.map_append]
    rfl
  simp only [upsert, absent, handles, values, List.append_assoc, List.map_append]
  exact List.perm_middle

theorem handles_remove_perm (registry : Registry) (key : Key) :
    (registry.remove key).2.handles.Perm registry.handles := by
  cases stored : registry.entryAt? key with
  | none => simp only [remove, stored, List.Perm.refl]
  | some entry =>
      have taken : registry.entries.values.Perm (entry :: (registry.entries.erase key).values) :=
        (OrderedMap.perm_erase_of_lookup stored).map Prod.snd
      have held : (registry.entries.values ++ registry.released).Perm
          ((registry.entries.erase key).values ++ (registry.released ++ [entry])) := by
        refine (taken.append_right _).trans ?_
        rw [← List.append_assoc]
        exact (List.perm_append_singleton entry _).symm
      simp only [remove, stored, handles]
      exact (held.map Entry.handle).symm

theorem Booked.upsert (booked : registry.Booked) (binding : Binding) :
    (registry.upsert binding).2.Booked := by
  cases stored : registry.entryAt? binding.key with
  | some entry =>
      simp only [Registry.upsert, stored]
      exact booked.changeAt _ binding.key
  | none =>
      have absent : binding.key ∉ registry.entries.keys := OrderedMap.lookup_eq_none_iff.mp stored
      have books := handles_upsert_perm stored
      have issued : (registry.upsert binding).2.issued = registry.issued + 1 := by
        simp only [Registry.upsert, stored]
      constructor
      case index =>
        intro name
        simp only [Registry.upsert, stored, OrderedMap.keys_insert, if_neg absent,
          anchorsAmong_concat, OrderedMap.lookup_insert]
        by_cases here : name = binding.name
        · subst here
          have last : binding.name = binding.key.name := rfl
          rw [if_pos rfl, if_pos last, booked.anchorsOf_eq]
          cases anchorsAmong registry.entries.keys binding.name <;> rfl
        · have other : name ≠ binding.key.name := here
          rw [if_neg here, if_neg other, List.append_nil]
          exact booked.index name
      case issued =>
        intro handle member
        rw [issued]
        rcases List.mem_cons.mp (books.mem_iff.mp member) with rfl | old
        · exact Nat.lt_succ_self _
        · exact Nat.lt_succ_of_lt (booked.issued handle old)
      case apart =>
        refine books.nodup_iff.mpr (List.nodup_cons.mpr ⟨fun old => ?_, booked.apart⟩)
        exact Nat.lt_irrefl _ (booked.issued _ old)

theorem Booked.remove (booked : registry.Booked) (key : Key) : (registry.remove key).2.Booked := by
  cases stored : registry.entryAt? key with
  | none =>
      simp only [Registry.remove, stored]
      exact booked
  | some entry =>
      have books := registry.handles_remove_perm key
      have issued : (registry.remove key).2.issued = registry.issued := by
        simp only [Registry.remove, stored]
      constructor
      case index =>
        intro name
        rw [keys_remove, anchorsAmong_filter]
        simp only [Registry.remove, stored, booked.anchorsOf_eq]
        by_cases here : name = key.name
        · subst here
          rw [if_pos rfl]
          cases (anchorsAmong registry.entries.keys key.name).filter (· ≠ key.anchor) with
          | nil => simp [OrderedMap.lookup_erase]
          | cons first rest => simp
        · rw [if_neg here, ← booked.index name]
          split
          · rw [OrderedMap.lookup_erase, if_neg here]
          · rw [OrderedMap.lookup_insert, if_neg here]
      case issued =>
        intro handle member
        rw [issued]
        exact booked.issued handle (books.mem_iff.mp member)
      case apart => exact books.nodup_iff.mpr booked.apart

theorem Booked.observe (booked : registry.Booked) (kind : Kind) (key : Key) (value : Value) :
    (registry.observe kind key value).Booked := by
  unfold Registry.observe
  cases registry.entryAt? key with
  | some entry => exact booked.changeAt _ key
  | none =>
      cases Binding.ofGuest? kind key value with
      | none => exact booked
      | some binding => exact booked.upsert binding

section Resync

variable {guest : Guest} {receiver : Scope} {kind : Kind}

theorem Booked.observeAll (booked : registry.Booked) (kind : Kind) (sightings : List Sighting) :
    (registry.observeAll kind sightings).Booked := by
  induction sightings generalizing registry with
  | nil => exact booked
  | cons first rest ih => exact ih (booked.observe kind first.key first.value)

theorem Booked.observeArguments (booked : registry.Booked) :
    (registry.observeArguments guest).2.Booked := by
  unfold Registry.observeArguments
  cases guest.arguments? with
  | none => exact booked
  | some value => exact booked.observe .constant _ value

theorem Booked.observeAbove (booked : registry.Booked) : (registry.observeAbove guest).Booked := by
  unfold Registry.observeAbove
  cases guest.superclass? guest.top with
  | none => exact booked
  | some parent => exact booked.changeAll _

theorem Booked.resyncKind (booked : registry.Booked) :
    (registry.resyncKind guest receiver kind).Booked := by
  cases kind with
  | constant => exact booked.observeArguments.observeAbove.observeAll _ _
  | localVariable | localGlobal | instanceVariable | classVariable | globalVariable =>
      exact booked.observeAll _ _

theorem Booked.resync (booked : registry.Booked) : (registry.resync guest receiver).Booked := by
  have passes (kinds : List Kind) (known : Registry) (booked : known.Booked) :
      (kinds.foldl (fun known kind => known.resyncKind guest receiver kind) known).Booked := by
    induction kinds generalizing known with
    | nil => exact booked
    | cons kind rest ih => exact ih _ booked.resyncKind
  unfold Registry.resync
  split
  · exact booked
  · exact passes _ registry booked

theorem Booked.pull (booked : registry.Booked) (name : String) :
    (registry.pull guest receiver kind name).2.Booked := by
  unfold Registry.pull
  split
  · split
    · exact booked.observeArguments
    · cases guest.readFirst (guest.searchPath kind receiver name) with
      | none => exact booked
      | some value => exact booked.observe kind _ value
  · exact booked

end Resync

end SharedBindings.Registry
