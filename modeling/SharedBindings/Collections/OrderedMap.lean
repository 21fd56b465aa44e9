/-!
# Insertion-ordered maps

A map whose keys keep the order in which they first arrived. Writing a present key keeps its
place, writing a new one appends it, and erasing a key closes the gap without moving the others.
The list of entries is the one view: every operation is described by what it does to `lookup`
and to `keys`.
-/

universe u v

namespace SharedBindings.Entries

variable {κ : Type u} {ν : Type v} [DecidableEq κ]

def lookup (key : κ) : List (κ × ν) → Option ν
  | [] => none
  | entry :: rest => if key = entry.1 then some entry.2 else lookup key rest

/-- Writes `value` at `key`, in place if the key is present and at the end otherwise. -/
def insert (key : κ) (value : ν) : List (κ × ν) → List (κ × ν)
  | [] => [(key, value)]
  | entry :: rest =>
      if key = entry.1 then (key, value) :: rest else entry :: insert key value rest

theorem keys_insert (key : κ) (value : ν) (entries : List (κ × ν)) :
    (insert key value entries).map Prod.fst =
      if key ∈ entries.map Prod.fst then entries.map Prod.fst
      else entries.map Prod.fst ++ [key] := by
  induction entries with
  | nil => simp [insert]
  | cons entry rest ih =>
      by_cases here : key = entry.1
      · simp [insert, here]
      · by_cases present : key ∈ rest.map Prod.fst
        · simp only [present, if_true] at ih
          simp [insert, here, ih, present]
        · simp only [present, if_false] at ih
          simp [insert, here, ih, present]

theorem nodup_insert (key : κ) (value : ν) {entries : List (κ × ν)}
    (distinct : (entries.map Prod.fst).Nodup) :
    ((insert key value entries).map Prod.fst).Nodup := by
  rw [keys_insert]
  split
  · exact distinct
  · rename_i absent
    rw [List.nodup_append]
    refine ⟨distinct, by simp, ?_⟩
    intro other present candidate isKey
    rw [List.mem_singleton] at isKey
    subst isKey
    exact fun equal => absent (equal ▸ present)

theorem lookup_insert (key other : κ) (value : ν) (entries : List (κ × ν)) :
    lookup other (insert key value entries) =
      if other = key then some value else lookup other entries := by
  induction entries with
  | nil => rfl
  | cons entry rest ih =>
      by_cases here : key = entry.1
      · subst here
        by_cases same : other = entry.1 <;> simp [insert, lookup, same]
      · by_cases atHead : other = entry.1
        · subst atHead
          simp [insert, lookup, here, Ne.symm here]
        · simp [insert, lookup, here, atHead, ih]

theorem insert_of_lookup {key : κ} {value : ν} {entries : List (κ × ν)}
    (stored : lookup key entries = some value) : insert key value entries = entries := by
  induction entries with
  | nil => simp [lookup] at stored
  | cons entry rest ih =>
      by_cases here : key = entry.1
      · simp only [lookup, here, if_true, Option.some.injEq] at stored
        simp [insert, here, ← stored]
      · simp only [lookup, here, if_false] at stored
        simp [insert, here, ih stored]

theorem insert_of_absent {key : κ} {entries : List (κ × ν)} (value : ν)
    (absent : key ∉ entries.map Prod.fst) : insert key value entries = entries ++ [(key, value)] := by
  induction entries with
  | nil => rfl
  | cons entry rest ih =>
      rw [List.map_cons, List.mem_cons, not_or] at absent
      rw [insert, if_neg absent.1, ih absent.2]
      rfl

theorem insert_insert (key : κ) (first second : ν) (entries : List (κ × ν)) :
    insert key second (insert key first entries) = insert key second entries := by
  induction entries with
  | nil => simp [insert]
  | cons entry rest ih =>
      by_cases here : key = entry.1 <;> simp [insert, here, ih]

theorem lookup_eq_none_iff (key : κ) (entries : List (κ × ν)) :
    lookup key entries = none ↔ key ∉ entries.map Prod.fst := by
  induction entries with
  | nil => simp [lookup]
  | cons entry rest ih =>
      by_cases here : key = entry.1
      · simp [lookup, here]
      · simp only [lookup, here, if_false, ih, List.map_cons, List.mem_cons, false_or]

theorem lookup_filter (keep : κ → Bool) (key : κ) (entries : List (κ × ν)) :
    lookup key (entries.filter fun entry => keep entry.1) =
      if keep key then lookup key entries else none := by
  induction entries with
  | nil => simp [lookup]
  | cons entry rest ih =>
      by_cases kept : keep entry.1
      · by_cases here : key = entry.1
        · simp [lookup, here, kept]
        · simp [lookup, here, kept, ih]
      · by_cases here : key = entry.1
        · simp [here, kept] at ih ⊢
          exact ih
        · simp [lookup, here, kept, ih]

theorem lookup_map (change : κ → ν → ν) (key : κ) (entries : List (κ × ν)) :
    lookup key (entries.map fun entry => (entry.1, change entry.1 entry.2)) =
      (lookup key entries).map (change key) := by
  induction entries with
  | nil => rfl
  | cons entry rest ih =>
      by_cases here : key = entry.1
      · simp [lookup, here]
      · simp [lookup, here, ih]

theorem mem_iff_lookup {key : κ} {value : ν} {entries : List (κ × ν)}
    (distinct : (entries.map Prod.fst).Nodup) :
    (key, value) ∈ entries ↔ lookup key entries = some value := by
  induction entries with
  | nil => simp [lookup]
  | cons entry rest ih =>
      obtain ⟨head, held⟩ := entry
      rw [List.map_cons, List.nodup_cons] at distinct
      by_cases here : key = head
      · subst here
        have absent : (key, value) ∉ rest := fun member =>
          distinct.1 (List.mem_map.mpr ⟨_, member, rfl⟩)
        simp [lookup, absent, eq_comm]
      · simp [lookup, here, ih distinct.2]

theorem perm_filter_of_lookup {key : κ} {value : ν} {entries : List (κ × ν)}
    (distinct : (entries.map Prod.fst).Nodup) (stored : lookup key entries = some value) :
    entries.Perm ((key, value) :: entries.filter fun entry => entry.1 ≠ key) := by
  induction entries with
  | nil => simp [lookup] at stored
  | cons entry rest ih =>
      rw [List.map_cons, List.nodup_cons] at distinct
      by_cases here : key = entry.1
      · subst here
        simp only [lookup, if_true, Option.some.injEq] at stored
        have untouched : (rest.filter fun other => other.1 ≠ entry.1) = rest :=
          List.filter_eq_self.mpr fun other member => decide_eq_true fun same =>
            distinct.1 (same ▸ List.mem_map_of_mem member)
        rw [List.filter_cons_of_neg (by simp), untouched, ← stored]
      · simp only [lookup, here, if_false] at stored
        rw [List.filter_cons_of_pos (by simp [Ne.symm here])]
        exact ((ih distinct.2 stored).cons entry).trans (List.Perm.swap _ _ _)

theorem ext_lookup {left right : List (κ × ν)}
    (leftDistinct : (left.map Prod.fst).Nodup)
    (sameKeys : left.map Prod.fst = right.map Prod.fst)
    (sameValues : ∀ key, lookup key left = lookup key right) : left = right := by
  induction left generalizing right with
  | nil => exact (List.map_eq_nil_iff.mp sameKeys.symm).symm
  | cons entry rest ih =>
      match right with
      | [] => simp at sameKeys
      | other :: others =>
          obtain ⟨head, held⟩ := entry
          obtain ⟨otherHead, otherHeld⟩ := other
          rw [List.map_cons, List.nodup_cons] at leftDistinct
          simp only [List.map_cons, List.cons.injEq] at sameKeys
          obtain ⟨sameHead, sameRest⟩ := sameKeys
          subst sameHead
          have sameHeld : held = otherHeld := by simpa [lookup] using sameValues head
          have tails : rest = others := by
            apply ih leftDistinct.2 sameRest
            intro key
            by_cases here : key = head
            · subst here
              have absent : lookup key rest = none :=
                (lookup_eq_none_iff key rest).mpr leftDistinct.1
              have alsoAbsent : lookup key others = none :=
                (lookup_eq_none_iff key others).mpr (sameRest ▸ leftDistinct.1)
              rw [absent, alsoAbsent]
            · simpa [lookup, here] using sameValues key
          rw [sameHeld, tails]

end SharedBindings.Entries

namespace SharedBindings

/-- A map in insertion order: its entries, no two with the same key. -/
@[ext] structure OrderedMap (κ : Type u) (ν : Type v) [DecidableEq κ] where
  entries : List (κ × ν)
  distinct : (entries.map Prod.fst).Nodup := by simp

namespace OrderedMap

variable {κ : Type u} {ν : Type v} [DecidableEq κ]

instance [DecidableEq ν] : DecidableEq (OrderedMap κ ν) := fun left right =>
  decidable_of_iff (left.entries = right.entries)
    ⟨OrderedMap.ext, fun equal => equal ▸ rfl⟩

def empty : OrderedMap κ ν where
  entries := []

instance : EmptyCollection (OrderedMap κ ν) := ⟨empty⟩

instance : Inhabited (OrderedMap κ ν) := ⟨empty⟩

def keys (map : OrderedMap κ ν) : List κ :=
  map.entries.map Prod.fst

def values (map : OrderedMap κ ν) : List ν :=
  map.entries.map Prod.snd

def size (map : OrderedMap κ ν) : Nat :=
  map.entries.length

def lookup (map : OrderedMap κ ν) (key : κ) : Option ν :=
  Entries.lookup key map.entries

def insert (map : OrderedMap κ ν) (key : κ) (value : ν) : OrderedMap κ ν where
  entries := Entries.insert key value map.entries
  distinct := Entries.nodup_insert key value map.distinct

def erase (map : OrderedMap κ ν) (key : κ) : OrderedMap κ ν where
  entries := map.entries.filter fun entry => entry.1 ≠ key
  distinct := map.distinct.sublist (List.filter_sublist.map Prod.fst)

def mapValues (change : κ → ν → ν) (map : OrderedMap κ ν) : OrderedMap κ ν where
  entries := map.entries.map fun entry => (entry.1, change entry.1 entry.2)
  distinct := by simpa [Function.comp_def] using map.distinct

def modify (map : OrderedMap κ ν) (key : κ) (change : ν → ν) : OrderedMap κ ν :=
  map.mapValues fun other value => if other = key then change value else value

variable {map : OrderedMap κ ν} {key other : κ} {value : ν}

@[simp] theorem lookup_empty : (∅ : OrderedMap κ ν).lookup key = none := rfl

theorem keys_nodup (map : OrderedMap κ ν) : map.keys.Nodup :=
  map.distinct

theorem lookup_eq_none_iff : map.lookup key = none ↔ key ∉ map.keys :=
  Entries.lookup_eq_none_iff key map.entries

theorem lookup_isSome_iff : (map.lookup key).isSome ↔ key ∈ map.keys := by
  rw [Option.isSome_iff_ne_none, ne_eq, lookup_eq_none_iff, Classical.not_not]

theorem mem_keys_of_lookup (stored : map.lookup key = some value) : key ∈ map.keys :=
  lookup_isSome_iff.mp (by rw [stored]; rfl)

theorem mem_entries_iff : (key, value) ∈ map.entries ↔ map.lookup key = some value :=
  Entries.mem_iff_lookup map.distinct

theorem lookup_insert (map : OrderedMap κ ν) (key other : κ) (value : ν) :
    (map.insert key value).lookup other = if other = key then some value else map.lookup other :=
  Entries.lookup_insert key other value map.entries

@[simp] theorem lookup_insert_self : (map.insert key value).lookup key = some value := by
  simp [lookup_insert]

theorem keys_insert (map : OrderedMap κ ν) (key : κ) (value : ν) :
    (map.insert key value).keys = if key ∈ map.keys then map.keys else map.keys ++ [key] :=
  Entries.keys_insert key value map.entries

theorem insert_of_lookup (stored : map.lookup key = some value) : map.insert key value = map :=
  OrderedMap.ext (Entries.insert_of_lookup stored)

theorem entries_insert_of_absent (value : ν) (absent : map.lookup key = none) :
    (map.insert key value).entries = map.entries ++ [(key, value)] :=
  Entries.insert_of_absent value (lookup_eq_none_iff.mp absent)

theorem insert_insert (map : OrderedMap κ ν) (key : κ) (first second : ν) :
    (map.insert key first).insert key second = map.insert key second :=
  OrderedMap.ext (Entries.insert_insert key first second map.entries)

theorem lookup_erase (map : OrderedMap κ ν) (key other : κ) :
    (map.erase key).lookup other = if other = key then none else map.lookup other := by
  have filtered := Entries.lookup_filter (fun candidate => decide (candidate ≠ key)) other map.entries
  by_cases same : other = key <;> simpa [erase, lookup, same] using filtered

theorem keys_erase (map : OrderedMap κ ν) (key : κ) :
    (map.erase key).keys = map.keys.filter (· ≠ key) := by
  simp only [keys, erase, List.filter_map, Function.comp_def]

theorem erase_of_lookup_none (absent : map.lookup key = none) : map.erase key = map := by
  apply OrderedMap.ext
  rw [lookup_eq_none_iff] at absent
  refine List.filter_eq_self.mpr fun entry member => decide_eq_true fun same => absent ?_
  exact same ▸ List.mem_map_of_mem member

theorem erase_insert_of_absent (value : ν) (absent : map.lookup key = none) :
    (map.insert key value).erase key = map := by
  have untouched : (map.entries.filter fun entry => entry.1 ≠ key) = map.entries :=
    congrArg OrderedMap.entries (erase_of_lookup_none absent)
  apply OrderedMap.ext
  change ((map.insert key value).entries.filter fun entry => entry.1 ≠ key) = map.entries
  rw [entries_insert_of_absent value absent, List.filter_append, untouched]
  simp

theorem perm_erase_of_lookup (stored : map.lookup key = some value) :
    map.entries.Perm ((key, value) :: (map.erase key).entries) :=
  Entries.perm_filter_of_lookup map.distinct stored

@[simp] theorem keys_mapValues (change : κ → ν → ν) : (map.mapValues change).keys = map.keys := by
  simp [keys, mapValues, Function.comp_def]

@[simp] theorem lookup_mapValues (change : κ → ν → ν) :
    (map.mapValues change).lookup key = (map.lookup key).map (change key) :=
  Entries.lookup_map change key map.entries

@[simp] theorem keys_modify (change : ν → ν) : (map.modify key change).keys = map.keys :=
  keys_mapValues _

theorem lookup_modify (map : OrderedMap κ ν) (key other : κ) (change : ν → ν) :
    (map.modify key change).lookup other =
      if other = key then (map.lookup other).map change else map.lookup other := by
  rw [modify, lookup_mapValues]
  by_cases same : other = key <;> simp [same]

theorem ext_lookup {left right : OrderedMap κ ν} (sameKeys : left.keys = right.keys)
    (sameValues : ∀ key, left.lookup key = right.lookup key) : left = right :=
  OrderedMap.ext (Entries.ext_lookup left.distinct sameKeys sameValues)

end OrderedMap

end SharedBindings
