import SharedBindings.Binding.Basic
import SharedBindings.Host.Settings

/-!
# Registries

The bindings that a host and a guest share, in the order in which they arrived. A handle leads
to its binding for as long as anyone holds it: while the binding is registered, writes through
the handle and changes by the registry are the same; once it is removed, the handle is all that
leads to it. Beside the entries stands an index from each name to the anchors under which it is
registered, in the order of the entries.
-/

namespace SharedBindings

structure Handle where
  serial : Nat
deriving DecidableEq

structure Entry where
  handle : Handle
  binding : Binding
deriving DecidableEq

namespace Entry

def change (entry : Entry) (update : Binding → Binding) : Entry :=
  { entry with binding := update entry.binding }

@[simp] theorem handle_change (entry : Entry) (update : Binding → Binding) :
    (entry.change update).handle = entry.handle := rfl

@[simp] theorem binding_change (entry : Entry) (update : Binding → Binding) :
    (entry.change update).binding = update entry.binding := rfl

end Entry

structure Registry where
  settings : Settings
  entries : OrderedMap Key Entry
  index : OrderedMap String (List Scope)
  issued : Nat
  /-- The entries that were removed; only their handles lead to them. -/
  released : List Entry
deriving DecidableEq

namespace Registry

/-- The phase in which callers find every registry. -/
def restPhase : String :=
  "Idle"

def empty (settings : Settings) : Registry where
  settings := settings
  entries := ∅
  index := ∅
  issued := 0
  released := []

instance : Inhabited Registry := ⟨empty default⟩

def size (registry : Registry) : Nat :=
  registry.entries.size

def isEmpty (registry : Registry) : Bool :=
  registry.entries.entries.isEmpty

def bindings (registry : Registry) : List Binding :=
  registry.entries.values.map Entry.binding

/-- The names in the order of the entries; one that has several anchors comes several times. -/
def names (registry : Registry) : List String :=
  registry.entries.keys.map Key.name

def entryAt? (registry : Registry) (key : Key) : Option Entry :=
  registry.entries.lookup key

def handle? (registry : Registry) (key : Key) : Option Handle :=
  (registry.entryAt? key).map Entry.handle

def binding? (registry : Registry) (key : Key) : Option Binding :=
  (registry.entryAt? key).map Entry.binding

/-- No binding is without the value of the side that counts. -/
def Valued (registry : Registry) : Prop :=
  ∀ ⦃key binding⦄, registry.binding? key = some binding → ∃ value, binding.value? = some value

def anchorsOf (registry : Registry) (name : String) : List Scope :=
  (registry.index.lookup name).getD []

def containsName (registry : Registry) (name : String) : Bool :=
  (registry.index.lookup name).isSome

def firstNamed? (registry : Registry) (name : String) : Option Key :=
  (registry.anchorsOf name).head?.map (⟨·, name⟩)

def keysOf (registry : Registry) (kind : Kind) : List Key :=
  (registry.entries.entries.filter fun pair => pair.2.binding.kind = kind).map Prod.fst

def bindingsOf (registry : Registry) (kind : Kind) : List Binding :=
  registry.bindings.filter fun binding => binding.kind = kind

def behind? (registry : Registry) (handle : Handle) : Option Binding :=
  ((registry.entries.values ++ registry.released).find? fun entry => entry.handle = handle).map
    Entry.binding

def changeHeld (registry : Registry) (handle : Handle) (update : Binding → Binding) : Registry :=
  let touch (entry : Entry) : Entry :=
    if entry.handle = handle then entry.change update else entry
  { registry with
    entries := registry.entries.mapValues fun _ => touch
    released := registry.released.map touch }

def changeAt (registry : Registry) (key : Key) (update : Binding → Binding) : Registry :=
  { registry with entries := registry.entries.modify key (·.change update) }

def changeAll (registry : Registry) (update : Binding → Binding) : Registry :=
  { registry with entries := registry.entries.mapValues fun _ entry => entry.change update }

/-- Registers a binding under its own key. A key that is registered already keeps its place and
its handle, which leads to the new binding from then on. -/
def upsert (registry : Registry) (binding : Binding) : Handle × Registry :=
  match registry.entryAt? binding.key with
  | some entry => (entry.handle, registry.changeAt binding.key fun _ => binding)
  | none =>
      let handle : Handle := ⟨registry.issued⟩
      let anchors := registry.anchorsOf binding.name ++ [binding.anchor]
      (handle,
        { registry with
          entries := registry.entries.insert binding.key { handle, binding }
          index := registry.index.insert binding.name anchors
          issued := registry.issued + 1 })

/-- Removes the entry at a key and releases its binding to whoever holds the handle. -/
def remove (registry : Registry) (key : Key) : Option Entry × Registry :=
  match registry.entryAt? key with
  | none => (none, registry)
  | some entry =>
      let anchors := (registry.anchorsOf key.name).filter (· ≠ key.anchor)
      (some entry,
        { registry with
          entries := registry.entries.erase key
          index :=
            if anchors.isEmpty then registry.index.erase key.name
            else registry.index.insert key.name anchors
          released := registry.released ++ [entry] })

/-- Takes a value seen in the guest into the registry: a registered binding observes it, and a
new name is registered if it is a name of the kind. -/
def observe (registry : Registry) (kind : Kind) (key : Key) (value : Value) : Registry :=
  match registry.entryAt? key with
  | some _ => registry.changeAt key (·.observe value)
  | none =>
      match Binding.ofGuest? kind key value with
      | some binding => (registry.upsert binding).2
      | none => registry

variable (registry : Registry) (key other : Key) (update : Binding → Binding)

theorem binding?_of_entryAt? {registry : Registry} {key : Key} {entry : Entry}
    (stored : registry.entryAt? key = some entry) : registry.binding? key = some entry.binding := by
  rw [binding?, stored, Option.map_some]

theorem binding?_of_absent {registry : Registry} {key : Key}
    (absent : registry.entryAt? key = none) : registry.binding? key = none := by
  rw [binding?, absent, Option.map_none]

theorem entryAt?_changeAt :
    (registry.changeAt key update).entryAt? other =
      if other = key then (registry.entryAt? other).map (·.change update)
      else registry.entryAt? other :=
  OrderedMap.lookup_modify registry.entries key other _

@[simp] theorem keys_changeAt :
    (registry.changeAt key update).entries.keys = registry.entries.keys :=
  OrderedMap.keys_modify _

@[simp] theorem handle?_changeAt :
    (registry.changeAt key update).handle? other = registry.handle? other := by
  rw [handle?, entryAt?_changeAt, handle?]
  split <;> simp [Function.comp_def]

theorem binding?_changeAt :
    (registry.changeAt key update).binding? other =
      if other = key then (registry.binding? other).map update else registry.binding? other := by
  rw [binding?, entryAt?_changeAt, binding?]
  split <;> simp [Function.comp_def]

theorem changeAt_comm {first second : Key} (different : first ≠ second)
    (update again : Binding → Binding) :
    (registry.changeAt first update).changeAt second again =
      (registry.changeAt second again).changeAt first update := by
  have entries : ((registry.changeAt first update).changeAt second again).entries =
      ((registry.changeAt second again).changeAt first update).entries := by
    refine OrderedMap.ext_lookup (by simp) fun key => ?_
    change Registry.entryAt? _ key = Registry.entryAt? _ key
    simp only [entryAt?_changeAt]
    by_cases atFirst : key = first
    · subst atFirst
      simp only [if_true, if_neg different]
    · simp only [if_neg atFirst]
  exact congrArg (fun entries => { registry with entries }) entries

@[simp] theorem settings_changeAt : (registry.changeAt key update).settings = registry.settings :=
  rfl

@[simp] theorem settings_upsert (binding : Binding) :
    (registry.upsert binding).2.settings = registry.settings := by
  unfold upsert
  split <;> rfl

@[simp] theorem settings_remove : (registry.remove key).2.settings = registry.settings := by
  unfold remove
  split <;> rfl

@[simp] theorem settings_observe (kind : Kind) (value : Value) :
    (registry.observe kind key value).settings = registry.settings := by
  unfold observe
  split
  · rfl
  · split
    · exact registry.settings_upsert _
    · rfl

theorem entryAt?_upsert (binding : Binding) :
    (registry.upsert binding).2.entryAt? binding.key =
      some ⟨(registry.upsert binding).1, binding⟩ := by
  unfold upsert
  cases found : registry.entryAt? binding.key with
  | some entry => simp [entryAt?_changeAt, found, Entry.change]
  | none => simp [entryAt?]

theorem entryAt?_upsert_other (binding : Binding) (different : other ≠ binding.key) :
    (registry.upsert binding).2.entryAt? other = registry.entryAt? other := by
  unfold upsert
  cases found : registry.entryAt? binding.key with
  | some entry => simp [entryAt?_changeAt, different]
  | none => simp [entryAt?, OrderedMap.lookup_insert, different]

theorem keys_upsert (binding : Binding) :
    (registry.upsert binding).2.entries.keys =
      if binding.key ∈ registry.entries.keys then registry.entries.keys
      else registry.entries.keys ++ [binding.key] := by
  unfold upsert
  cases found : registry.entryAt? binding.key with
  | some entry => simp [OrderedMap.mem_keys_of_lookup found]
  | none => exact registry.entries.keys_insert _ _

theorem keys_observe (kind : Kind) (value : Value) :
    (registry.observe kind key value).entries.keys =
      if key ∈ registry.entries.keys then registry.entries.keys
      else if kind.accepts key.name then registry.entries.keys ++ [key]
      else registry.entries.keys := by
  unfold observe
  cases found : registry.entryAt? key with
  | some entry => simp [OrderedMap.mem_keys_of_lookup found]
  | none =>
      have absent : key ∉ registry.entries.keys := OrderedMap.lookup_eq_none_iff.mp found
      cases made : Binding.ofGuest? kind key value with
      | none =>
          have refused : kind.accepts key.name = false := by
            simpa [Binding.ofGuest?] using made
          simp [absent, refused]
      | some binding =>
          have itsKey : binding.key = key := Binding.key_of_ofGuest? made
          have accepted : kind.accepts key.name = true := Binding.accepts_of_ofGuest? made
          simp [keys_upsert, itsKey, absent, accepted]

theorem entries_remove : (registry.remove key).2.entries = registry.entries.erase key := by
  unfold remove
  cases found : registry.entryAt? key with
  | some entry => rfl
  | none => exact (OrderedMap.erase_of_lookup_none found).symm

theorem keys_remove :
    (registry.remove key).2.entries.keys = registry.entries.keys.filter (· ≠ key) := by
  rw [entries_remove, OrderedMap.keys_erase]

theorem entryAt?_remove :
    (registry.remove key).2.entryAt? other = if other = key then none else registry.entryAt? other := by
  rw [entryAt?, entries_remove]
  exact registry.entries.lookup_erase key other

end Registry

end SharedBindings
