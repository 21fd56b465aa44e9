import SharedBindings.Proofs.Registry.Bookkeeping
import SharedBindings.Proofs.Resync.Observation

/-!
# What was removed is out of reach

A binding that was removed is still behind its handle, and nowhere else. `Registry.forget` takes it away
from there as well. Every function on registries comes to the same with and without it, as long as its
handle is not registered, and what is written through the handle is forgotten too.
-/

namespace SharedBindings.Registry

/-- The registry without what a released handle leads to. -/
def forget (registry : Registry) (handle : Handle) : Registry :=
  { registry with released := registry.released.filter fun entry => entry.handle ≠ handle }

/-- The handle leads to a binding that is not registered. -/
structure Detaches (registry : Registry) (handle : Handle) (binding : Binding) : Prop where
  behind : registry.behind? handle = some binding
  unregistered : ∀ key, registry.handle? key ≠ some handle

variable {registry : Registry} {handle : Handle} {binding : Binding}

theorem Booked.detaches_iff (booked : registry.Booked) :
    registry.Detaches handle binding ↔ ⟨handle, binding⟩ ∈ registry.released := by
  constructor
  · rintro ⟨behind, unregistered⟩
    obtain ⟨entry, found, rfl⟩ := Option.map_eq_some_iff.mp behind
    obtain rfl : entry.handle = handle := by simpa using List.find?_some found
    rcases List.mem_append.mp (List.mem_of_find?_eq_some found) with held | released
    · obtain ⟨pair, member, rfl⟩ := List.mem_map.mp held
      have stored : registry.entryAt? pair.1 = some pair.2 := OrderedMap.mem_entries_iff.mp member
      exact absurd (by rw [handle?, stored, Option.map_some]) (unregistered pair.1)
    · exact released
  · intro released
    refine ⟨booked.behind?_of_mem (List.mem_append_right _ released), fun key registered => ?_⟩
    obtain ⟨entry, stored, itsHandle⟩ := Option.map_eq_some_iff.mp registered
    have apart := booked.apart
    rw [handles, List.map_append, List.nodup_append] at apart
    have held : entry.handle ∈ registry.entries.values.map Entry.handle :=
      List.mem_map_of_mem (List.mem_map_of_mem (mem_entries_of_entryAt? stored))
    exact apart.2.2 _ held handle (List.mem_map_of_mem released) itsHandle

/-- A released handle is registered nowhere. -/
theorem Booked.unregistered (booked : registry.Booked)
    (released : handle ∈ registry.released.map Entry.handle) (key : Key) :
    registry.handle? key ≠ some handle := by
  obtain ⟨entry, member, rfl⟩ := List.mem_map.mp released
  exact (booked.detaches_iff.mpr member).unregistered key

variable (registry) (handle)

@[simp] theorem settings_forget : (registry.forget handle).settings = registry.settings := rfl

@[simp] theorem entryAt?_forget (key : Key) :
    (registry.forget handle).entryAt? key = registry.entryAt? key := rfl

@[simp] theorem handle?_forget (key : Key) :
    (registry.forget handle).handle? key = registry.handle? key := rfl

@[simp] theorem binding?_forget (key : Key) :
    (registry.forget handle).binding? key = registry.binding? key := rfl

@[simp] theorem firstNamed?_forget (name : String) :
    (registry.forget handle).firstNamed? name = registry.firstNamed? name := rfl

theorem changeAt_forget (key : Key) (update : Binding → Binding) :
    (registry.forget handle).changeAt key update = (registry.changeAt key update).forget handle := rfl

theorem changeAll_forget (update : Binding → Binding) :
    (registry.forget handle).changeAll update = (registry.changeAll update).forget handle := rfl

theorem upsert_forget (binding : Binding) :
    (registry.forget handle).upsert binding =
      ((registry.upsert binding).1, (registry.upsert binding).2.forget handle) := by
  cases stored : registry.entryAt? binding.key with
  | some entry => simp only [upsert, entryAt?_forget, stored, changeAt_forget]
  | none =>
      simp only [upsert, entryAt?_forget, stored]
      rfl

theorem remove_forget (key : Key) (unregistered : ∀ key, registry.handle? key ≠ some handle) :
    (registry.forget handle).remove key =
      ((registry.remove key).1, (registry.remove key).2.forget handle) := by
  cases stored : registry.entryAt? key with
  | none => simp only [remove, entryAt?_forget, stored]
  | some entry =>
      -- What is released here has another handle, so it is not forgotten with this one.
      have apart : entry.handle ≠ handle := fun same =>
        unregistered key (by rw [handle?, stored, ← same]; rfl)
      have kept : (registry.released ++ [entry]).filter (fun entry => entry.handle ≠ handle) =
          registry.released.filter (fun entry => entry.handle ≠ handle) ++ [entry] := by
        simp [List.filter_append, apart]
      simp only [remove, entryAt?_forget, stored]
      rw [forget, forget, kept]
      rfl

theorem observe_forget (kind : Kind) (key : Key) (value : Value) :
    (registry.forget handle).observe kind key value =
      (registry.observe kind key value).forget handle := by
  cases stored : registry.entryAt? key with
  | some entry => simp only [observe, entryAt?_forget, stored, changeAt_forget]
  | none =>
      simp only [observe, entryAt?_forget, stored]
      cases Binding.ofGuest? kind key value with
      | some binding => simp only [upsert_forget]
      | none => rfl

theorem observeAll_forget (kind : Kind) (sightings : List Sighting) :
    (registry.forget handle).observeAll kind sightings =
      (registry.observeAll kind sightings).forget handle := by
  induction sightings generalizing registry with
  | nil => rfl
  | cons seen rest ih =>
      change ((registry.forget handle).observe kind seen.key seen.value).observeAll kind rest = _
      rw [observe_forget, ih]
      rfl

variable (guest : Guest) (receiver : Scope) (kind : Kind)

theorem observeArguments_forget :
    (registry.forget handle).observeArguments guest =
      ((registry.observeArguments guest).1, (registry.observeArguments guest).2.forget handle) := by
  unfold observeArguments
  cases guest.arguments? with
  | none => rfl
  | some value => simp only [firstNamed?_forget, observe_forget]

theorem observeAbove_forget :
    (registry.forget handle).observeAbove guest = (registry.observeAbove guest).forget handle := by
  unfold observeAbove
  cases guest.superclass? guest.top with
  | none => rfl
  | some parent => simp only [changeAll_forget]

theorem resyncKind_forget :
    (registry.forget handle).resyncKind guest receiver kind =
      (registry.resyncKind guest receiver kind).forget handle := by
  cases kind <;>
    simp only [resyncKind, observeArguments_forget, observeAbove_forget, observeAll_forget]

theorem resync_forget :
    (registry.forget handle).resync guest receiver =
      (registry.resync guest receiver).forget handle := by
  have passes (kinds : List Kind) (known : Registry) :
      (known.forget handle).resyncKinds guest receiver kinds =
        (known.resyncKinds guest receiver kinds).forget handle := by
    induction kinds generalizing known with
    | nil => rfl
    | cons kind rest ih =>
        change ((known.forget handle).resyncKind guest receiver kind).resyncKinds guest receiver
          rest = _
        rw [resyncKind_forget, ih]
        rfl
  unfold resync
  rw [settings_forget]
  split
  · rfl
  · exact passes _ registry

theorem pull_forget (name : String) :
    (registry.forget handle).pull guest receiver kind name =
      ((registry.pull guest receiver kind name).1,
        (registry.pull guest receiver kind name).2.forget handle) := by
  unfold pull
  split
  · split
    · exact registry.observeArguments_forget handle guest
    · cases guest.readFirst (guest.searchPath kind receiver name) with
      | none => rfl
      | some value => simp only [observe_forget]
  · rfl

theorem changeHeld_forget (other : Handle) (update : Binding → Binding) :
    (registry.forget handle).changeHeld other update =
      (registry.changeHeld other update).forget handle := by
  simp only [changeHeld, forget, List.filter_map, Function.comp_def, handle_changeOne]

variable {registry} {handle}

/-- What is written through a handle that is not registered is forgotten with the handle. -/
theorem forget_changeHeld (unregistered : ∀ key, registry.handle? key ≠ some handle)
    (update : Binding → Binding) :
    (registry.changeHeld handle update).forget handle = registry.forget handle := by
  have entries : registry.entries.mapValues (fun _ entry =>
      if entry.handle = handle then entry.change update else entry) = registry.entries := by
    refine OrderedMap.ext_lookup (OrderedMap.keys_mapValues _) fun key => ?_
    rw [OrderedMap.lookup_mapValues]
    cases stored : registry.entries.lookup key with
    | none => rfl
    | some entry =>
        have apart : entry.handle ≠ handle := fun same =>
          unregistered key (by rw [handle?, entryAt?, stored, ← same]; rfl)
        rw [Option.map_some, if_neg apart]
  have released : (registry.released.map fun entry =>
        if entry.handle = handle then entry.change update else entry).filter
          (fun entry => entry.handle ≠ handle) =
      registry.released.filter fun entry => entry.handle ≠ handle := by
    induction registry.released with
    | nil => rfl
    | cons entry rest ih =>
        by_cases here : entry.handle = handle <;> simpa [here] using ih
  simp only [changeHeld, forget, entries, released]

theorem behind?_forget {other : Handle} (different : other ≠ handle) :
    (registry.forget handle).behind? other = registry.behind? other := by
  have passed (entries : List Entry) :
      (entries.filter fun entry => entry.handle ≠ handle).find? (fun entry => entry.handle = other) =
        entries.find? fun entry => entry.handle = other := by
    rw [List.find?_filter]
    refine congrArg (entries.find? ·) (funext fun entry => ?_)
    by_cases here : entry.handle = other <;> simp [here, different]
  simp only [behind?, forget, List.find?_append, passed]

end SharedBindings.Registry
