import SharedBindings.Session.Operation

/-!
# Resync only observes

Every way back from the guest into the registry, whole passes and single pulls alike, goes through
sightings of values. `Registry.Observes` says all that sightings can do to a registry: nothing
leaves it or moves, pending bindings stay as they are, other bindings get at most another guest
value, and what is new stands at the end.
-/

namespace SharedBindings

namespace Binding

/-- What sightings can make of a binding. -/
def SeenAs (before after : Binding) : Prop :=
  after = before ∨
    before.isPending = false ∧
      ∃ value, after =
        { before with guestValue? := some value, authority := .guest, materialized := true }

/-- A binding that a sighting has made: the guest's, never delivered, with a name of its kind. -/
def FoundAt (key : Key) (binding : Binding) : Prop :=
  binding.kind.accepts key.name = true ∧
    ∃ value, binding =
      { name := key.name, kind := binding.kind, anchor := key.anchor, hostValue? := none,
        guestValue? := some value, authority := .guest, materialized := true, storedIn := none }

theorem SeenAs.refl (binding : Binding) : SeenAs binding binding :=
  .inl rfl

theorem SeenAs.trans {first second third : Binding} (early : SeenAs first second)
    (late : SeenAs second third) : SeenAs first third := by
  rcases early with rfl | ⟨settled, seen, rfl⟩
  · exact late
  · rcases late with rfl | ⟨_, value, rfl⟩
    · exact .inr ⟨settled, seen, rfl⟩
    · exact .inr ⟨settled, value, rfl⟩

theorem SeenAs.eq_of_pending {before after : Binding} (seen : SeenAs before after)
    (pending : before.isPending = true) : after = before := by
  rcases seen with same | ⟨settled, _⟩
  · exact same
  · rw [pending] at settled
    contradiction

theorem SeenAs.eq_of_unseen {before after : Binding} (seen : SeenAs before after)
    (unseen : after.guestValue? = none) : after = before := by
  rcases seen with same | ⟨_, value, rfl⟩
  · exact same
  · contradiction

theorem SeenAs.key {before after : Binding} (seen : SeenAs before after) :
    after.key = before.key := by
  rcases seen with rfl | ⟨_, value, rfl⟩ <;> rfl

theorem SeenAs.kind {before after : Binding} (seen : SeenAs before after) :
    after.kind = before.kind := by
  rcases seen with rfl | ⟨_, value, rfl⟩ <;> rfl

theorem SeenAs.isPending {before after : Binding} (seen : SeenAs before after) :
    after.isPending = before.isPending := by
  rcases seen with rfl | ⟨settled, value, rfl⟩
  · rfl
  · exact settled.symm

theorem seenAs_observe (binding : Binding) (value : Value) :
    SeenAs binding (binding.observe value) := by
  by_cases pending : binding.isPending = true
  · exact .inl (binding.observe_of_pending value pending)
  · have settled : binding.isPending = false := by simpa using pending
    exact .inr ⟨settled, value, binding.observe_of_settled value settled⟩

theorem foundAt_of_ofGuest? {kind : Kind} {key : Key} {value : Value} {binding : Binding}
    (made : ofGuest? kind key value = some binding) : FoundAt key binding := by
  have accepted := accepts_of_ofGuest? made
  rw [ofGuest?, if_pos accepted, Option.some.injEq] at made
  subst made
  exact ⟨accepted, value, rfl⟩

theorem FoundAt.seenAs {key : Key} {before after : Binding} (found : FoundAt key before)
    (seen : SeenAs before after) : FoundAt key after := by
  rcases seen with rfl | ⟨_, value, rfl⟩
  · exact found
  · obtain ⟨accepted, first, made⟩ := found
    have written : before.hostValue? = none := by rw [made]
    have storedIn : before.storedIn = none := by rw [made]
    have name : before.name = key.name := by rw [made]
    have anchor : before.anchor = key.anchor := by rw [made]
    exact ⟨accepted, value, by rw [written, storedIn, name, anchor]⟩

end Binding

namespace Registry

/-- What sightings can make of a registry. -/
structure Observes (before after : Registry) : Prop where
  settings : after.settings = before.settings
  released : after.released = before.released
  issued : before.issued ≤ after.issued
  keys : before.entries.keys <+: after.entries.keys
  held : ∀ {key entry}, before.entryAt? key = some entry →
    ∃ binding, after.entryAt? key = some ⟨entry.handle, binding⟩ ∧ entry.binding.SeenAs binding
  found : ∀ {key entry}, before.entryAt? key = none → after.entryAt? key = some entry →
    before.issued ≤ entry.handle.serial ∧ entry.binding.FoundAt key

namespace Observes

theorem refl (registry : Registry) : Observes registry registry where
  settings := rfl
  released := rfl
  issued := Nat.le_refl _
  keys := List.prefix_rfl
  held {_ entry} stored := ⟨entry.binding, stored, .refl _⟩
  found absent stored := by
    rw [absent] at stored
    contradiction

variable {before after : Registry} {key : Key} {binding : Binding} {earlier entry : Entry}

theorem seenAs (observes : Observes before after) (held : before.entryAt? key = some earlier)
    (stored : after.entryAt? key = some entry) :
    entry.handle = earlier.handle ∧ earlier.binding.SeenAs entry.binding := by
  obtain ⟨binding, kept, seen⟩ := observes.held held
  obtain rfl : entry = ⟨earlier.handle, binding⟩ := Option.some.inj (stored.symm.trans kept)
  exact ⟨rfl, seen⟩

theorem trans {first second third : Registry} (early : Observes first second)
    (late : Observes second third) : Observes first third where
  settings := late.settings.trans early.settings
  released := late.released.trans early.released
  issued := Nat.le_trans early.issued late.issued
  keys := early.keys.trans late.keys
  held stored := by
    obtain ⟨middle, inSecond, seenEarly⟩ := early.held stored
    obtain ⟨last, inThird, seenLate⟩ := late.held inSecond
    exact ⟨last, inThird, seenEarly.trans seenLate⟩
  found {key entry} absent stored := by
    cases inSecond : second.entryAt? key with
    | none =>
        obtain ⟨fresh, found⟩ := late.found inSecond stored
        exact ⟨Nat.le_trans early.issued fresh, found⟩
    | some middle =>
        obtain ⟨fresh, found⟩ := early.found absent inSecond
        obtain ⟨sameHandle, seen⟩ := late.seenAs inSecond stored
        exact ⟨sameHandle ▸ fresh, found.seenAs seen⟩

theorem binding? (observes : Observes before after) (held : before.binding? key = some binding) :
    ∃ later, after.binding? key = some later ∧ binding.SeenAs later := by
  obtain ⟨entry, stored, rfl⟩ := Option.map_eq_some_iff.mp held
  obtain ⟨later, kept, seen⟩ := observes.held stored
  exact ⟨later, binding?_of_entryAt? kept, seen⟩

end Observes

variable (registry : Registry) (guest : Guest) (receiver : Scope)

theorem observes_mapEntries {update : Key → Binding → Binding}
    (seen : ∀ key (binding : Binding), binding.SeenAs (update key binding)) :
    registry.Observes
      { registry with
        entries := registry.entries.mapValues fun key entry => entry.change (update key) } where
  settings := rfl
  released := rfl
  issued := Nat.le_refl _
  keys := ⟨[], by rw [List.append_nil, OrderedMap.keys_mapValues]⟩
  held {key entry} stored := by
    refine ⟨update key entry.binding, ?_, seen key entry.binding⟩
    rw [entryAt?] at stored ⊢
    rw [OrderedMap.lookup_mapValues, stored]
    rfl
  found {key entry} absent stored := by
    rw [entryAt?] at absent stored
    rw [OrderedMap.lookup_mapValues, absent] at stored
    contradiction

theorem observes_changeAll {update : Binding → Binding}
    (seen : ∀ binding : Binding, binding.SeenAs (update binding)) :
    registry.Observes (registry.changeAll update) :=
  registry.observes_mapEntries fun _ => seen

theorem observes_changeAt (key : Key) {update : Binding → Binding}
    (seen : ∀ binding : Binding, binding.SeenAs (update binding)) :
    registry.Observes (registry.changeAt key update) := by
  have pointwise : ∀ other binding,
      Binding.SeenAs binding (if other = key then update binding else binding) := by
    intro other binding
    split
    · exact seen binding
    · exact .refl binding
  have asMap : (fun other (entry : Entry) => if other = key then entry.change update else entry) =
      fun other entry => entry.change fun binding => if other = key then update binding else binding := by
    funext other entry
    split <;> rfl
  have observes := registry.observes_mapEntries pointwise
  rw [← asMap] at observes
  exact observes

theorem observes_upsert {binding : Binding} (absent : registry.entryAt? binding.key = none)
    (found : binding.FoundAt binding.key) : registry.Observes (registry.upsert binding).2 := by
  have handle : (registry.upsert binding).1 = ⟨registry.issued⟩ := by simp [upsert, absent]
  constructor
  case settings => exact registry.settings_upsert binding
  case released => simp [upsert, absent]
  case issued => simp [upsert, absent]
  case keys =>
    rw [keys_upsert]
    split
    · exact List.prefix_rfl
    · exact List.prefix_append _ _
  case held =>
    intro key entry stored
    have different : key ≠ binding.key := by
      intro same
      rw [same, absent] at stored
      contradiction
    exact ⟨entry.binding, (registry.entryAt?_upsert_other key binding different).trans stored, .refl _⟩
  case found =>
    intro key entry missing stored
    by_cases same : key = binding.key
    · subst same
      rw [entryAt?_upsert, handle, Option.some.injEq] at stored
      subst stored
      exact ⟨Nat.le_refl _, found⟩
    · rw [entryAt?_upsert_other registry key binding same, missing] at stored
      contradiction

theorem observes_observe (kind : Kind) (key : Key) (value : Value) :
    registry.Observes (registry.observe kind key value) := by
  unfold observe
  cases stored : registry.entryAt? key with
  | some entry => exact registry.observes_changeAt key (·.seenAs_observe value)
  | none =>
      cases made : Binding.ofGuest? kind key value with
      | none => exact .refl registry
      | some binding =>
          have itsKey : binding.key = key := Binding.key_of_ofGuest? made
          subst itsKey
          exact registry.observes_upsert stored (Binding.foundAt_of_ofGuest? made)

theorem observes_observeAll (kind : Kind) (sightings : List Sighting) :
    registry.Observes (registry.observeAll kind sightings) := by
  induction sightings generalizing registry with
  | nil => exact .refl registry
  | cons sighting rest ih =>
      have first := registry.observes_observe kind sighting.key sighting.value
      exact first.trans (ih _)

theorem observes_observeArguments : registry.Observes (registry.observeArguments guest).2 := by
  unfold observeArguments
  cases guest.arguments? with
  | none => exact .refl registry
  | some value => exact registry.observes_observe .constant _ value

theorem observes_observeAbove : registry.Observes (registry.observeAbove guest) := by
  unfold observeAbove
  cases guest.superclass? guest.top with
  | none => exact .refl registry
  | some parent =>
      apply observes_changeAll
      intro binding
      split
      · cases guest.read (Kind.constant.cell parent binding.name) with
        | none => exact .refl binding
        | some value => exact binding.seenAs_observe value
      · exact .refl binding

theorem observes_resyncKind (kind : Kind) :
    registry.Observes (registry.resyncKind guest receiver kind) := by
  cases kind with
  | constant =>
      have arguments := registry.observes_observeArguments guest
      have above := (registry.observeArguments guest).2.observes_observeAbove guest
      exact (arguments.trans above).trans (observes_observeAll _ _ _)
  | localVariable | localGlobal | instanceVariable | classVariable | globalVariable =>
      exact registry.observes_observeAll _ _

/-- The passes of some kinds, one after the other. -/
def resyncKinds (kinds : List Kind) : Registry :=
  kinds.foldl (fun known kind => known.resyncKind guest receiver kind) registry

theorem observes_resyncKinds (kinds : List Kind) :
    registry.Observes (registry.resyncKinds guest receiver kinds) := by
  induction kinds generalizing registry with
  | nil => exact .refl registry
  | cons kind rest ih =>
      have first := registry.observes_resyncKind guest receiver kind
      exact first.trans (ih _)

theorem observes_resync : registry.Observes (registry.resync guest receiver) := by
  unfold resync
  split
  · exact .refl registry
  · exact registry.observes_resyncKinds guest receiver _

theorem observes_pull (kind : Kind) (name : String) :
    registry.Observes (registry.pull guest receiver kind name).2 := by
  unfold pull
  split
  · split
    · exact registry.observes_observeArguments guest
    · cases guest.readFirst (guest.searchPath kind receiver name) with
      | none => exact .refl registry
      | some value => exact registry.observes_observe kind _ value
  · exact .refl registry

end Registry

namespace Session

/-- Only the registry may differ, and that by sightings. -/
structure OnlyObserved (before after : Session) : Prop where
  guest : after.guest = before.guest
  generation : after.generation = before.generation
  registry : before.registry.Observes after.registry

variable (session : Session) (receiver : Scope) (name : String)

theorem OnlyObserved.refl : OnlyObserved session session :=
  ⟨rfl, rfl, .refl session.registry⟩

theorem onlyObserved_pull (kind : Kind) : OnlyObserved session (session.pull receiver kind name).2 :=
  ⟨rfl, rfl, session.registry.observes_pull session.guest receiver kind name⟩

theorem onlyObserved_locate (kind : Kind) :
    OnlyObserved session (session.locate kind receiver name).2 := by
  simp only [locate]
  split
  · exact .refl session
  · split
    · exact session.onlyObserved_pull receiver name kind
    · split <;> exact .refl session

theorem onlyObserved_resync : OnlyObserved session (session.resync receiver) :=
  ⟨rfl, rfl, session.registry.observes_resync session.guest receiver⟩

theorem onlyObserved_get : OnlyObserved session (session.perform (.get receiver name)).2 := by
  simp only [perform, get]
  cases session.classify name with
  | error problem => exact .refl session
  | ok kind => exact session.onlyObserved_locate receiver name kind

theorem onlyObserved_handleAt :
    OnlyObserved session (session.perform (.handleAt receiver name)).2 := by
  simp only [perform, handleAt]
  cases session.classify name with
  | error problem => exact .refl session
  | ok kind => exact session.onlyObserved_locate receiver name kind

theorem onlyObserved_refresh :
    OnlyObserved session (session.perform (.refresh receiver name)).2 := by
  simp only [perform, refresh]
  cases session.classify name with
  | error problem => exact .refl session
  | ok kind => exact session.onlyObserved_pull receiver name kind

/-- Whole resyncs, the passes of single kinds, pulls of single names, and the reads that pull. -/
theorem resync_only_observes :
    OnlyObserved session (session.resync receiver) ∧
      (∀ kind, OnlyObserved session (session.performEdit (.resyncKind receiver kind)).2) ∧
      (∀ kind, OnlyObserved session (session.performEdit (.pull receiver kind name)).2) ∧
      OnlyObserved session (session.perform (.refresh receiver name)).2 ∧
      OnlyObserved session (session.perform (.get receiver name)).2 ∧
      OnlyObserved session (session.perform (.handleAt receiver name)).2 := by
  refine ⟨session.onlyObserved_resync receiver, fun kind => ?_, fun kind => ?_,
    session.onlyObserved_refresh receiver name, session.onlyObserved_get receiver name,
    session.onlyObserved_handleAt receiver name⟩
  · exact ⟨rfl, rfl, session.registry.observes_resyncKind session.guest receiver kind⟩
  · exact session.onlyObserved_pull receiver name kind

end Session

end SharedBindings
