import SharedBindings.Proofs.Registry.Bookkeeping
import SharedBindings.Proofs.Resync.Sightings

/-!
# Sound registries

Every binding of a sound registry stands under its own key, has a name of its kind, keeps its values
and marks in agreement, is anchored where its kind belongs, and knows no other place of delivery than
its kind allows. Host writes, deliveries, sightings and removals keep a registry sound; so no resync
and no pull makes it unsound either.
-/

namespace SharedBindings

namespace Kind

/-- The guest has one place for the kind, whatever the scope. -/
def isProcessWide : Kind → Bool
  | .globalVariable | .localGlobal | .localVariable => true
  | .constant | .instanceVariable | .classVariable => false

theorem scope?_place (kind : Kind) (scope : Scope) :
    (kind.place scope).scope? = if kind.isProcessWide then none else some scope := by
  cases kind <;> rfl

/-- What is not process-wide may stand anywhere, but for the argument list. -/
def Belongs (kind : Kind) (top : Scope) (key : Key) : Prop :=
  kind.isProcessWide = true ∨ key.name = argumentsName → key.anchor = top

theorem belongs_anchorFor {kind : Kind} {name : String} (accepted : kind.accepts name = true)
    (guest : Guest) (receiver : Scope) :
    kind.Belongs guest.top ⟨guest.anchorFor kind receiver name, name⟩ := by
  rintro (processWide | rfl)
  · cases kind <;> first | rfl | contradiction
  · have constant := eq_constant_of_accepts accepted accepts_argumentsName
    subst constant
    rfl

theorem belongs_of_sees {guest : Guest} {receiver : Scope} {kind : Kind} {key : Key} {value : Value}
    (accepted : kind.accepts key.name = true) (sees : guest.Sees receiver kind key value) :
    kind.Belongs guest.top key := by
  rintro (processWide | isArguments)
  · cases kind with
    | globalVariable | localGlobal => exact sees.1.1
    | localVariable => exact sees.1
    | constant | instanceVariable | classVariable => contradiction
  · have constant := eq_constant_of_accepts (isArguments ▸ accepted) accepts_argumentsName
    subst constant
    exact absurd isArguments sees.1.2

end Kind

namespace Binding

/-- The marks agree with the values: either the host has left a value that the guest does not have
yet, or the guest has one. -/
def Consistent (binding : Binding) : Prop :=
  (binding.authority = .host ∧ binding.materialized = false ∧
      ∃ value, binding.hostValue? = some value) ∨
    (binding.authority = .guest ∧ binding.materialized = true ∧
      ∃ value, binding.guestValue? = some value)

/-- A consistent binding has the value that counts. -/
theorem Consistent.exists_value {binding : Binding} (consistent : binding.Consistent) :
    ∃ value, binding.value? = some value := by
  rcases consistent with ⟨host, _, value, written⟩ | ⟨guest, _, value, seen⟩
  · exact ⟨value, by rw [value?, host, written]⟩
  · exact ⟨value, by rw [value?, guest, seen]⟩

theorem consistent_firstWritten (kind : Kind) (key : Key) (value : Value) :
    (firstWritten kind key value).Consistent :=
  .inl ⟨rfl, rfl, value, rfl⟩

theorem consistent_firstSeen (kind : Kind) (key : Key) (value : Value) :
    (firstSeen kind key value).Consistent :=
  .inr ⟨rfl, rfl, value, rfl⟩

theorem consistent_hostWrite (binding : Binding) (value : Value) :
    (binding.hostWrite value).Consistent :=
  .inl ⟨rfl, rfl, value, rfl⟩

theorem consistent_see (binding : Binding) (value : Value) : (binding.see value).Consistent :=
  .inr ⟨rfl, rfl, value, rfl⟩

/-- A delivery leaves its value behind, so it takes one that had a value. -/
theorem consistent_delivered {binding : Binding} {value : Value}
    (valued : binding.value? = some value) (scope : Option Scope) :
    (binding.delivered scope).Consistent :=
  .inr ⟨rfl, rfl, value, by rw [delivered_of_valued valued]; rfl⟩

/-- A binding as a registry with a top level may hold it. -/
structure WellFormed (top : Scope) (binding : Binding) : Prop where
  consistent : binding.Consistent
  named : binding.kind.accepts binding.name = true
  anchored : binding.kind.Belongs top binding.key
  unscoped : binding.kind.isProcessWide = true → binding.storedIn = none
  storedAtAnchor : binding.kind = .instanceVariable ∨ binding.kind = .classVariable →
    ∀ scope, binding.storedIn = some scope → scope = binding.anchor
  received : ∀ scope, binding.storedIn = some scope → ∃ value, binding.guestValue? = some value

variable {top : Scope} {binding : Binding}

theorem WellFormed.hostWrite (formed : binding.WellFormed top) (value : Value) :
    (binding.hostWrite value).WellFormed top :=
  ⟨binding.consistent_hostWrite value, formed.named, formed.anchored, formed.unscoped,
    formed.storedAtAnchor, formed.received⟩

theorem WellFormed.observe (formed : binding.WellFormed top) (value : Value) :
    (binding.observe value).WellFormed top := by
  by_cases pending : binding.isPending = true
  · rw [binding.observe_of_pending value pending]
    exact formed
  · rw [binding.observe_of_settled value (by simpa using pending)]
    exact ⟨binding.consistent_see value, formed.named, formed.anchored, formed.unscoped,
      formed.storedAtAnchor, fun _ _ => ⟨value, rfl⟩⟩

theorem WellFormed.seenAbove (formed : binding.WellFormed top) (guest : Guest) :
    (binding.seenAbove guest).WellFormed top := by
  unfold Binding.seenAbove
  split
  · split
    · exact formed.observe _
    · exact formed
  · exact formed

theorem key_seenAbove (binding : Binding) (guest : Guest) :
    (binding.seenAbove guest).key = binding.key := by
  unfold seenAbove
  split
  · split
    · exact binding.key_observe _
    · rfl
  · rfl

theorem WellFormed.delivered (formed : binding.WellFormed top) {guest : Guest} {cell : Cell}
    (target : guest.deliveryCell? binding = some cell) :
    (binding.delivered cell.place.scope?).WellFormed top := by
  obtain ⟨scope, chosen, rfl⟩ := Option.map_eq_some_iff.mp target
  obtain ⟨value, valued⟩ := formed.consistent.exists_value
  change (binding.delivered (binding.kind.place scope).scope?).WellFormed top
  have storedIn : (binding.delivered (binding.kind.place scope).scope?).storedIn =
      if binding.kind.isProcessWide then none else some scope := binding.kind.scope?_place scope
  constructor
  case consistent => exact consistent_delivered valued _
  case named => exact formed.named
  case anchored => exact formed.anchored
  case unscoped =>
    intro processWide
    exact storedIn.trans (if_pos processWide)
  case storedAtAnchor =>
    intro ofReceiver holder stored
    have atScope : holder = scope := by
      rw [storedIn] at stored
      split at stored
      · contradiction
      · exact (Option.some.inj stored).symm
    have ofAnchor : guest.receiver? binding.anchor = some scope := by
      rcases ofReceiver with kind | kind
      · simpa [Guest.deliveryScope?, show binding.kind = .instanceVariable from kind] using chosen
      · simpa [Guest.deliveryScope?, show binding.kind = .classVariable from kind] using chosen
    exact atScope.trans (guest.receiver?_eq_some_iff.mp ofAnchor).2.symm
  case received =>
    intro _ _
    exact ⟨value, by rw [delivered_of_valued valued]; rfl⟩

theorem wellFormed_of_undelivered (consistent : binding.Consistent)
    (undelivered : binding.storedIn = none)
    (accepted : binding.kind.accepts binding.name = true)
    (belongs : binding.kind.Belongs top binding.key) : binding.WellFormed top where
  consistent := consistent
  named := accepted
  anchored := belongs
  unscoped _ := undelivered
  storedAtAnchor _ _ stored := by
    rw [undelivered] at stored
    contradiction
  received _ stored := by
    rw [undelivered] at stored
    contradiction

variable {kind : Kind} {key : Key} (value : Value) (accepted : kind.accepts key.name = true)
  (belongs : kind.Belongs top key)

include accepted belongs

theorem wellFormed_firstWritten : (firstWritten kind key value).WellFormed top :=
  wellFormed_of_undelivered (consistent_firstWritten kind key value) rfl accepted belongs

theorem wellFormed_firstSeen : (firstSeen kind key value).WellFormed top :=
  wellFormed_of_undelivered (consistent_firstSeen kind key value) rfl accepted belongs

end Binding

namespace Registry

/-- A registry as sessions with a top level have it. -/
structure Sound (top : Scope) (registry : Registry) : Prop where
  booked : registry.Booked
  held : ∀ {key entry}, registry.entryAt? key = some entry →
    entry.binding.key = key ∧ entry.binding.WellFormed top

variable {top : Scope} {registry before after : Registry} {key : Key} {binding : Binding}
  {update : Binding → Binding}

theorem sound_empty (settings : Settings) : (empty settings).Sound top :=
  ⟨booked_empty settings, nofun⟩

theorem Sound.valued (sound : registry.Sound top) : registry.Valued := by
  intro key binding registered
  obtain ⟨entry, stored, rfl⟩ := Option.map_eq_some_iff.mp registered
  obtain ⟨_, formed⟩ := sound.held stored
  exact formed.consistent.exists_value

/-- But for the books, soundness is a matter of the single bindings. -/
theorem Sound.of_mapped (sound : before.Sound top) (booked : after.Booked)
    {change : Key → Entry → Entry}
    (mapped : ∀ key, after.entryAt? key = (before.entryAt? key).map (change key))
    (kept : ∀ {key entry}, before.entryAt? key = some entry →
      (change key entry).binding.key = entry.binding.key ∧
        (entry.binding.WellFormed top → (change key entry).binding.WellFormed top)) :
    after.Sound top where
  booked := booked
  held {key entry} stored := by
    rw [mapped] at stored
    obtain ⟨earlier, inBefore, rfl⟩ := Option.map_eq_some_iff.mp stored
    obtain ⟨itsKey, formed⟩ := sound.held inBefore
    obtain ⟨sameKey, stillFormed⟩ := kept inBefore
    exact ⟨sameKey.trans itsKey, stillFormed formed⟩

theorem Sound.changeAt (sound : registry.Sound top)
    (kept : ∀ {entry}, registry.entryAt? key = some entry →
      (update entry.binding).key = entry.binding.key ∧
        (entry.binding.WellFormed top → (update entry.binding).WellFormed top)) :
    (registry.changeAt key update).Sound top := by
  have mapped (other : Key) : (registry.changeAt key update).entryAt? other =
      (registry.entryAt? other).map fun entry =>
        if other = key then entry.change update else entry := by
    rw [entryAt?_changeAt]
    split
    · rfl
    · simp
  refine sound.of_mapped (sound.booked.changeAt update key) mapped fun {other entry} stored => ?_
  split
  · rename_i here
    exact kept (here ▸ stored)
  · exact ⟨rfl, id⟩

theorem Sound.changeHeld (sound : registry.Sound top) (handle : Handle)
    (sameKey : ∀ binding, (update binding).key = binding.key)
    (formed : ∀ binding, binding.WellFormed top → (update binding).WellFormed top) :
    (registry.changeHeld handle update).Sound top := by
  refine sound.of_mapped (sound.booked.changeHeld update handle)
    (fun _ => OrderedMap.lookup_mapValues _) fun {_ entry} _ => ?_
  split
  · exact ⟨sameKey entry.binding, formed entry.binding⟩
  · exact ⟨rfl, id⟩

theorem Sound.upsert (sound : registry.Sound top) (formed : binding.WellFormed top) :
    (registry.upsert binding).2.Sound top where
  booked := sound.booked.upsert binding
  held {key entry} stored := by
    by_cases here : key = binding.key
    · subst here
      rw [entryAt?_upsert, Option.some.injEq] at stored
      subst stored
      exact ⟨rfl, formed⟩
    · rw [entryAt?_upsert_other registry key binding here] at stored
      exact sound.held stored

theorem Sound.remove (sound : registry.Sound top) (key : Key) :
    (registry.remove key).2.Sound top where
  booked := sound.booked.remove key
  held stored := by
    rw [entryAt?_remove] at stored
    split at stored
    · contradiction
    · exact sound.held stored

theorem Sound.observe (sound : registry.Sound top) {kind : Kind} {value : Value}
    (belongs : kind.accepts key.name = true → kind.Belongs top key) :
    (registry.observe kind key value).Sound top := by
  unfold Registry.observe
  cases registry.entryAt? key with
  | some entry =>
      exact sound.changeAt fun {held} _ =>
        ⟨held.binding.key_observe value, fun formed => formed.observe value⟩
  | none =>
      by_cases accepted : kind.accepts key.name = true
      · rw [Binding.ofGuest?, if_pos accepted]
        exact sound.upsert (Binding.wellFormed_firstSeen value accepted (belongs accepted))
      · rw [Binding.ofGuest?, if_neg accepted]
        exact sound

theorem Sound.observeAll (sound : registry.Sound top) {kind : Kind} {sightings : List Sighting}
    (belong : ∀ sighting ∈ sightings, kind.accepts sighting.key.name = true →
      kind.Belongs top sighting.key) :
    (registry.observeAll kind sightings).Sound top := by
  induction sightings generalizing registry with
  | nil => exact sound
  | cons first rest ih =>
      have next : (registry.observe kind first.key first.value).Sound top :=
        sound.observe (belong first List.mem_cons_self)
      exact ih next fun sighting member => belong sighting (List.mem_cons_of_mem _ member)

variable {guest : Guest}

/-- The argument list stands at the top level, if it stands anywhere. -/
theorem Sound.anchor_of_firstNamed? (sound : registry.Sound top)
    (named : registry.firstNamed? argumentsName = some key) : key = ⟨top, argumentsName⟩ := by
  obtain ⟨anchor, first, rfl⟩ := Option.map_eq_some_iff.mp named
  have member : anchor ∈ anchorsAmong registry.entries.keys argumentsName :=
    sound.booked.anchorsOf_eq argumentsName ▸ List.mem_of_head? first
  have present := OrderedMap.lookup_isSome_iff.mpr (mem_anchorsAmong_iff.mp member)
  obtain ⟨entry, stored⟩ := Option.isSome_iff_exists.mp present
  obtain ⟨itsKey, formed⟩ := sound.held stored
  have anchored : anchor = top := by
    have belongs := formed.anchored
    rw [itsKey] at belongs
    exact belongs (.inr rfl)
  rw [anchored]

theorem Sound.observeArguments (sound : registry.Sound guest.top) :
    (registry.observeArguments guest).2.Sound guest.top := by
  unfold Registry.observeArguments
  cases guest.arguments? with
  | none => exact sound
  | some value =>
      refine sound.observe fun _ _ => ?_
      cases named : registry.firstNamed? argumentsName with
      | none => rfl
      | some key => exact congrArg Key.anchor (sound.anchor_of_firstNamed? named)

theorem Sound.observeAbove (sound : registry.Sound top) :
    (registry.observeAbove guest).Sound top :=
  sound.of_mapped sound.booked.observeAbove (fun _ => registry.entryAt?_observeAbove)
    fun {_ entry} _ => ⟨entry.binding.key_seenAbove guest, fun formed => formed.seenAbove guest⟩

variable {receiver : Scope} {kind : Kind}

theorem Sound.observeSightings (sound : registry.Sound guest.top) :
    (registry.observeAll kind (guest.sightings receiver kind)).Sound guest.top :=
  sound.observeAll fun _ member accepted =>
    Kind.belongs_of_sees accepted (Guest.mem_sightings_iff.mp member)

theorem Sound.resyncKind (sound : registry.Sound guest.top) :
    (registry.resyncKind guest receiver kind).Sound guest.top := by
  cases kind with
  | constant => exact sound.observeArguments.observeAbove.observeSightings
  | localVariable | localGlobal | instanceVariable | classVariable | globalVariable =>
      exact sound.observeSightings

theorem Sound.resyncKinds (sound : registry.Sound guest.top) (kinds : List Kind) :
    (registry.resyncKinds guest receiver kinds).Sound guest.top := by
  induction kinds generalizing registry with
  | nil => exact sound
  | cons kind rest ih => exact ih sound.resyncKind

theorem Sound.resync (sound : registry.Sound guest.top) :
    (registry.resync guest receiver).Sound guest.top := by
  unfold Registry.resync
  split
  · exact sound
  · exact sound.resyncKinds _

theorem Sound.pull (sound : registry.Sound guest.top) (name : String) :
    (registry.pull guest receiver kind name).2.Sound guest.top := by
  unfold Registry.pull
  split
  · rename_i accepted
    split
    · exact sound.observeArguments
    · cases guest.readFirst (guest.searchPath kind receiver name) with
      | none => exact sound
      | some value => exact sound.observe fun _ => Kind.belongs_anchorFor accepted guest receiver
  · exact sound

end Registry

end SharedBindings
