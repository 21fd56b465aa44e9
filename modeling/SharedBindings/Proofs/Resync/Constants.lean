import SharedBindings.Proofs.Resync.Arguments
import SharedBindings.Proofs.Resync.Shadowing

/-!
# What the pass of the constants leaves

The pass takes three steps over one registry: the argument list, the scope above the top level, and
the tracked scopes themselves. A binding that is there already ends with what its own scope shows, or
else with what the scope above has for its name. What is new stands at the end: the constants that the
scan came across, in the order of the scan, after the argument list if that is new as well.
-/

namespace SharedBindings

namespace Guest

variable {guest : Guest} {receiver scope : Scope} {sighting : Sighting}

/-- The constants of the tracked scopes, answering or not, in the order of the scan. -/
def scannedKeys (guest : Guest) (receiver : Scope) : List Key :=
  (guest.constantScopes receiver).flatMap fun scope =>
    (guest.names (.within scope .constants)).map (Key.mk scope)

/-- A key that the scan of the constants takes up. The argument list has a step of its own. -/
def Scans (guest : Guest) (key : Key) : Prop :=
  key.name ≠ argumentsName ∧ (guest.constant? key.name key.anchor).isSome = true

instance (guest : Guest) : DecidablePred guest.Scans := fun _ => instDecidableAnd

theorem nodup_constantScopes (guest : Guest) (receiver : Scope) :
    (guest.constantScopes receiver).Nodup := by
  unfold constantScopes receiver?
  by_cases here : receiver = guest.top <;> split <;> simp [here]

theorem nodup_scannedKeys (guest : Guest) (receiver : Scope) :
    (guest.scannedKeys receiver).Nodup := by
  have once : ∀ scope ∈ guest.constantScopes receiver,
      ((guest.names (.within scope .constants)).map (Key.mk scope)).Nodup := fun scope _ =>
    List.Nodup.map (fun _ _ same => congrArg Key.name same) (OrderedMap.keys_nodup _)
  have apart : (guest.constantScopes receiver).Pairwise fun first second =>
      List.Disjoint ((guest.names (.within first .constants)).map (Key.mk first))
        ((guest.names (.within second .constants)).map (Key.mk second)) := by
    refine (nodup_constantScopes guest receiver).imp ?_
    intro first second different key inFirst inSecond
    obtain ⟨_, _, rfl⟩ := List.mem_map.mp inFirst
    obtain ⟨_, _, same⟩ := List.mem_map.mp inSecond
    exact different (congrArg Key.anchor same).symm
  exact List.nodup_flatMap.mpr ⟨once, apart⟩

theorem map_key_sightConstants (guest : Guest) (scope : Scope) :
    (guest.sightConstants scope).map Sighting.key =
      ((guest.names (.within scope .constants)).map (Key.mk scope)).filter guest.Scans := by
  rw [sightConstants, sightPlace]
  induction guest.names (.within scope .constants) with
  | nil => rfl
  | cons name rest ih =>
      rw [List.filterMap_cons, List.map_cons]
      cases answer : guest.constant? name scope with
      | none =>
          have unseen : guest.sight? ⟨scope, name⟩ ⟨.within scope .constants, name⟩ = none :=
            Option.map_eq_none_iff.mpr answer
          rw [unseen, List.filter_cons_of_neg (by simp [Scans, answer])]
          exact ih
      | some value =>
          have seen : guest.sight? ⟨scope, name⟩ ⟨.within scope .constants, name⟩ =
              some ⟨⟨scope, name⟩, value⟩ :=
            Option.map_eq_some_iff.mpr ⟨value, answer, rfl⟩
          rw [seen]
          by_cases isArguments : name = argumentsName
          · rw [List.filter_cons_of_neg (by simp [isArguments]),
              List.filter_cons_of_neg (by simp [Scans, isArguments])]
            exact ih
          · rw [List.filter_cons_of_pos (by simp [isArguments]),
              List.filter_cons_of_pos (by simp [Scans, isArguments, answer]), List.map_cons]
            exact congrArg (List.cons _) ih

theorem map_key_sightings_constant (guest : Guest) (receiver : Scope) :
    (guest.sightings receiver .constant).map Sighting.key =
      (guest.scannedKeys receiver).filter guest.Scans := by
  rw [sightings, scannedKeys, List.map_flatMap, List.filter_flatMap]
  exact congrArg (List.flatMap · (guest.constantScopes receiver)) (funext guest.map_key_sightConstants)

end Guest

namespace Registry

variable {registry before : Registry} {guest : Guest} {receiver : Scope} {kind : Kind} {key : Key}
  {entry : Entry}

/-- Sightings of different keys make one binding each, in their order. -/
theorem keys_observeAll {sightings : List Sighting} (registry : Registry) (kind : Kind)
    (distinct : (sightings.map Sighting.key).Nodup) :
    (registry.observeAll kind sightings).entries.keys =
      registry.entries.keys ++ (sightings.map Sighting.key).filter fun key =>
        kind.accepts key.name = true ∧ key ∉ registry.entries.keys := by
  induction sightings generalizing registry with
  | nil => exact (List.append_nil _).symm
  | cons seen rest ih =>
      rw [List.map_cons, List.nodup_cons] at distinct
      obtain ⟨notLater, laterDistinct⟩ := distinct
      have later := ih (registry.observe kind seen.key seen.value) laterDistinct
      rw [List.map_cons]
      refine later.trans ?_
      rw [keys_observe]
      by_cases present : seen.key ∈ registry.entries.keys
      · rw [if_pos present, List.filter_cons_of_neg (by simp [present])]
      · rw [if_neg present]
        by_cases accepted : kind.accepts seen.key.name = true
        · rw [if_pos accepted, List.filter_cons_of_pos (by simp [accepted, present]),
            List.append_assoc, List.singleton_append]
          refine congrArg (fun added => registry.entries.keys ++ seen.key :: added)
            (List.filter_congr fun key member => ?_)
          have different : key ≠ seen.key := fun same => notLater (same ▸ member)
          simp [different]
        · rw [if_neg accepted, List.filter_cons_of_neg (by simp [accepted])]

/-- The constants that a pass is going to register, besides the argument list. -/
def newConstants (registry : Registry) (guest : Guest) (receiver : Scope) : List Key :=
  (guest.scannedKeys receiver).filter fun key =>
    guest.Scans key ∧ Kind.constant.accepts key.name = true ∧ registry.entryAt? key = none

theorem keys_observeArguments (registry : Registry) (guest : Guest) :
    ∃ arguments : List Key,
      (arguments = [] ∨ ∃ anchor, arguments = [⟨anchor, argumentsName⟩]) ∧
      (registry.observeArguments guest).2.entries.keys = registry.entries.keys ++ arguments := by
  unfold observeArguments
  cases guest.arguments? with
  | none => exact ⟨[], .inl rfl, (List.append_nil _).symm⟩
  | some value =>
      have named : ∃ anchor, (registry.firstNamed? argumentsName).getD ⟨guest.top, argumentsName⟩ =
          ⟨anchor, argumentsName⟩ := by
        unfold firstNamed?
        cases (registry.anchorsOf argumentsName).head? with
        | none => exact ⟨guest.top, rfl⟩
        | some anchor => exact ⟨anchor, rfl⟩
      obtain ⟨anchor, itsKey⟩ := named
      simp only [itsKey, keys_observe, Kind.accepts_argumentsName, if_true]
      split
      · exact ⟨[], .inl rfl, (List.append_nil _).symm⟩
      · exact ⟨[⟨anchor, argumentsName⟩], .inr ⟨anchor, rfl⟩, rfl⟩

theorem keys_resyncConstants (registry : Registry) (guest : Guest) (receiver : Scope) :
    ∃ arguments : List Key,
      (arguments = [] ∨ ∃ anchor, arguments = [⟨anchor, argumentsName⟩]) ∧
      (registry.resyncKind guest receiver .constant).entries.keys =
        registry.entries.keys ++ arguments ++ registry.newConstants guest receiver := by
  obtain ⟨arguments, atMostOne, early⟩ := registry.keys_observeArguments guest
  refine ⟨arguments, atMostOne, ?_⟩
  have distinct : ((guest.sightings receiver .constant).map Sighting.key).Nodup := by
    rw [guest.map_key_sightings_constant]
    exact (guest.nodup_scannedKeys receiver).filter _
  have before : ((registry.observeArguments guest).2.observeAbove guest).entries.keys =
      registry.entries.keys ++ arguments := by
    rw [keys_observeAbove, early]
  rw [resyncKind, keys_observeAll _ _ distinct, before, guest.map_key_sightings_constant,
    List.filter_filter, newConstants]
  refine congrArg (registry.entries.keys ++ arguments ++ ·) (List.filter_congr fun key _ => ?_)
  by_cases scanned : guest.Scans key
  · -- The new argument list is none of the scanned constants.
    have plain : key ∉ arguments := by
      intro member
      rcases atMostOne with rfl | ⟨anchor, rfl⟩
      · contradiction
      · exact scanned.1 (congrArg Key.name (List.mem_singleton.mp member))
    simp [scanned, plain, entryAt?, OrderedMap.lookup_eq_none_iff]
  · simp [scanned]

theorem mem_newConstants_iff :
    key ∈ registry.newConstants guest receiver ↔
      (∃ value, guest.Sees receiver .constant key value) ∧
        Kind.constant.accepts key.name = true ∧ registry.entryAt? key = none := by
  have scanned : key ∈ (guest.scannedKeys receiver).filter guest.Scans ↔
      ∃ value, guest.Sees receiver .constant key value := by
    rw [← guest.map_key_sightings_constant, List.mem_map]
    constructor
    · rintro ⟨sighting, member, rfl⟩
      exact ⟨sighting.value, Guest.mem_sightings_iff.mp member⟩
    · rintro ⟨value, sees⟩
      exact ⟨⟨key, value⟩, Guest.mem_sightings_iff.mpr sees, rfl⟩
  rw [← scanned, newConstants, List.mem_filter, List.mem_filter]
  simp [and_assoc]

/-- What a pass of the constants makes of a registry. -/
structure TracksConstants (guest : Guest) (receiver : Scope) (before after : Registry) : Prop where
  pending : ∀ {key entry}, before.entryAt? key = some entry → entry.binding.isPending = true →
    after.entryAt? key = some entry
  /-- The own scope of a constant counts, if it is tracked; the scope above comes after it. -/
  settled : ∀ {key entry}, before.entryAt? key = some entry → entry.binding.kind = .constant →
    entry.binding.isPending = false → key.name ≠ argumentsName →
      ∃ binding, after.entryAt? key = some ⟨entry.handle, binding⟩ ∧ binding.isPending = false ∧
        binding.value? = ((guest.seenIn? receiver key.name key.anchor).or
          (guest.above? key.name)).or entry.binding.value?
  appended : ∃ arguments : List Key,
    (arguments = [] ∨ ∃ anchor, arguments = [⟨anchor, argumentsName⟩]) ∧
      after.entries.keys =
        before.entries.keys ++ arguments ++ before.newConstants guest receiver
  made : ∀ key ∈ before.newConstants guest receiver,
    ∃ value, guest.constant? key.name key.anchor = some value ∧
      after.binding? key = some
        { name := key.name, kind := .constant, anchor := key.anchor, hostValue? := none,
          guestValue? := some value, authority := .guest, materialized := true, storedIn := none }

theorem value_resyncConstants_of_settled (keyed : registry.Keyed)
    (held : registry.entryAt? key = some entry) (constant : entry.binding.kind = .constant)
    (settled : entry.binding.isPending = false) (plain : key.name ≠ argumentsName) :
    ∃ binding, (registry.resyncKind guest receiver .constant).entryAt? key =
        some ⟨entry.handle, binding⟩ ∧ binding.isPending = false ∧
      binding.value? = ((guest.seenIn? receiver key.name key.anchor).or
        (guest.above? key.name)).or entry.binding.value? := by
  obtain ⟨binding, kept, seen⟩ := (registry.observes_resyncKind guest receiver .constant).held held
  refine ⟨binding, kept, seen.isPending.trans settled, ?_⟩
  cases answer : guest.seenIn? receiver key.name key.anchor with
  | some value =>
      have sees := (Guest.seenIn?_eq_some_iff plain).mp answer
      exact value_resyncConstants_of_sees sees kept (seen.isPending.trans settled)
  | none =>
      have unseen := Guest.not_sees_of_seenIn? plain answer
      rw [entryAt?_resyncConstants_of_unseen registry plain unseen, held] at kept
      have itsBinding : entry.binding.seenAbove guest = binding :=
        congrArg Entry.binding (Option.some.inj kept)
      have itsName : entry.binding.name = key.name := congrArg Key.name (keyed held)
      rw [← itsBinding, Binding.seenAbove, itsName, if_pos ⟨constant, plain⟩, Option.none_or]
      cases guest.above? key.name with
      | none => rfl
      | some value => exact Binding.value?_observe_of_settled settled value

end Registry

end SharedBindings
