import SharedBindings.Proofs.Names.Spelling
import SharedBindings.Proofs.Resync.Observation

/-!
# What a resync pass sees

A pass of a kind looks at the tracked cells of the kind and sees those that answer. What the pass
then does under a key depends on that key alone: a sighting changes the binding there or makes one,
and keys without a sighting keep their entries.
-/

namespace SharedBindings

namespace Guest

/-- The cell of a key is among those that a pass of a kind looks at under a receiver. -/
def Tracks (guest : Guest) (receiver : Scope) (kind : Kind) (key : Key) : Prop :=
  match kind with
  | .constant => key.anchor ∈ guest.constantScopes receiver ∧ key.name ≠ argumentsName
  | .instanceVariable | .classVariable => guest.isDefined receiver = true ∧ key.anchor = receiver
  | .globalVariable => key.anchor = guest.top ∧ guest.isPredefined key.name = false
  | .localGlobal =>
      key.anchor = guest.top ∧ Kind.localGlobal.accepts key.name = true ∧
        guest.isPredefined (Kind.localGlobal.guestName key.name) = false
  | .localVariable => key.anchor = guest.top

/-- A pass of a kind finds a value in the cell of a key. -/
def Sees (guest : Guest) (receiver : Scope) (kind : Kind) (key : Key) (value : Value) : Prop :=
  guest.Tracks receiver kind key ∧ guest.read (kind.cell key.anchor key.name) = some value

variable {guest : Guest} {receiver : Scope} {kind : Kind} {sighting : Sighting}

theorem mem_names_of_read {place : Place} {name : String} {value : Value}
    (answer : guest.read ⟨place, name⟩ = some value) : name ∈ guest.names place := by
  rw [read] at answer
  split at answer
  · contradiction
  · exact OrderedMap.mem_keys_of_lookup answer

theorem sight?_eq_some_iff {key : Key} {cell : Cell} :
    guest.sight? key cell = some sighting ↔
      key = sighting.key ∧ guest.read cell = some sighting.value := by
  rw [sight?, Option.map_eq_some_iff]
  constructor
  · rintro ⟨value, answer, rfl⟩
    exact ⟨rfl, answer⟩
  · rintro ⟨rfl, answer⟩
    exact ⟨sighting.value, answer, rfl⟩

theorem mem_sightPlace_iff {anchor : Scope} {place : Place} :
    sighting ∈ guest.sightPlace anchor place ↔
      sighting.key.anchor = anchor ∧
        guest.read ⟨place, sighting.key.name⟩ = some sighting.value := by
  simp only [sightPlace, List.mem_filterMap, sight?_eq_some_iff]
  constructor
  · rintro ⟨name, _, itsKey, answer⟩
    rw [← itsKey]
    exact ⟨rfl, answer⟩
  · rintro ⟨rfl, answer⟩
    exact ⟨sighting.key.name, mem_names_of_read answer, rfl, answer⟩

theorem mem_sharedGlobals_iff {global : String} :
    global ∈ guest.sharedGlobals ↔
      global ∈ guest.names .globals ∧ guest.isPredefined global = false := by
  simp [sharedGlobals]

theorem mem_sightings_ofReceiver_iff {place : Scope → Place} :
    sighting ∈ (guest.receiver? receiver).toList.flatMap
        (fun scope => guest.sightPlace scope (place scope)) ↔
      (guest.isDefined receiver = true ∧ sighting.key.anchor = receiver) ∧
        guest.read ⟨place sighting.key.anchor, sighting.key.name⟩ = some sighting.value := by
  simp only [List.mem_flatMap, Option.mem_toList, receiver?_eq_some_iff, mem_sightPlace_iff]
  constructor
  · rintro ⟨scope, ⟨defined, rfl⟩, rfl, answer⟩
    exact ⟨⟨defined, rfl⟩, answer⟩
  · rintro ⟨⟨defined, rfl⟩, answer⟩
    exact ⟨sighting.key.anchor, ⟨defined, rfl⟩, rfl, answer⟩

theorem mem_sightings_iff :
    sighting ∈ guest.sightings receiver kind ↔
      guest.Sees receiver kind sighting.key sighting.value := by
  cases kind with
  | constant =>
      simp only [sightings, sightConstants, Sees, Tracks, List.mem_flatMap, List.mem_filter,
        mem_sightPlace_iff, decide_eq_true_eq]
      constructor
      · rintro ⟨scope, scanned, ⟨rfl, answer⟩, plain⟩
        exact ⟨⟨scanned, plain⟩, answer⟩
      · rintro ⟨⟨scanned, plain⟩, answer⟩
        exact ⟨sighting.key.anchor, scanned, ⟨rfl, answer⟩, plain⟩
  | instanceVariable => exact mem_sightings_ofReceiver_iff
  | classVariable => exact mem_sightings_ofReceiver_iff
  | globalVariable =>
      simp only [sightings, Sees, Tracks, List.mem_filterMap, mem_sharedGlobals_iff, sight?_eq_some_iff]
      constructor
      · rintro ⟨name, ⟨_, shared⟩, itsKey, answer⟩
        rw [← itsKey]
        exact ⟨⟨rfl, shared⟩, answer⟩
      · rintro ⟨⟨anchored, shared⟩, answer⟩
        exact ⟨sighting.key.name, ⟨mem_names_of_read answer, shared⟩, by rw [← anchored], answer⟩
  | localGlobal =>
      simp only [sightings, Sees, Tracks, List.mem_filterMap, mem_sharedGlobals_iff,
        Option.bind_eq_some_iff, sight?_eq_some_iff, Kind.localNameOfGlobal?_eq_some_iff]
      constructor
      · rintro ⟨global, ⟨_, shared⟩, name, ⟨accepted, rfl⟩, itsKey, answer⟩
        rw [← itsKey]
        exact ⟨⟨rfl, accepted, shared⟩, answer⟩
      · rintro ⟨⟨anchored, accepted, shared⟩, answer⟩
        exact ⟨_, ⟨mem_names_of_read answer, shared⟩, sighting.key.name, ⟨accepted, rfl⟩,
          by rw [← anchored], answer⟩
  | localVariable => exact mem_sightPlace_iff

/-- What the scope above the top level holds for the name of a constant. -/
def above? (guest : Guest) (name : String) : Option Value :=
  (guest.superclass? guest.top).bind fun parent => guest.read (Kind.constant.cell parent name)

end Guest

namespace Binding

/-- What the pass of the scope above the top level makes of a binding. -/
def seenAbove (guest : Guest) (binding : Binding) : Binding :=
  if binding.kind = .constant ∧ binding.name ≠ argumentsName then
    match guest.above? binding.name with
    | some value => binding.observe value
    | none => binding
  else binding

theorem observe_seenAbove (guest : Guest) (binding : Binding) (value : Value) :
    (binding.seenAbove guest).observe value = binding.observe value := by
  unfold seenAbove
  split
  · cases guest.above? binding.name with
    | some above => exact binding.observe_observe value above
    | none => rfl
  · rfl

theorem seenAs_seenAbove (binding : Binding) (guest : Guest) :
    binding.SeenAs (binding.seenAbove guest) := by
  unfold seenAbove
  split
  · split
    · exact binding.seenAs_observe _
    · exact .refl binding
  · exact .refl binding

theorem value?_observe_of_settled {binding : Binding} (settled : binding.isPending = false)
    (value : Value) : (binding.observe value).value? = some value := by
  rw [binding.observe_of_settled value settled]
  rfl

/-- What stands under a key after a sighting, given what stood there before. -/
def seen? (kind : Kind) (key : Key) (value : Value) : Option Binding → Option Binding
  | some binding => some (binding.observe value)
  | none => ofGuest? kind key value

theorem seen?_seen? (kind : Kind) (key : Key) (value : Value) (before : Option Binding) :
    seen? kind key value (seen? kind key value before) = seen? kind key value before := by
  cases before with
  | some binding => exact congrArg some (binding.observe_observe value value)
  | none =>
      cases made : ofGuest? kind key value with
      | none => simp only [seen?, made]
      | some binding =>
          have fresh : binding.see value = binding := by
            unfold ofGuest? at made
            split at made
            · cases made
              rfl
            · contradiction
          have settled : binding.isPending = false := fresh ▸ binding.isPending_see value
          simp only [seen?, made]
          rw [binding.observe_of_settled value settled, fresh]

end Binding

namespace Registry

variable (registry : Registry) {kind : Kind} {key other : Key} {value : Value}
  {sightings : List Sighting}

theorem entryAt?_observe_other (different : other ≠ key) :
    (registry.observe kind key value).entryAt? other = registry.entryAt? other := by
  unfold observe
  cases registry.entryAt? key with
  | some entry => simp [entryAt?_changeAt, different]
  | none =>
      cases made : Binding.ofGuest? kind key value with
      | none => rfl
      | some binding =>
          have itsKey : binding.key = key := Binding.key_of_ofGuest? made
          exact registry.entryAt?_upsert_other other binding (itsKey ▸ different)

theorem binding?_observe :
    (registry.observe kind key value).binding? key =
      Binding.seen? kind key value (registry.binding? key) := by
  unfold observe
  cases stored : registry.entryAt? key with
  | some entry => simp [binding?, entryAt?_changeAt, stored, Binding.seen?]
  | none =>
      have absent : registry.binding? key = none := binding?_of_absent stored
      cases made : Binding.ofGuest? kind key value with
      | none => simp [absent, Binding.seen?, made]
      | some binding =>
          have itsKey : binding.key = key := Binding.key_of_ofGuest? made
          subst itsKey
          simp [binding?, entryAt?_upsert, stored, Binding.seen?, made]

theorem entryAt?_observeAll_of_unseen
    (unseen : ∀ sighting ∈ sightings, sighting.key ≠ key) :
    (registry.observeAll kind sightings).entryAt? key = registry.entryAt? key := by
  induction sightings generalizing registry with
  | nil => rfl
  | cons first rest ih =>
      have later := ih (registry.observe kind first.key first.value)
        fun sighting member => unseen sighting (List.mem_cons_of_mem _ member)
      have different : key ≠ first.key := (unseen first List.mem_cons_self).symm
      exact later.trans (registry.entryAt?_observe_other different)

theorem binding?_observeAll_of_seen (seen : ⟨key, value⟩ ∈ sightings)
    (only : ∀ sighting ∈ sightings, sighting.key = key → sighting.value = value) :
    (registry.observeAll kind sightings).binding? key =
      Binding.seen? kind key value (registry.binding? key) := by
  -- Seeing a value twice is as good as seeing it once, so later sightings of the key do not matter.
  induction sightings generalizing registry with
  | nil => contradiction
  | cons first rest ih =>
      have onlyLater : ∀ sighting ∈ rest, sighting.key = key → sighting.value = value :=
        fun sighting member => only sighting (List.mem_cons_of_mem _ member)
      change ((registry.observe kind first.key first.value).observeAll kind rest).binding? key = _
      by_cases later : ⟨key, value⟩ ∈ rest
      · rw [ih _ later onlyLater]
        by_cases here : first.key = key
        · rw [only first List.mem_cons_self here, here, binding?_observe, Binding.seen?_seen?]
        · rw [binding?, entryAt?_observe_other registry (Ne.symm here), ← binding?]
      · have head : first = ⟨key, value⟩ := ((List.mem_cons.mp seen).resolve_right later).symm
        subst head
        have unseen : ∀ sighting ∈ rest, sighting.key ≠ key := by
          intro sighting member same
          have again : sighting = ⟨key, value⟩ := by
            rw [← same, ← onlyLater sighting member same]
          exact later (again ▸ member)
        rw [binding?, entryAt?_observeAll_of_unseen _ unseen, ← binding?, binding?_observe]

/-- A sighting makes no binding with a name that its kind does not accept. -/
theorem entryAt?_observeAll_of_refused (refused : kind.accepts key.name = false)
    (absent : registry.entryAt? key = none) :
    (registry.observeAll kind sightings).entryAt? key = none := by
  induction sightings generalizing registry with
  | nil => exact absent
  | cons first rest ih =>
      apply ih
      by_cases here : key = first.key
      · subst here
        have unmade : Binding.ofGuest? kind first.key first.value = none := by
          simp [Binding.ofGuest?, refused]
        simp only [observe, absent, unmade]
      · exact (registry.entryAt?_observe_other here).trans absent

variable (guest : Guest) (receiver : Scope)

theorem resyncKind_of_ne_constant (plain : kind ≠ .constant) :
    registry.resyncKind guest receiver kind =
      registry.observeAll kind (guest.sightings receiver kind) := by
  cases kind with
  | constant => exact absurd rfl plain
  | localVariable | localGlobal | instanceVariable | classVariable | globalVariable => rfl

variable {guest} {receiver}

theorem entryAt?_observeSightings_of_unseen (unseen : ∀ value, ¬ guest.Sees receiver kind key value) :
    (registry.observeAll kind (guest.sightings receiver kind)).entryAt? key =
      registry.entryAt? key := by
  apply registry.entryAt?_observeAll_of_unseen
  rintro sighting member rfl
  exact unseen sighting.value (Guest.mem_sightings_iff.mp member)

theorem binding?_observeSightings_of_sees (sees : guest.Sees receiver kind key value) :
    (registry.observeAll kind (guest.sightings receiver kind)).binding? key =
      Binding.seen? kind key value (registry.binding? key) := by
  have member : ⟨key, value⟩ ∈ guest.sightings receiver kind := Guest.mem_sightings_iff.mpr sees
  apply registry.binding?_observeAll_of_seen member
  rintro sighting alsoMember rfl
  have alsoSees := Guest.mem_sightings_iff.mp alsoMember
  exact Option.some.inj (alsoSees.2.symm.trans sees.2)

theorem entryAt?_observeArguments_of_plain (plain : key.name ≠ argumentsName) :
    (registry.observeArguments guest).2.entryAt? key = registry.entryAt? key := by
  unfold observeArguments
  cases guest.arguments? with
  | none => rfl
  | some value =>
      apply registry.entryAt?_observe_other
      rintro rfl
      apply plain
      unfold firstNamed?
      cases (registry.anchorsOf argumentsName).head? <;> rfl

theorem entryAt?_observeAbove :
    (registry.observeAbove guest).entryAt? key =
      (registry.entryAt? key).map (·.change (·.seenAbove guest)) := by
  unfold observeAbove
  cases parent : guest.superclass? guest.top with
  | none =>
      have same : (fun entry : Entry => entry.change (·.seenAbove guest)) = id := by
        funext entry
        simp [Entry.change, Binding.seenAbove, Guest.above?, parent]
      rw [same, Option.map_id, id_eq]
  | some above =>
      refine (OrderedMap.lookup_mapValues _).trans ?_
      refine congrArg (fun change => (registry.entryAt? key).map change) (funext fun entry => ?_)
      refine congrArg entry.change (funext fun binding => ?_)
      have answer : guest.above? binding.name = guest.read (Kind.constant.cell above binding.name) := by
        rw [Guest.above?, parent, Option.bind_some]
      cases found : guest.read (Kind.constant.cell above binding.name) <;>
        simp [Binding.seenAbove, answer, found]

/-- For other constants than the argument list, the pass of the scope above comes before the
sightings of the tracked scopes. -/
theorem entryAt?_beforeSightings (plain : key.name ≠ argumentsName) :
    ((registry.observeArguments guest).2.observeAbove guest).entryAt? key =
      (registry.entryAt? key).map (·.change (·.seenAbove guest)) := by
  rw [entryAt?_observeAbove, registry.entryAt?_observeArguments_of_plain plain]

theorem binding?_resyncConstants_of_sees (sees : guest.Sees receiver .constant key value) :
    (registry.resyncKind guest receiver .constant).binding? key =
      Binding.seen? .constant key value (registry.binding? key) := by
  rw [resyncKind, binding?_observeSightings_of_sees _ sees, binding?,
    entryAt?_beforeSightings registry sees.1.2, binding?]
  cases registry.entryAt? key with
  | none => rfl
  | some entry => exact congrArg some (entry.binding.observe_seenAbove guest value)

theorem entryAt?_resyncConstants_of_unseen (plain : key.name ≠ argumentsName)
    (unseen : ∀ value, ¬ guest.Sees receiver .constant key value) :
    (registry.resyncKind guest receiver .constant).entryAt? key =
      (registry.entryAt? key).map (·.change (·.seenAbove guest)) := by
  rw [resyncKind, entryAt?_observeSightings_of_unseen _ unseen,
    entryAt?_beforeSightings registry plain]

end Registry

end SharedBindings
