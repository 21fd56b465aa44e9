import SharedBindings.Proofs.Registry.Roster
import SharedBindings.Proofs.Registry.Soundness

/-!
# One argument list

A guest has one argument list, which it finds at the top level or else in the scope above. However a
registry came by its bindings of that name, no pass makes another one beside them; and the earliest of
them is what the passes bring up to date.
-/

namespace SharedBindings

namespace Guest

/-- What the guest says its arguments are. An argument list that is nil says nothing. -/
def TellsArguments (guest : Guest) (value : Value) : Prop :=
  value.isNil = false ∧
    (guest.read (Kind.constant.cell guest.top argumentsName) = some value ∨
      guest.read (Kind.constant.cell guest.top argumentsName) = none ∧
        ∃ parent, guest.superclass? guest.top = some parent ∧
          guest.read (Kind.constant.cell parent argumentsName) = some value)

theorem arguments?_eq_some_iff {guest : Guest} {value : Value} :
    guest.arguments? = some value ↔ guest.TellsArguments value := by
  simp only [arguments?, TellsArguments, readFirst, List.map_cons, List.findSome?_cons,
    Option.filter_eq_some_iff, Bool.not_eq_true', and_comm (b := value.isNil = false)]
  refine and_congr_right fun _ => ?_
  cases guest.read (Kind.constant.cell guest.top argumentsName) with
  | some held => simp
  | none => cases guest.superclass? guest.top <;> simp

end Guest

namespace Registry

/-- Every binding has the name and the anchor of the key under which it stands. -/
def Keyed (registry : Registry) : Prop :=
  ∀ {key entry}, registry.entryAt? key = some entry → entry.binding.key = key

/-- The anchors under which the argument list is registered, in the order of the entries. -/
def argumentAnchors (registry : Registry) : List Scope :=
  anchorsAmong registry.entries.keys argumentsName

/-- The argument list stays under the anchors that it has. One that had none may get the top level. -/
def AnchorsArguments (top : Scope) (before after : Registry) : Prop :=
  after.argumentAnchors = before.argumentAnchors ∨
    before.argumentAnchors = [] ∧ after.argumentAnchors = [top]

variable {registry before after first second third : Registry} {guest : Guest}
  {top anchor receiver : Scope} {kind : Kind} {key : Key} {name : String} {value : Value}

theorem Sound.keyed (sound : registry.Sound top) : registry.Keyed :=
  fun stored => (sound.held stored).1

theorem Keyed.of_observes (keyed : before.Keyed) (observes : before.Observes after) :
    after.Keyed := by
  intro key entry stored
  cases held : before.entryAt? key with
  | none =>
      obtain ⟨_, _, _, made⟩ := observes.found held stored
      rw [made]
      rfl
  | some earlier =>
      obtain ⟨_, seen⟩ := observes.seenAs held stored
      exact seen.key.trans (keyed held)

theorem AnchorsArguments.refl (registry : Registry) : AnchorsArguments top registry registry :=
  .inl rfl

theorem AnchorsArguments.trans (early : AnchorsArguments top first second)
    (late : AnchorsArguments top second third) : AnchorsArguments top first third := by
  rcases late with same | ⟨none, one⟩
  · rwa [AnchorsArguments, same]
  · rcases early with same | ⟨_, another⟩
    · exact .inr ⟨same ▸ none, one⟩
    · rw [another] at none
      contradiction

theorem AnchorsArguments.of_keys (same : after.entries.keys = before.entries.keys) :
    AnchorsArguments top before after :=
  .inl (congrArg (anchorsAmong · argumentsName) same)

theorem notMem_keys_of_argumentAnchors (nowhere : registry.argumentAnchors = []) (anchor : Scope) :
    (⟨anchor, argumentsName⟩ : Key) ∉ registry.entries.keys := by
  rw [← mem_anchorsAmong_iff, ← argumentAnchors, nowhere]
  exact List.not_mem_nil

theorem argumentAnchors_observe_of_plain (registry : Registry)
    (plain : kind = .constant → key.name ≠ argumentsName) :
    (registry.observe kind key value).argumentAnchors = registry.argumentAnchors := by
  rw [argumentAnchors, keys_observe]
  split
  · rfl
  · split
    · rename_i accepted
      have other : argumentsName ≠ key.name := by
        intro isArguments
        rw [← isArguments] at accepted plain
        exact plain (Kind.eq_constant_of_accepts accepted Kind.accepts_argumentsName) rfl
      rw [anchorsAmong_concat, if_neg other, List.append_nil, argumentAnchors]
    · rfl

theorem anchorsArguments_observeSightings (registry : Registry) (receiver : Scope) (kind : Kind) :
    AnchorsArguments top registry
      (registry.observeAll kind (guest.sightings receiver kind)) := by
  have plain : ∀ sighting ∈ guest.sightings receiver kind,
      kind = .constant → sighting.key.name ≠ argumentsName := by
    rintro sighting member rfl
    exact (Guest.mem_sightings_iff.mp member).1.2
  generalize guest.sightings receiver kind = sightings at plain
  induction sightings generalizing registry with
  | nil => exact .refl registry
  | cons seen rest ih =>
      have here : AnchorsArguments top registry (registry.observe kind seen.key seen.value) :=
        .inl (registry.argumentAnchors_observe_of_plain (plain seen List.mem_cons_self))
      exact here.trans (ih _ fun sighting member => plain sighting (List.mem_cons_of_mem _ member))

/-- Which binding the pass of the argument list is about. -/
theorem Booked.argumentKey_cases (booked : registry.Booked) :
    (∃ key, registry.firstNamed? argumentsName = some key ∧ key ∈ registry.entries.keys) ∨
      registry.firstNamed? argumentsName = none ∧ registry.argumentAnchors = [] := by
  cases named : registry.firstNamed? argumentsName with
  | some key =>
      rw [booked.firstNamed?_eq] at named
      exact .inl ⟨key, rfl, List.mem_of_find?_eq_some named⟩
  | none =>
      rw [firstNamed?, Option.map_eq_none_iff, List.head?_eq_none_iff, booked.anchorsOf_eq] at named
      exact .inr ⟨rfl, named⟩

theorem Booked.anchorsArguments_observeArguments (booked : registry.Booked) (guest : Guest) :
    AnchorsArguments guest.top registry (registry.observeArguments guest).2 := by
  unfold Registry.observeArguments
  cases guest.arguments? with
  | none => exact .refl registry
  | some value =>
      rcases booked.argumentKey_cases with ⟨key, named, present⟩ | ⟨unnamed, nowhere⟩
      · apply AnchorsArguments.of_keys
        simp only [named, Option.getD_some, keys_observe, present, if_true]
      · have absent := notMem_keys_of_argumentAnchors nowhere guest.top
        refine .inr ⟨nowhere, ?_⟩
        simp only [unnamed, Option.getD_none, argumentAnchors, keys_observe, absent, if_false,
          Kind.accepts_argumentsName, if_true, anchorsAmong_concat]
        rw [← argumentAnchors, nowhere, List.nil_append]

theorem keys_observeAbove (registry : Registry) (guest : Guest) :
    (registry.observeAbove guest).entries.keys = registry.entries.keys := by
  unfold observeAbove
  cases guest.superclass? guest.top with
  | none => rfl
  | some parent => exact OrderedMap.keys_mapValues _

theorem Booked.anchorsArguments_resyncKind (booked : registry.Booked) (guest : Guest)
    (receiver : Scope) (kind : Kind) :
    AnchorsArguments guest.top registry (registry.resyncKind guest receiver kind) := by
  cases kind with
  | constant =>
      have own := booked.anchorsArguments_observeArguments guest
      have above : AnchorsArguments guest.top (registry.observeArguments guest).2
          ((registry.observeArguments guest).2.observeAbove guest) :=
        .of_keys (keys_observeAbove _ guest)
      exact (own.trans above).trans (anchorsArguments_observeSightings _ receiver .constant)
  | localVariable | localGlobal | instanceVariable | classVariable | globalVariable =>
      exact anchorsArguments_observeSightings registry receiver _

theorem Booked.anchorsArguments_resync (booked : registry.Booked) (guest : Guest)
    (receiver : Scope) :
    AnchorsArguments guest.top registry (registry.resync guest receiver) := by
  have passes (kinds : List Kind) (known : Registry) (booked : known.Booked) :
      AnchorsArguments guest.top known (known.resyncKinds guest receiver kinds) := by
    induction kinds generalizing known with
    | nil => exact .refl known
    | cons kind rest ih =>
        have one := booked.anchorsArguments_resyncKind guest receiver kind
        exact one.trans (ih _ booked.resyncKind)
  unfold Registry.resync
  split
  · exact .refl registry
  · exact passes _ registry booked

theorem Booked.anchorsArguments_pull (booked : registry.Booked) (guest : Guest) (receiver : Scope)
    (kind : Kind) (name : String) :
    AnchorsArguments guest.top registry (registry.pull guest receiver kind name).2 := by
  unfold Registry.pull
  split
  · split
    · exact booked.anchorsArguments_observeArguments guest
    · rename_i plain
      cases guest.readFirst (guest.searchPath kind receiver name) with
      | none => exact .refl registry
      | some value => exact .inl (registry.argumentAnchors_observe_of_plain fun _ => plain)
  · exact .refl registry

/-- Of the three steps of the pass, only the first one is about the argument list. -/
theorem entryAt?_resyncConstants_arguments (keyed : registry.Keyed) :
    (registry.resyncKind guest receiver .constant).entryAt? ⟨anchor, argumentsName⟩ =
      (registry.observeArguments guest).2.entryAt? ⟨anchor, argumentsName⟩ := by
  have unseen (value : Value) :
      ¬ guest.Sees receiver .constant ⟨anchor, argumentsName⟩ value := fun sees => sees.1.2 rfl
  rw [resyncKind, entryAt?_observeSightings_of_unseen _ unseen, entryAt?_observeAbove]
  cases stored : (registry.observeArguments guest).2.entryAt? ⟨anchor, argumentsName⟩ with
  | none => rfl
  | some entry =>
      have isArguments : entry.binding.name = argumentsName :=
        congrArg Key.name (keyed.of_observes (registry.observes_observeArguments guest) stored)
      simp [Entry.change, Binding.seenAbove, isArguments]

/-- What a pass of the constants, or a pull of the argument list, does to the argument list. -/
structure TracksArguments (guest : Guest) (before after : Registry) : Prop where
  /-- The earliest binding of that name is still pending, or has what the guest tells. -/
  told : ∀ value, guest.TellsArguments value →
    ∃ key entry, (after.entries.keys.find? fun key => key.name = argumentsName) = some key ∧
      after.entryAt? key = some entry ∧
      (entry.binding.isPending = true ∧ before.entryAt? key = some entry ∨
        entry.binding.isPending = false ∧ entry.binding.value? = some value)
  untold : (∀ value, ¬ guest.TellsArguments value) →
    ∀ anchor, after.entryAt? ⟨anchor, argumentsName⟩ = before.entryAt? ⟨anchor, argumentsName⟩

theorem Booked.tracksArguments_observeArguments (booked : registry.Booked) (guest : Guest) :
    TracksArguments guest registry (registry.observeArguments guest).2 where
  told value told := by
    simp only [Registry.observeArguments, Guest.arguments?_eq_some_iff.mpr told]
    rcases booked.argumentKey_cases with ⟨key, named, present⟩ | ⟨unnamed, nowhere⟩
    · obtain ⟨entry, stored⟩ := Option.isSome_iff_exists.mp (OrderedMap.lookup_isSome_iff.mpr present)
      have held : registry.entryAt? key = some entry := stored
      refine ⟨key, entry.change (·.observe value), ?_, ?_, ?_⟩
      · rw [named, Option.getD_some, keys_observe, if_pos present, ← booked.firstNamed?_eq, named]
      · simp only [named, Option.getD_some, Registry.observe, held, entryAt?_changeAt, if_true,
          Option.map_some]
      · rw [Entry.binding_change, Binding.isPending_observe]
        cases waiting : entry.binding.isPending with
        | true =>
            refine .inl ⟨rfl, ?_⟩
            rw [Entry.change, entry.binding.observe_of_pending value waiting, held]
        | false => exact .inr ⟨rfl, Binding.value?_observe_of_settled waiting value⟩
    · have absent := notMem_keys_of_argumentAnchors nowhere guest.top
      have unbound : registry.binding? ⟨guest.top, argumentsName⟩ = none := by
        rw [binding?, entryAt?, OrderedMap.lookup_eq_none_iff.mpr absent, Option.map_none]
      have made : (registry.observe .constant ⟨guest.top, argumentsName⟩ value).binding?
          ⟨guest.top, argumentsName⟩ =
            some (.firstSeen .constant ⟨guest.top, argumentsName⟩ value) := by
        rw [binding?_observe, unbound, Binding.seen?, Binding.ofGuest?,
          if_pos Kind.accepts_argumentsName]
      obtain ⟨entry, stored, itsBinding⟩ := Option.map_eq_some_iff.mp made
      refine ⟨⟨guest.top, argumentsName⟩, entry, ?_, ?_, ?_⟩
      · rw [booked.firstNamed?_eq] at unnamed
        simp only [booked.firstNamed?_eq, unnamed, Option.getD_none, keys_observe, absent, if_false,
          Kind.accepts_argumentsName, if_true, List.find?_append, Option.none_or,
          List.find?_singleton, decide_true]
      · rw [unnamed]
        exact stored
      · rw [itsBinding]
        exact .inr ⟨rfl, rfl⟩
  untold silent anchor := by
    have nothing : guest.arguments? = none :=
      Option.eq_none_iff_forall_ne_some.mpr fun value told =>
        silent value (Guest.arguments?_eq_some_iff.mp told)
    simp only [Registry.observeArguments, nothing]

theorem Booked.tracksArguments_resyncConstants (booked : registry.Booked) (keyed : registry.Keyed)
    (guest : Guest) (receiver : Scope) :
    TracksArguments guest registry (registry.resyncKind guest receiver .constant) where
  told value told := by
    obtain ⟨key, entry, first, stored, counts⟩ :=
      (booked.tracksArguments_observeArguments guest).told value told
    have isArguments : key.name = argumentsName := by simpa using List.find?_some first
    have later := ((registry.observeArguments guest).2.observes_observeAbove guest).trans
      (observes_observeAll _ .constant (guest.sightings receiver .constant))
    obtain ⟨added, keys⟩ := later.keys
    refine ⟨key, entry, ?_, ?_, counts⟩
    · change (((registry.observeArguments guest).2.observeAbove guest).observeAll .constant
        (guest.sightings receiver .constant)).entries.keys.find? _ = _
      rw [← keys, List.find?_append, first, Option.some_or]
    · have unmoved : (registry.resyncKind guest receiver .constant).entryAt?
          ⟨key.anchor, argumentsName⟩ = _ := entryAt?_resyncConstants_arguments keyed
      rw [← isArguments] at unmoved
      exact unmoved.trans stored
  untold silent anchor := by
    rw [entryAt?_resyncConstants_arguments keyed]
    exact (booked.tracksArguments_observeArguments guest).untold silent anchor

theorem Booked.tracksArguments_pull (booked : registry.Booked) (guest : Guest) (receiver : Scope) :
    TracksArguments guest registry (registry.pull guest receiver .constant argumentsName).2 := by
  rw [Registry.pull, if_pos Kind.accepts_argumentsName, if_pos rfl]
  exact booked.tracksArguments_observeArguments guest

end Registry

end SharedBindings
