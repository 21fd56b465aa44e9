import SharedBindings.Proofs.Resync.Constants

/-!
# A second resync

A resync treats every key by itself: sightings and the scope above the top level write the guest's side
of a binding, whoever wrote it before, or leave it alone. The second time there are more bindings from
the start, and steps that found nothing under a key now write there. But every binding that the first
time has made, it has made by a sighting, which comes again; from there on both times write the same.
Nothing of this needs a registry whose bindings agree with their keys.
-/

namespace SharedBindings

namespace Binding

variable {binding seen : Binding} {change first second : Option Binding → Option Binding}

/-- What a step may make of what stands under a key: it writes the guest's side of a binding or leaves
it alone, and what it makes where there is nothing it makes again of anything seen since. -/
structure Overwrites (change : Option Binding → Option Binding) : Prop where
  held : ∀ binding, ∃ seen, change (some binding) = some seen ∧ binding.SeenAs seen
  written : ∀ {binding seen}, binding.SeenAs seen →
    change (some seen) = change (some binding) ∨
      change (some binding) = some binding ∧ change (some seen) = some seen
  made : ∀ {binding seen}, change none = some binding → binding.SeenAs seen →
    change (some seen) = some binding

theorem SeenAs.name (sees : binding.SeenAs seen) : seen.name = binding.name :=
  congrArg Key.name sees.key

theorem SeenAs.observe_eq (sees : binding.SeenAs seen) (value : Value) :
    seen.observe value = binding.observe value := by
  rcases sees with rfl | ⟨settled, earlier, rfl⟩
  · rfl
  · rw [binding.observe_of_settled value settled]
    rfl

theorem overwrites_id : Overwrites id where
  held binding := ⟨binding, rfl, .refl binding⟩
  written _ := .inr ⟨rfl, rfl⟩
  made nothing := nomatch nothing

theorem overwrites_seen? (kind : Kind) (key : Key) (value : Value) :
    Overwrites (seen? kind key value) where
  held binding := ⟨binding.observe value, rfl, binding.seenAs_observe value⟩
  written sees := .inl (congrArg some (sees.observe_eq value))
  made {binding seen} made sees := by
    have again := seen?_seen? kind key value none
    rw [made] at again
    exact (congrArg some (sees.observe_eq value)).trans again

theorem overwrites_seenAbove (guest : Guest) : Overwrites (Option.map (·.seenAbove guest)) where
  held binding := ⟨binding.seenAbove guest, rfl, binding.seenAs_seenAbove guest⟩
  written {binding seen} sees := by
    simp only [Option.map_some, Option.some.injEq, seenAbove, sees.kind, sees.name]
    by_cases asked : binding.kind = .constant ∧ binding.name ≠ argumentsName
    · rw [if_pos asked, if_pos asked]
      cases guest.above? binding.name with
      | some value => exact .inl (sees.observe_eq value)
      | none => exact .inr ⟨rfl, rfl⟩
    · rw [if_neg asked, if_neg asked]
      exact .inr ⟨rfl, rfl⟩
  made nothing := nomatch nothing

theorem Overwrites.comp (late : Overwrites second) (early : Overwrites first) :
    Overwrites (second ∘ first) where
  held binding := by
    obtain ⟨middle, inMiddle, seenEarly⟩ := early.held binding
    obtain ⟨last, atLast, seenLate⟩ := late.held middle
    exact ⟨last, (congrArg second inMiddle).trans atLast, seenEarly.trans seenLate⟩
  written {binding seen} sees := by
    simp only [Function.comp_apply]
    rcases early.written sees with same | ⟨left, right⟩
    · exact .inl (congrArg second same)
    · rw [left, right]
      exact late.written sees
  made {binding seen} made sees := by
    rw [Function.comp_apply] at made ⊢
    cases inMiddle : first none with
    | none =>
        rw [inMiddle] at made
        obtain ⟨middle, seenFirst, seenEarly⟩ := early.held seen
        rw [seenFirst]
        exact late.made made (sees.trans seenEarly)
    | some middle =>
        rw [inMiddle] at made
        obtain ⟨last, atLast, seenLate⟩ := late.held middle
        obtain rfl : binding = last := Option.some.inj (made.symm.trans atLast)
        rw [early.made inMiddle (seenLate.trans sees)]
        exact made

theorem Overwrites.idempotent (overwrites : Overwrites change) (before : Option Binding) :
    change (change before) = change before := by
  cases before with
  | some binding =>
      obtain ⟨seen, changed, sees⟩ := overwrites.held binding
      rcases overwrites.written sees with same | ⟨alone, _⟩
      · rw [changed, same, changed]
      · rw [alone, alone]
  | none =>
      cases made : change none with
      | none => exact made
      | some binding => exact overwrites.made made (.refl binding)

end Binding

namespace Registry

/-- Where the argument list is registered, or is going to be. -/
def argumentKey (registry : Registry) (top : Scope) : Key :=
  (registry.firstNamed? argumentsName).getD ⟨top, argumentsName⟩

/-- A sweep treats every key by itself, as long as the argument list has its place under one key. -/
structure Sweeps (top : Scope) (home : Key) (sweep : Registry → Registry) : Prop where
  keywise : ∃ change : Key → Option Binding → Option Binding,
    (∀ key, Binding.Overwrites (change key)) ∧
      ∀ {registry : Registry}, registry.argumentKey top = home → ∀ key,
        (sweep registry).binding? key = change key (registry.binding? key)
  observes : ∀ {registry : Registry}, registry.argumentKey top = home →
    registry.Observes (sweep registry)
  staysHome : ∀ {registry : Registry}, registry.argumentKey top = home →
    (sweep registry).argumentKey top = home
  /-- Only a new key touches the books. -/
  books : ∀ {registry : Registry}, registry.argumentKey top = home →
    (sweep registry).entries.keys = registry.entries.keys →
      sweep registry = { registry with entries := (sweep registry).entries }

variable {registry before after : Registry} {guest : Guest} {receiver top : Scope} {home key : Key}
  {kind : Kind} {value : Value} {sweep first second : Registry → Registry}

theorem Observes.entries_eq (observes : before.Observes after)
    (same : ∀ key, after.binding? key = before.binding? key) : after.entries = before.entries := by
  obtain ⟨added, keys⟩ := observes.keys
  have noneAdded : added = [] := by
    rw [List.eq_nil_iff_forall_not_mem]
    intro key member
    have distinct := after.entries.keys_nodup
    rw [← keys, List.nodup_append] at distinct
    have inAfter : (after.entryAt? key).isSome = true :=
      OrderedMap.lookup_isSome_iff.mpr (keys ▸ List.mem_append_right _ member)
    have inBefore : (before.entryAt? key).isSome = true := by
      have sameKey := congrArg Option.isSome (same key)
      rw [Registry.binding?, Registry.binding?, Option.isSome_map, Option.isSome_map] at sameKey
      exact sameKey ▸ inAfter
    exact distinct.2.2 key (OrderedMap.lookup_isSome_iff.mp inBefore) key member rfl
  rw [noneAdded, List.append_nil] at keys
  refine OrderedMap.ext_lookup keys.symm fun key => ?_
  change after.entryAt? key = before.entryAt? key
  have sameBinding := same key
  cases stored : before.entryAt? key with
  | none =>
      rw [Registry.binding?_of_absent stored, Registry.binding?, Option.map_eq_none_iff] at sameBinding
      exact sameBinding
  | some entry =>
      obtain ⟨binding, kept, _⟩ := observes.held stored
      rw [Registry.binding?_of_entryAt? stored, Registry.binding?_of_entryAt? kept] at sameBinding
      have itsBinding : binding = entry.binding := Option.some.inj sameBinding
      rw [kept, itsBinding]

theorem sweeps_id (top : Scope) (home : Key) : Sweeps top home id where
  keywise := ⟨fun _ => id, fun _ => Binding.overwrites_id, fun _ _ => rfl⟩
  observes _ := .refl _
  staysHome isHome := isHome
  books _ _ := rfl

theorem Sweeps.comp (late : Sweeps top home second) (early : Sweeps top home first) :
    Sweeps top home (second ∘ first) where
  keywise := by
    obtain ⟨change, overwrites, changes⟩ := early.keywise
    obtain ⟨again, overwritesAgain, changesAgain⟩ := late.keywise
    refine ⟨fun key => again key ∘ change key, fun key =>
      (overwritesAgain key).comp (overwrites key), fun {registry} isHome key => ?_⟩
    exact (changesAgain (early.staysHome isHome) key).trans (congrArg (again key) (changes isHome key))
  observes isHome := (early.observes isHome).trans (late.observes (early.staysHome isHome))
  staysHome isHome := late.staysHome (early.staysHome isHome)
  books {registry} isHome sameKeys := by
    have keysEarly := (early.observes isHome).keys
    have keysLate := (late.observes (early.staysHome isHome)).keys
    have sameInMiddle : (first registry).entries.keys = registry.entries.keys := by
      have noLonger : (first registry).entries.keys <+: registry.entries.keys := by
        rw [Function.comp_apply] at sameKeys
        exact sameKeys ▸ keysLate
      exact (keysEarly.eq_of_length (Nat.le_antisymm keysEarly.length_le noLonger.length_le)).symm
    have sameAfter : (second (first registry)).entries.keys = (first registry).entries.keys :=
      sameKeys.trans sameInMiddle.symm
    rw [Function.comp_apply, late.books (early.staysHome isHome) sameAfter]
    exact congrArg (fun known => { known with entries := (second (first registry)).entries })
      (early.books isHome sameInMiddle)

theorem Sweeps.of_eq (sweeps : Sweeps top home sweep) {other : Registry → Registry}
    (same : ∀ {registry}, registry.argumentKey top = home → other registry = sweep registry) :
    Sweeps top home other where
  keywise := by
    obtain ⟨change, overwrites, changes⟩ := sweeps.keywise
    exact ⟨change, overwrites, fun isHome key => same isHome ▸ changes isHome key⟩
  observes isHome := same isHome ▸ sweeps.observes isHome
  staysHome isHome := same isHome ▸ sweeps.staysHome isHome
  books isHome := same isHome ▸ sweeps.books isHome

theorem Sweeps.idempotent (sweeps : Sweeps top home sweep)
    (isHome : registry.argumentKey top = home) : sweep (sweep registry) = sweep registry := by
  obtain ⟨change, overwrites, changes⟩ := sweeps.keywise
  have homeThen := sweeps.staysHome isHome
  have same (key : Key) : (sweep (sweep registry)).binding? key = (sweep registry).binding? key := by
    rw [changes homeThen key, changes isHome key, (overwrites key).idempotent]
  have entries := (sweeps.observes homeThen).entries_eq same
  rw [sweeps.books homeThen (congrArg OrderedMap.keys entries), entries]

theorem argumentKey_observe (isHome : registry.argumentKey top = home)
    (own : kind.accepts key.name = true → key.name = argumentsName → key = home) :
    (registry.observe kind key value).argumentKey top = home := by
  unfold observe
  cases stored : registry.entryAt? key with
  | some entry => exact isHome
  | none =>
      cases made : Binding.ofGuest? kind key value with
      | none => exact isHome
      | some binding =>
          obtain rfl : binding.key = key := Binding.key_of_ofGuest? made
          have accepted := Binding.accepts_of_ofGuest? made
          simp only [upsert, stored]
          by_cases isArguments : binding.name = argumentsName
          · have here : binding.key = home := own accepted isArguments
            rw [isArguments, argumentKey, firstNamed?, anchorsOf, OrderedMap.lookup_insert_self]
            rw [argumentKey, firstNamed?] at isHome
            cases anchors : registry.anchorsOf argumentsName with
            | nil => simp [← here, Binding.key, isArguments]
            | cons anchor rest => simpa [anchors] using isHome
          · have kept : (registry.index.insert binding.name
                (registry.anchorsOf binding.name ++ [binding.anchor])).lookup argumentsName =
                  registry.index.lookup argumentsName := by
              rw [OrderedMap.lookup_insert, if_neg (Ne.symm isArguments)]
            rw [argumentKey, firstNamed?, anchorsOf, kept]
            exact isHome

theorem sweeps_observe (top : Scope) (value : Value)
    (own : kind.accepts key.name = true → key.name = argumentsName → key = home) :
    Sweeps top home (·.observe kind key value) where
  keywise := by
    refine ⟨fun other => if other = key then Binding.seen? kind key value else id, fun other => ?_,
      fun {registry} _ other => ?_⟩
    · dsimp only
      split
      · exact Binding.overwrites_seen? kind key value
      · exact Binding.overwrites_id
    · by_cases here : other = key
      · subst here
        dsimp only
        rw [if_pos rfl]
        exact registry.binding?_observe
      · dsimp only
        rw [if_neg here, binding?, entryAt?_observe_other registry here]
        rfl
  observes _ := observes_observe _ kind key value
  staysHome isHome := argumentKey_observe isHome own
  books {registry} _ sameKeys := by
    unfold observe at sameKeys ⊢
    cases stored : registry.entryAt? key with
    | some entry => rfl
    | none =>
        cases made : Binding.ofGuest? kind key value with
        | none => rfl
        | some binding =>
            obtain rfl : binding.key = key := Binding.key_of_ofGuest? made
            have absent : binding.key ∉ registry.entries.keys :=
              OrderedMap.lookup_eq_none_iff.mp stored
            simp [stored, made, keys_upsert, absent] at sameKeys

theorem sweeps_observeAll (top : Scope) (kind : Kind) {sightings : List Sighting}
    (plain : ∀ sighting ∈ sightings, kind.accepts sighting.key.name = true →
      sighting.key.name ≠ argumentsName) :
    Sweeps top home (·.observeAll kind sightings) := by
  induction sightings with
  | nil => exact sweeps_id top home
  | cons seen rest ih =>
      have early : Sweeps top home (·.observe kind seen.key seen.value) :=
        sweeps_observe top seen.value fun accepted isArguments =>
          absurd isArguments (plain seen List.mem_cons_self accepted)
      have late := ih fun sighting member => plain sighting (List.mem_cons_of_mem _ member)
      exact late.comp early

/-- No sighting makes a binding of the argument list. -/
theorem sweeps_observeSightings (guest : Guest) (receiver : Scope) (kind : Kind) :
    Sweeps top home (·.observeAll kind (guest.sightings receiver kind)) := by
  apply sweeps_observeAll
  intro sighting member accepted isArguments
  rw [isArguments] at accepted
  obtain rfl : kind = .constant :=
    Kind.eq_constant_of_accepts accepted Kind.accepts_argumentsName
  exact (Guest.mem_sightings_iff.mp member).1.2 isArguments

theorem sweeps_observeArguments (guest : Guest) :
    Sweeps guest.top home fun registry => (registry.observeArguments guest).2 := by
  cases told : guest.arguments? with
  | none =>
      refine (sweeps_id guest.top home).of_eq fun {registry} _ => ?_
      simp only [observeArguments, told, id]
  | some value =>
      have atHome : Sweeps guest.top home (·.observe .constant home value) :=
        sweeps_observe guest.top value fun _ _ => rfl
      refine atHome.of_eq fun {registry} isHome => ?_
      rw [← isHome]
      simp only [observeArguments, told, argumentKey]

theorem observeAbove_eq (registry : Registry) (guest : Guest) :
    registry.observeAbove guest =
      { registry with entries := (registry.observeAbove guest).entries } := by
  unfold observeAbove
  cases guest.superclass? guest.top <;> rfl

theorem sweeps_observeAbove (guest : Guest) : Sweeps top home (·.observeAbove guest) where
  keywise := by
    refine ⟨fun _ => Option.map (·.seenAbove guest), fun _ => Binding.overwrites_seenAbove guest,
      fun {registry} _ key => ?_⟩
    simp only [binding?, entryAt?_observeAbove, Option.map_map]
    rfl
  observes _ := observes_observeAbove _ guest
  staysHome {registry} isHome := by
    rw [observeAbove_eq]
    exact isHome
  books _ _ := observeAbove_eq _ guest

theorem sweeps_resyncKind (guest : Guest) (receiver : Scope) (kind : Kind) :
    Sweeps guest.top home (·.resyncKind guest receiver kind) := by
  cases kind with
  | constant =>
      have arguments : Sweeps guest.top home fun registry => (registry.observeArguments guest).2 :=
        sweeps_observeArguments guest
      have above := (sweeps_observeAbove guest).comp arguments
      exact (sweeps_observeSightings guest receiver .constant).comp above
  | localVariable | localGlobal | instanceVariable | classVariable | globalVariable =>
      exact sweeps_observeSightings guest receiver _

theorem sweeps_resyncKinds (guest : Guest) (receiver : Scope) (kinds : List Kind) :
    Sweeps guest.top home (·.resyncKinds guest receiver kinds) := by
  induction kinds with
  | nil => exact sweeps_id guest.top home
  | cons kind rest ih => exact ih.comp (sweeps_resyncKind guest receiver kind)

/-- A resync right after a resync, and a pass right after the same pass, leave the registry with its
entries, their order, their handles and their bindings exactly as it is. -/
theorem resync_idempotent (registry : Registry) (guest : Guest) (receiver : Scope) :
    (registry.resync guest receiver).resync guest receiver = registry.resync guest receiver ∧
      ∀ kind, (registry.resyncKind guest receiver kind).resyncKind guest receiver kind =
        registry.resyncKind guest receiver kind := by
  constructor
  · cases isLazy : registry.settings.lazy with
    | true =>
        have unchanged : registry.resync guest receiver = registry := if_pos isLazy
        rw [unchanged, unchanged]
    | false =>
        have alsoEager : (registry.resync guest receiver).settings.lazy = false := by
          rw [settings_resync, isLazy]
        rw [resync_of_eager alsoEager, settings_resync, resync_of_eager isLazy]
        exact (sweeps_resyncKinds guest receiver _).idempotent rfl
  · intro kind
    exact (sweeps_resyncKind guest receiver kind).idempotent rfl

end Registry

end SharedBindings
