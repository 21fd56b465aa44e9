import Mathlib.Tactic.ByContra
import SharedBindings.Proofs.Resync.Sightings

/-!
# Where new bindings come from

A pass makes bindings of its own kind only, and, constants apart, makes them of what it sees. A pull
makes one binding at most, of what the search path of its name answers. So a binding that is new after
a resync or a pull tells what the guest had for it.
-/

namespace SharedBindings.Registry

/-- Whatever is new in a registry is of one kind. -/
structure MakesOnly (kind : Kind) (before after : Registry) : Prop where
  made : ∀ {key entry}, before.entryAt? key = none → after.entryAt? key = some entry →
    entry.binding.kind = kind

variable {registry before after first second third : Registry} {guest : Guest} {receiver : Scope}
  {kind : Kind} {kinds : List Kind} {key : Key} {entry : Entry} {name : String}

theorem MakesOnly.of_absent
    (nothing : ∀ key, before.entryAt? key = none → after.entryAt? key = none) :
    MakesOnly kind before after where
  made absent stored := nomatch (nothing _ absent).symm.trans stored

theorem MakesOnly.trans (early : MakesOnly kind first second) (late : MakesOnly kind second third)
    (observes : second.Observes third) : MakesOnly kind first third where
  made {key entry} absent stored := by
    cases middle : second.entryAt? key with
    | none => exact late.made middle stored
    | some earlier =>
        obtain ⟨_, seen⟩ := observes.seenAs middle stored
        exact seen.kind.trans (early.made absent middle)

theorem makesOnly_observe (registry : Registry) (kind : Kind) (key : Key) (value : Value) :
    MakesOnly kind registry (registry.observe kind key value) := by
  constructor
  intro other entry absent stored
  by_cases here : other = key
  · subst here
    have seen : (registry.observe kind other value).binding? other =
        Binding.seen? kind other value (registry.binding? other) := binding?_observe registry
    rw [binding?_of_entryAt? stored, binding?_of_absent absent] at seen
    obtain ⟨_, made⟩ := Option.ite_none_right_eq_some.mp seen.symm
    rw [← Option.some.inj made]
    rfl
  · rw [registry.entryAt?_observe_other here, absent] at stored
    contradiction

theorem makesOnly_observeAll (registry : Registry) (kind : Kind) (sightings : List Sighting) :
    MakesOnly kind registry (registry.observeAll kind sightings) := by
  induction sightings generalizing registry with
  | nil => exact .of_absent fun _ absent => absent
  | cons seen rest ih =>
      exact (registry.makesOnly_observe kind seen.key seen.value).trans (ih _)
        (observes_observeAll _ kind rest)

theorem makesOnly_observeArguments (registry : Registry) (guest : Guest) :
    MakesOnly .constant registry (registry.observeArguments guest).2 := by
  unfold observeArguments
  cases guest.arguments? with
  | none => exact .of_absent fun _ absent => absent
  | some value => exact registry.makesOnly_observe .constant _ value

theorem makesOnly_resyncKind (registry : Registry) (guest : Guest) (receiver : Scope) (kind : Kind) :
    MakesOnly kind registry (registry.resyncKind guest receiver kind) := by
  cases kind with
  | constant =>
      have arguments := registry.makesOnly_observeArguments guest
      have above : MakesOnly .constant (registry.observeArguments guest).2
          ((registry.observeArguments guest).2.observeAbove guest) :=
        .of_absent fun _ absent => by rw [entryAt?_observeAbove, absent, Option.map_none]
      exact (arguments.trans above (observes_observeAbove _ guest)).trans
        (makesOnly_observeAll _ _ _) (observes_observeAll _ _ _)
  | localVariable | localGlobal | instanceVariable | classVariable | globalVariable =>
      exact registry.makesOnly_observeAll _ _

/-- A binding that a pass has made is what the pass saw. -/
theorem sees_of_made_resyncKind (plain : kind ≠ .constant) (absent : registry.entryAt? key = none)
    (stored : (registry.resyncKind guest receiver kind).entryAt? key = some entry) :
    ∃ value, guest.Sees receiver kind key value := by
  by_contra unseen
  rw [resyncKind_of_ne_constant _ _ _ plain,
    registry.entryAt?_observeSightings_of_unseen (not_exists.mp unseen), absent] at stored
  contradiction

theorem sees_of_made_resyncKinds (absent : registry.entryAt? key = none)
    (stored : (registry.resyncKinds guest receiver kinds).entryAt? key = some entry)
    (plain : entry.binding.kind ≠ .constant) :
    ∃ value, guest.Sees receiver entry.binding.kind key value := by
  induction kinds generalizing registry with
  | nil => exact nomatch absent.symm.trans stored
  | cons first rest ih =>
      cases middle : (registry.resyncKind guest receiver first).entryAt? key with
      | none => exact ih middle stored
      | some made =>
          have later := (registry.resyncKind guest receiver first).observes_resyncKinds guest
            receiver rest
          obtain ⟨_, seen⟩ := later.seenAs middle stored
          have itsKind : entry.binding.kind = first :=
            seen.kind.trans ((registry.makesOnly_resyncKind guest receiver first).made absent middle)
          rw [itsKind] at plain ⊢
          exact sees_of_made_resyncKind plain absent middle

theorem kind_mem_of_made_resyncKinds (absent : registry.entryAt? key = none)
    (stored : (registry.resyncKinds guest receiver kinds).entryAt? key = some entry) :
    entry.binding.kind ∈ kinds := by
  induction kinds generalizing registry with
  | nil => exact nomatch absent.symm.trans stored
  | cons first rest ih =>
      cases middle : (registry.resyncKind guest receiver first).entryAt? key with
      | none => exact List.mem_cons_of_mem _ (ih middle stored)
      | some made =>
          have later := (registry.resyncKind guest receiver first).observes_resyncKinds guest
            receiver rest
          obtain ⟨_, seen⟩ := later.seenAs middle stored
          have itsKind : entry.binding.kind = first :=
            seen.kind.trans ((registry.makesOnly_resyncKind guest receiver first).made absent middle)
          exact itsKind ▸ List.mem_cons_self

theorem sees_of_made_resync (absent : registry.entryAt? key = none)
    (stored : (registry.resync guest receiver).entryAt? key = some entry)
    (plain : entry.binding.kind ≠ .constant) :
    ∃ value, guest.Sees receiver entry.binding.kind key value := by
  unfold resync at stored
  split at stored
  · exact nomatch absent.symm.trans stored
  · exact sees_of_made_resyncKinds absent stored plain

theorem makesOnly_pull (registry : Registry) (guest : Guest) (receiver : Scope) (kind : Kind)
    (name : String) : MakesOnly kind registry (registry.pull guest receiver kind name).2 := by
  unfold pull
  split
  · rename_i accepted
    split
    · rename_i isArguments
      have constant : kind = .constant :=
        Kind.eq_constant_of_accepts (isArguments ▸ accepted) Kind.accepts_argumentsName
      subst constant
      exact registry.makesOnly_observeArguments guest
    · cases guest.readFirst (guest.searchPath kind receiver name) with
      | none => exact .of_absent fun _ absent => absent
      | some value => exact registry.makesOnly_observe kind _ value
  · exact .of_absent fun _ absent => absent

/-- A binding that a pull has made stands where its name is anchored, and is what the search path
answered; the argument list apart. -/
theorem answered_of_made_pull (plain : name ≠ argumentsName) (absent : registry.entryAt? key = none)
    (stored : (registry.pull guest receiver kind name).2.entryAt? key = some entry) :
    key = ⟨guest.anchorFor kind receiver name, name⟩ ∧
      (guest.readFirst (guest.searchPath kind receiver name)).isSome = true := by
  unfold pull at stored
  rw [if_neg plain] at stored
  split at stored
  · cases answer : guest.readFirst (guest.searchPath kind receiver name) with
    | none =>
        rw [answer] at stored
        exact nomatch absent.symm.trans stored
    | some value =>
        rw [answer] at stored
        refine ⟨?_, rfl⟩
        by_contra other
        exact nomatch (absent.symm.trans (registry.entryAt?_observe_other other).symm).trans stored
  · exact nomatch absent.symm.trans stored

end SharedBindings.Registry
