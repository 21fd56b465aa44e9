import SharedBindings.Proofs.Session.HostWrites
import SharedBindings.Proofs.Session.Laziness

/-!
# Puts are isolated

A put either refuses a name that is spelled like none of the session's kinds, and then nothing happens,
or it writes one binding, which a read finds at once. A read of any other name cannot tell that there
was a put: whatever it asks for, in the registry or in the guest, goes by its own name alone.
-/

namespace SharedBindings

namespace Registry

/-- Two registries that are the same to whoever asks for one name. -/
structure AgreesOn (name : String) (one other : Registry) : Prop where
  bindings : ∀ anchor, other.binding? ⟨anchor, name⟩ = one.binding? ⟨anchor, name⟩
  first : other.firstNamed? name = one.firstNamed? name

variable {one other : Registry} {name : String}

theorem AgreesOn.value?_eq (agrees : AgreesOn name one other) (anchor : Scope) :
    other.value? ⟨anchor, name⟩ = one.value? ⟨anchor, name⟩ :=
  congrArg (Option.bind · Binding.value?) (agrees.bindings anchor)

theorem AgreesOn.registered_eq (agrees : AgreesOn name one other) (anchor : Scope) :
    (other.entryAt? ⟨anchor, name⟩).isSome = (one.entryAt? ⟨anchor, name⟩).isSome := by
  have same := congrArg Option.isSome (agrees.bindings anchor)
  rwa [binding?, binding?, Option.isSome_map, Option.isSome_map] at same

theorem AgreesOn.value?_observe (agrees : AgreesOn name one other) (kind : Kind) (anchor : Scope)
    (value : Value) :
    (other.observe kind ⟨anchor, name⟩ value).value? ⟨anchor, name⟩ =
      (one.observe kind ⟨anchor, name⟩ value).value? ⟨anchor, name⟩ := by
  rw [value?, value?, binding?_observe, binding?_observe, agrees.bindings]

theorem exists_argumentKey_eq (registry : Registry) (top : Scope) :
    ∃ anchor, (registry.firstNamed? argumentsName).getD ⟨top, argumentsName⟩ =
      ⟨anchor, argumentsName⟩ := by
  rw [firstNamed?]
  cases (registry.anchorsOf argumentsName).head? with
  | none => exact ⟨top, rfl⟩
  | some anchor => exact ⟨anchor, rfl⟩

/-- A pull answers the same from both, whatever else they hold. -/
theorem AgreesOn.pull_answer (agrees : AgreesOn name one other) (guest : Guest) (receiver : Scope)
    (kind : Kind) :
    (other.pull guest receiver kind name).1.bind (other.pull guest receiver kind name).2.value? =
      (one.pull guest receiver kind name).1.bind (one.pull guest receiver kind name).2.value? := by
  unfold pull
  split
  · split
    · rename_i isArguments
      subst isArguments
      unfold observeArguments
      cases guest.arguments? with
      | none => rfl
      | some value =>
          obtain ⟨anchor, itsKey⟩ := one.exists_argumentKey_eq guest.top
          simp only [agrees.first, itsKey, Option.bind_some]
          exact agrees.value?_observe .constant anchor value
    · cases guest.readFirst (guest.searchPath kind receiver name) with
      | none => rfl
      | some value => exact agrees.value?_observe kind _ value
  · rfl

theorem firstNamed?_upsert_other (registry : Registry) {binding : Binding}
    (different : name ≠ binding.name) :
    (registry.upsert binding).2.firstNamed? name = registry.firstNamed? name := by
  unfold upsert
  split
  · rfl
  · simp only [firstNamed?, anchorsOf, OrderedMap.lookup_insert, if_neg different]

end Registry

namespace Session

variable {session one other : Session} {asker : Scope} {kind : Kind} {name another : String}

/-- Two sessions over one guest that are the same to whoever asks for one name. -/
structure AgreesOn (name : String) (one other : Session) : Prop where
  guest : other.guest = one.guest
  settings : other.settings = one.settings
  registry : Registry.AgreesOn name one.registry other.registry

theorem AgreesOn.get_answer (agrees : AgreesOn name one other) (asker : Scope) :
    (other.get asker name).map Prod.fst = (one.get asker name).map Prod.fst := by
  have sameKind : other.classify name = one.classify name := by
    rw [classify, classify, agrees.settings]
  cases classified : one.classify name with
  | error problem => simp only [get, sameKind, classified, Except.map]
  | ok kind =>
      rw [get_of_ok classified, get_of_ok (sameKind.trans classified), Except.ok.injEq]
      have sameKey : other.keyFor kind asker name = one.keyFor kind asker name := by
        rw [keyFor, keyFor, agrees.guest]
      obtain ⟨anchor, place⟩ : ∃ anchor, one.keyFor kind asker name = ⟨anchor, name⟩ := ⟨_, rfl⟩
      simp only [locate, sameKey, place, agrees.settings, agrees.guest,
        agrees.registry.registered_eq]
      cases (one.registry.entryAt? ⟨anchor, name⟩).isSome with
      | true => exact agrees.registry.value?_eq anchor
      | false =>
          cases one.settings.lazy with
          | true =>
              simp only [pull, agrees.guest]
              exact agrees.registry.pull_answer one.guest asker kind
          | false =>
              by_cases constant : kind = .constant
              · simp only [Bool.false_eq_true, if_false, if_pos constant, List.find?_map,
                  Function.comp_def, agrees.registry.registered_eq]
                cases (one.guest.lookupScopes asker).find? fun scope =>
                  (one.registry.entryAt? ⟨scope, name⟩).isSome with
                | none => rfl
                | some scope => exact agrees.registry.value?_eq scope
              · simp only [Bool.false_eq_true, if_false, if_neg constant, Option.bind_none]

theorem locate_of_registered {entry : Entry}
    (stored : session.registry.entryAt? (session.keyFor kind asker name) = some entry) :
    session.locate kind asker name = (some (session.keyFor kind asker name), session) := by
  simp only [locate, stored, Option.isSome_some, if_true]

theorem keys_putKind (session : Session) (kind : Kind) (receiver : Scope) (name : String)
    (value : Value) :
    (session.perform (.putKind kind receiver name value)).2.registry.entries.keys =
        session.registry.entries.keys ∨
      (session.perform (.putKind kind receiver name value)).2.registry.entries.keys =
        session.registry.entries.keys ++ [session.keyFor kind receiver name] := by
  rcases session.registry_putKind kind receiver name value with same | same | ⟨_, _, itsKey, same⟩
  · exact .inl (by rw [same])
  · exact .inl (by rw [same, Registry.keys_changeAt])
  · rw [same, Registry.keys_upsert, itsKey]
    split
    · exact .inl rfl
    · exact .inr rfl

/-- A put under one name is nothing to whoever asks for another one. -/
theorem agreesOn_putKind (session : Session) (kind : Kind) (receiver : Scope) (value : Value)
    (different : another ≠ name) :
    session.AgreesOn another (session.perform (.putKind kind receiver name value)).2 where
  guest := (session.kept_putKind kind receiver name value).1
  settings := session.settings_putKind kind receiver name value
  registry := by
    constructor
    case bindings =>
      intro anchor
      have apart : (⟨anchor, another⟩ : Key) ≠ session.keyFor kind receiver name :=
        fun same => different (congrArg Key.name same)
      by_cases accepted : kind.accepts name = true
      · obtain ⟨_, _, _, entries⟩ := session.entryAt?_putKind receiver value accepted
        rw [Registry.binding?, entries, if_neg apart, Registry.binding?]
      · rw [session.perform_putKind_of_not_accepts receiver accepted]
    case first =>
      rcases session.registry_putKind kind receiver name value with
        same | same | ⟨binding, _, itsKey, same⟩
      · rw [same]
      · rw [same]
        rfl
      · have itsName : binding.name = name := congrArg Key.name itsKey
        rw [same, Registry.firstNamed?_upsert_other _ (itsName ▸ different)]

/-- What a put that is not refused leaves behind. -/
structure PutOutcome (kind : Kind) (receiver : Scope) (name : String) (value : Value)
    (handle : Handle) (before after : Session) : Prop where
  guest : after.guest = before.guest
  generation : after.generation = before.generation
  settings : after.settings = before.settings
  keys : after.registry.entries.keys = before.registry.entries.keys ∨
    after.registry.entries.keys =
      before.registry.entries.keys ++ [before.keyFor kind receiver name]
  others : ∀ key, key ≠ before.keyFor kind receiver name →
    after.registry.entryAt? key = before.registry.entryAt? key
  written : ∃ binding,
    after.registry.entryAt? (before.keyFor kind receiver name) = some ⟨handle, binding⟩ ∧
      binding.isPending = true ∧ binding.value? = some value
  /-- A name that was registered before is overwritten in place. -/
  kept : ∀ {held : Handle},
    before.registry.handle? (before.keyFor kind receiver name) = some held → handle = held
  /-- Whether the session is lazy or not. -/
  readBack : after.get receiver name = .ok (some value, after)
  arguments : name = argumentsName → ∀ asker, after.get asker name = .ok (some value, after)
  isolated : ∀ another, another ≠ name → ∀ asker,
    (after.get asker another).map Prod.fst = (before.get asker another).map Prod.fst

theorem exists_putOutcome (session : Session) (receiver : Scope) (value : Value)
    (classified : session.classify name = .ok kind) :
    ∃ handle after, session.putKind kind receiver name value = .ok (handle, after) ∧
      PutOutcome kind receiver name value handle session after := by
  have accepted := session.accepts_of_classify classified
  obtain ⟨registry, put, entries⟩ := session.putKind_of_accepts receiver value accepted
  let here := session.keyFor kind receiver name
  let after : Session := { session with registry }
  have performed : (session.perform (.putKind kind receiver name value)).2 = after := by
    simp only [perform, put, orRefuse, after]
  obtain ⟨pending, written⟩ := session.putEntry_waits kind here value
  have stored : after.registry.entryAt? here = some (session.putEntry kind here value) :=
    (entries here).trans (if_pos rfl)
  have sameSettings : after.settings = session.settings :=
    performed ▸ session.settings_putKind kind receiver name value
  have alsoClassified : after.classify name = .ok kind := by
    rw [classify, sameSettings]
    exact classified
  have reads (asker : Scope) (itsKey : after.keyFor kind asker name = here) :
      after.get asker name = .ok (some value, after) := by
    have located : after.locate kind asker name = (some here, after) :=
      itsKey ▸ locate_of_registered (itsKey ▸ stored)
    rw [get_of_locate stored pending written alsoClassified (congrArg Prod.fst located), located]
  refine ⟨_, after, put, ?_⟩
  constructor
  case guest => rfl
  case generation => rfl
  case settings => exact sameSettings
  case keys => exact performed ▸ session.keys_putKind kind receiver name value
  case others => exact fun key different => (entries key).trans (if_neg different)
  case written => exact ⟨_, stored, pending, Binding.value?_of_pending pending written⟩
  case kept =>
    intro held found
    obtain ⟨entry, earlier, rfl⟩ := Option.map_eq_some_iff.mp found
    rw [putEntry, earlier]
    rfl
  case readBack => exact reads receiver rfl
  case arguments =>
    rintro rfl asker
    have constant : kind = .constant :=
      Kind.eq_constant_of_accepts accepted Kind.accepts_argumentsName
    subst constant
    exact reads asker rfl
  case isolated =>
    intro another different asker
    have agrees := session.agreesOn_putKind kind receiver value different
    rw [performed] at agrees
    exact agrees.get_answer asker

/-- A put is refused if the name is spelled like none of the session's kinds, and then leaves all as it
was. Otherwise it writes one binding. A kind that accepts the name is not refused later on, when the
binding is made. -/
theorem put_all_or_nothing (session : Session) (receiver : Scope) (name : String) (value : Value) :
    ((∀ kind ∈ session.settings.localPolicy.candidateKinds, kind.accepts name = false) ∧
        session.perform (.put receiver name value) =
          (.refused (.invalidName none name), session) ∨
      ∃ kind ∈ session.settings.localPolicy.candidateKinds, kind.accepts name = true ∧
        ∃ handle after,
          session.perform (.put receiver name value) = (.handle (some handle), after) ∧
          PutOutcome kind receiver name value handle session after) ∧
      ∀ kind, kind.accepts name = true →
        (Binding.ofHost? kind (session.keyFor kind receiver name) value).isSome = true := by
  constructor
  · cases classified : session.settings.localPolicy.classify name with
    | none =>
        have refused := List.find?_eq_none.mp classified
        refine .inl ⟨fun kind candidate => Bool.eq_false_iff.mpr (refused kind candidate), ?_⟩
        simp only [perform, put, classify, classified, orRefuse]
    | some kind =>
        obtain ⟨candidate, accepted⟩ := LocalPolicy.classify_eq_some_iff.mp classified
        have ofKind := classify_of_policy classified
        obtain ⟨handle, after, done, outcome⟩ := session.exists_putOutcome receiver value ofKind
        refine .inr ⟨kind, candidate, accepted, handle, after, ?_, outcome⟩
        simp only [perform, put, ofKind, done, orRefuse]
  · intro kind accepted
    have isName : (session.keyFor kind receiver name).name = name := rfl
    rw [Binding.ofHost?, isName, if_pos accepted]
    rfl

end Session

end SharedBindings
