import SharedBindings.Proofs.Injection.Outcome
import SharedBindings.Proofs.Resync.Observation

/-!
# What operations do

One lemma for each operation that is not covered by the outcome of a pass or by what sightings do:
the session it leaves, in terms of the session it found.
-/

namespace SharedBindings

namespace Registry

variable (registry : Registry)

theorem entryAt?_changeHeld (handle : Handle) (update : Binding → Binding) (key : Key) :
    (registry.changeHeld handle update).entryAt? key =
      (registry.entryAt? key).map fun entry =>
        if entry.handle = handle then entry.change update else entry :=
  OrderedMap.lookup_mapValues _

end Registry

namespace Session

variable (session : Session) {key : Key} {name : String} {kind : Kind} {value : Value}

theorem perform_injectPending :
    (session.perform .injectPending).2 = session.injectPending.2 := by
  simp only [perform]

theorem perform_resync (receiver : Scope) :
    (session.perform (.resync receiver)).2 = session.resync receiver := by
  simp only [perform]

theorem resync_of_lazy (isLazy : session.settings.lazy = true) (receiver : Scope) :
    session.resync receiver = session := by
  have same : session.registry.resync session.guest receiver = session.registry :=
    if_pos isLazy
  rw [Session.resync, same]

theorem perform_touch (step : Guest.Step) :
    (session.perform (.touch step)).2 =
      { session with guest := (session.guest.perform step).2 } := by
  simp only [perform]

theorem perform_runUnit (receiver : Scope) (steps : List Guest.Step) :
    (session.perform (.runUnit receiver steps)).2 =
      { session.injectPending.2 with
        guest := (session.injectPending.2.guest.performAll steps).2 }.resync receiver := by
  simp only [perform, runUnit]

/-- Resync after a unit only observes. -/
theorem observed_runUnit (receiver : Scope) (steps : List Guest.Step) :
    (session.perform (.runUnit receiver steps)).2.guest =
        (session.injectPending.2.guest.performAll steps).2 ∧
      (session.perform (.runUnit receiver steps)).2.generation =
        session.injectPending.2.generation ∧
      session.injectPending.2.registry.Observes
        (session.perform (.runUnit receiver steps)).2.registry := by
  rw [perform_runUnit]
  generalize session.injectPending.2 = ready
  generalize (ready.guest.performAll steps).2 = evaluated
  have observed := onlyObserved_resync { ready with guest := evaluated } receiver
  exact ⟨observed.guest, observed.generation, observed.registry⟩

/-- The entry that a put leaves under a key. -/
def putEntry (session : Session) (kind : Kind) (key : Key) (value : Value) : Entry :=
  match session.registry.entryAt? key with
  | some entry => entry.change (·.hostWrite value)
  | none =>
      { handle := ⟨session.registry.issued⟩
        binding := .firstWritten kind key value }

theorem putEntry_waits (kind : Kind) (key : Key) (value : Value) :
    (session.putEntry kind key value).binding.isPending = true ∧
      (session.putEntry kind key value).binding.hostValue? = some value := by
  unfold putEntry
  cases session.registry.entryAt? key <;> exact ⟨rfl, rfl⟩

/-- A put writes the host's side of the binding under its key, and makes the binding if there is
none yet. -/
theorem putKind_of_accepts (receiver : Scope) (value : Value) (accepted : kind.accepts name = true) :
    ∃ registry,
      session.putKind kind receiver name value =
        .ok ((session.putEntry kind (session.keyFor kind receiver name) value).handle,
          { session with registry }) ∧
      ∀ key, registry.entryAt? key =
        if key = session.keyFor kind receiver name then
          some (session.putEntry kind (session.keyFor kind receiver name) value)
        else session.registry.entryAt? key := by
  generalize place : session.keyFor kind receiver name = here
  have itsName : here.name = name := place ▸ rfl
  let made : Binding := .firstWritten kind here value
  have valid : Binding.ofHost? kind here value = some made := if_pos (itsName ▸ accepted)
  cases stored : session.registry.entryAt? here with
  | some entry =>
      refine ⟨session.registry.changeAt here (·.hostWrite value), ?_, fun key => ?_⟩
      · simp only [putKind, accepted, if_true, place, Registry.handle?, stored, Option.map_some,
          putEntry, Entry.handle_change]
      · rw [Registry.entryAt?_changeAt]
        by_cases same : key = here
        · simp [same, stored, putEntry]
        · simp [same]
  | none =>
      have itsKey : made.key = here := rfl
      have fresh : (session.registry.upsert made).1 = ⟨session.registry.issued⟩ := by
        simp only [Registry.upsert, itsKey, stored]
      refine ⟨(session.registry.upsert made).2, ?_, fun key => ?_⟩
      · simp only [putKind, accepted, if_true, place, valid, Registry.handle?, stored,
          Option.map_none, putEntry, fresh]
      · by_cases same : key = here
        · rw [if_pos same, same, ← itsKey, Registry.entryAt?_upsert, fresh, putEntry, itsKey, stored]
        · rw [if_neg same]
          exact session.registry.entryAt?_upsert_other key made same

theorem entryAt?_putKind (receiver : Scope) (value : Value)
    (accepted : kind.accepts name = true) :
    ∃ entry, entry.binding.isPending = true ∧ entry.binding.hostValue? = some value ∧
      ∀ key, (session.perform (.putKind kind receiver name value)).2.registry.entryAt? key =
        if key = session.keyFor kind receiver name then some entry
        else session.registry.entryAt? key := by
  obtain ⟨registry, put, entries⟩ := session.putKind_of_accepts receiver value accepted
  obtain ⟨pending, written⟩ := session.putEntry_waits kind (session.keyFor kind receiver name) value
  refine ⟨_, pending, written, ?_⟩
  simp only [perform, put, orRefuse]
  exact entries

theorem registry_putKind (kind : Kind) (receiver : Scope) (name : String) (value : Value) :
    (session.perform (.putKind kind receiver name value)).2.registry = session.registry ∨
      (session.perform (.putKind kind receiver name value)).2.registry =
          session.registry.changeAt (session.keyFor kind receiver name) (·.hostWrite value) ∨
      ∃ binding : Binding, kind.accepts name = true ∧
        binding.key = session.keyFor kind receiver name ∧
        (session.perform (.putKind kind receiver name value)).2.registry =
          (session.registry.upsert binding).2 := by
  simp only [perform, putKind]
  by_cases accepted : kind.accepts name = true
  · rw [if_pos accepted]
    cases session.registry.handle? (session.keyFor kind receiver name) with
    | some handle => exact .inr (.inl rfl)
    | none =>
        cases made : Binding.ofHost? kind (session.keyFor kind receiver name) value with
        | none => exact .inl rfl
        | some binding =>
            obtain ⟨_, isBinding⟩ := Option.ite_none_right_eq_some.mp made
            exact .inr (.inr ⟨binding, accepted, Option.some.inj isBinding ▸ rfl, rfl⟩)
  · rw [if_neg accepted]
    exact .inl rfl

theorem putKind_of_refused (receiver : Scope) (value : Value) (refused : kind.accepts name ≠ true) :
    session.putKind kind receiver name value = .error (.invalidName (some kind) name) :=
  if_neg refused

theorem perform_putKind_of_not_accepts (receiver : Scope) (refused : kind.accepts name ≠ true) :
    (session.perform (.putKind kind receiver name value)).2 = session := by
  simp only [perform, session.putKind_of_refused receiver value refused, orRefuse]

theorem perform_put_of_ok {receiver : Scope} (classified : session.classify name = .ok kind) :
    session.perform (.put receiver name value) =
      session.perform (.putKind kind receiver name value) := by
  simp only [perform, put, classified]

theorem perform_put_of_error {receiver : Scope} {problem : HostError}
    (refused : session.classify name = .error problem) :
    (session.perform (.put receiver name value)).2 = session := by
  simp only [perform, put, refused, orRefuse]

theorem kept_putKind (kind : Kind) (receiver : Scope) (name : String) (value : Value) :
    (session.perform (.putKind kind receiver name value)).2.guest = session.guest ∧
      (session.perform (.putKind kind receiver name value)).2.generation = session.generation := by
  by_cases accepted : kind.accepts name = true
  · obtain ⟨registry, put, _⟩ := session.putKind_of_accepts receiver value accepted
    simp only [perform, put, orRefuse, and_self]
  · rw [session.perform_putKind_of_not_accepts receiver accepted]
    exact ⟨rfl, rfl⟩

theorem kept_put (receiver : Scope) (name : String) (value : Value) :
    (session.perform (.put receiver name value)).2.guest = session.guest ∧
      (session.perform (.put receiver name value)).2.generation = session.generation := by
  cases classified : session.classify name with
  | error problem =>
      rw [perform_put_of_error session classified]
      exact ⟨rfl, rfl⟩
  | ok kind =>
      rw [perform_put_of_ok session classified]
      exact session.kept_putKind kind receiver name value

theorem accepts_of_classify (classified : session.classify name = .ok kind) :
    kind.accepts name = true := by
  unfold classify at classified
  cases found : session.settings.localPolicy.classify name with
  | none => simp [found] at classified
  | some other =>
      simp only [found, Except.ok.injEq] at classified
      exact LocalPolicy.accepts_of_classify (classified ▸ found)

/-- The kind of what a drop takes away. -/
def droppedKind (session : Session) (kind : Kind) (key : Key) : Kind :=
  ((session.registry.binding? key).map Binding.kind).getD kind

/-- The cells in which a drop looks, in their order. -/
def dropPath (session : Session) (kind : Kind) (key : Key) : List Cell :=
  match session.registry.binding? key with
  | some binding => binding.removalPath session.guest key.name
  | none => session.guest.removalPath kind key.anchor key.name none

theorem drop_eq (kind : Kind) (key : Key) :
    session.drop kind key =
      (session.registry.handle? key,
        { session with registry := (session.registry.remove key).2 }.undefine
          (session.droppedKind kind key) (session.dropPath kind key)) := by
  cases stored : session.registry.entryAt? key with
  | none =>
      simp [drop, Registry.remove, Registry.handle?, droppedKind, dropPath, Registry.binding?, stored]
  | some entry =>
      simp [drop, Registry.remove, Registry.handle?, droppedKind, dropPath, Registry.binding?, stored]

/-- What a drop erases in the guest carries the dropped name, in a place of the dropped kind. -/
theorem cell_of_mem_dropPath {session : Session} {cell : Cell}
    (member : cell ∈ session.dropPath kind key) :
    ∃ scope, cell = (session.droppedKind kind key).cell scope key.name := by
  unfold dropPath at member
  cases found : session.registry.binding? key with
  | none =>
      rw [found] at member
      obtain ⟨scope, _, rfl⟩ := List.mem_map.mp member
      exact ⟨scope, by rw [droppedKind, found]; rfl⟩
  | some binding =>
      simp only [found, Binding.removalPath] at member
      split at member
      · obtain ⟨scope, _, rfl⟩ := List.mem_map.mp member
        exact ⟨scope, by rw [droppedKind, found]; rfl⟩
      · contradiction

theorem registry_drop (kind : Kind) (key : Key) :
    (session.drop kind key).2.registry = (session.registry.remove key).2 := by
  rw [drop_eq]
  rfl

theorem guest_drop (kind : Kind) (key : Key) :
    (session.drop kind key).2.guest = (session.guest.eraseFirst (session.dropPath kind key)).2 := by
  rw [drop_eq]
  rfl

theorem perform_remove_of_ok {receiver : Scope} (classified : session.classify name = .ok kind) :
    (session.perform (.remove receiver name)).2 =
      (session.drop kind (session.keyFor kind receiver name)).2 := by
  simp only [perform, remove, classified, orRefuse]

theorem perform_remove_of_error {receiver : Scope} {problem : HostError}
    (refused : session.classify name = .error problem) :
    (session.perform (.remove receiver name)).2 = session := by
  simp only [perform, remove, refused, orRefuse]

/-- A read pulls a name only into a lazy registry that does not have it yet. -/
theorem registry_locate (kind : Kind) (receiver : Scope) (name : String) :
    (session.locate kind receiver name).2.registry = session.registry ∨
      (session.settings.lazy = true ∧
          session.registry.entryAt? (session.keyFor kind receiver name) = none) ∧
        (session.locate kind receiver name).2.registry =
          (session.registry.pull session.guest receiver kind name).2 := by
  simp only [locate]
  split
  · exact .inl rfl
  · rename_i missing
    split
    · rename_i isLazy
      exact .inr ⟨⟨isLazy, Option.not_isSome_iff_eq_none.mp missing⟩, rfl⟩
    · split <;> exact .inl rfl

/-- The operation asks the guest for a name, which it takes for one of a kind. -/
def Pulls (session : Session) (kind : Kind) (receiver : Scope) (name : String) : Operation → Prop
  | .get under asked | .handleAt under asked =>
      (under = receiver ∧ asked = name ∧ session.classify name = .ok kind) ∧
        session.settings.lazy = true ∧
          session.registry.entryAt? (session.keyFor kind receiver name) = none
  | .refresh under asked => under = receiver ∧ asked = name ∧ session.classify name = .ok kind
  | _ => False

/-- A refresh pulls whatever is registered, a read only what a lazy session does not have. -/
theorem pulls_cases {session : Session} {receiver : Scope} {operation : Operation}
    (pulls : session.Pulls kind receiver name operation) :
    session.classify name = .ok kind ∧
      (operation = .refresh receiver name ∨
        (operation = .get receiver name ∨ operation = .handleAt receiver name) ∧
          session.settings.lazy = true ∧
          session.registry.entryAt? (session.keyFor kind receiver name) = none) := by
  cases operation with
  | get under asked =>
      obtain ⟨⟨rfl, rfl, classified⟩, missing⟩ := pulls
      exact ⟨classified, .inr ⟨.inl rfl, missing⟩⟩
  | handleAt under asked =>
      obtain ⟨⟨rfl, rfl, classified⟩, missing⟩ := pulls
      exact ⟨classified, .inr ⟨.inr rfl, missing⟩⟩
  | refresh under asked =>
      obtain ⟨rfl, rfl, classified⟩ := pulls
      exact ⟨classified, .inl rfl⟩
  | put | putKind | remove | injectPending | resync | runUnit | touch | writeHeld =>
      exact pulls.elim

/-- All that the operation can do to the registry is a pull of one name. -/
def MayPull (session : Session) (receiver : Scope) (name : String) (operation : Operation) : Prop :=
  (session.perform operation).2.registry = session.registry ∨
    ∃ kind, session.Pulls kind receiver name operation ∧
      (session.perform operation).2.registry =
        (session.registry.pull session.guest receiver kind name).2

theorem mayPull_get (receiver : Scope) (name : String) :
    session.MayPull receiver name (.get receiver name) := by
  simp only [MayPull, perform, get]
  cases classified : session.classify name with
  | error problem => exact .inl rfl
  | ok kind =>
      rcases session.registry_locate kind receiver name with same | ⟨missing, pulled⟩
      · exact .inl same
      · exact .inr ⟨kind, ⟨⟨rfl, rfl, classified⟩, missing⟩, pulled⟩

theorem mayPull_handleAt (receiver : Scope) (name : String) :
    session.MayPull receiver name (.handleAt receiver name) := by
  simp only [MayPull, perform, handleAt]
  cases classified : session.classify name with
  | error problem => exact .inl rfl
  | ok kind =>
      rcases session.registry_locate kind receiver name with same | ⟨missing, pulled⟩
      · exact .inl same
      · exact .inr ⟨kind, ⟨⟨rfl, rfl, classified⟩, missing⟩, pulled⟩

theorem mayPull_refresh (receiver : Scope) (name : String) :
    session.MayPull receiver name (.refresh receiver name) := by
  simp only [MayPull, perform, refresh]
  cases classified : session.classify name with
  | error problem => exact .inl rfl
  | ok kind => exact .inr ⟨kind, ⟨rfl, rfl, classified⟩, rfl⟩

/-- The operation lets guest code run, or the host itself into the guest. -/
def Operation.entersGuest : Operation → Bool
  | .runUnit _ _ | .touch _ => true
  | _ => false

/-- From outside, the guest is changed by injection, and by removals of single names. -/
theorem guest_perform_cases {operation : Operation} (outside : operation.entersGuest = false) :
    (session.perform operation).2.guest = session.guest ∨ operation = .injectPending ∨
      ∃ receiver name kind path, operation = .remove receiver name ∧
        session.classify name = .ok kind ∧
        (session.perform operation).2.guest = (session.guest.eraseFirst path).2 ∧
        ∀ cell ∈ path, ∃ (kind : Kind) (scope : Scope), cell = kind.cell scope name := by
  cases operation with
  | put receiver name value => exact .inl (session.kept_put receiver name value).1
  | putKind kind receiver name value => exact .inl (session.kept_putKind kind receiver name value).1
  | get receiver name => exact .inl (session.onlyObserved_get receiver name).guest
  | handleAt receiver name => exact .inl (session.onlyObserved_handleAt receiver name).guest
  | refresh receiver name => exact .inl (session.onlyObserved_refresh receiver name).guest
  | remove receiver name =>
      cases classified : session.classify name with
      | error problem =>
          rw [perform_remove_of_error session classified]
          exact .inl rfl
      | ok kind =>
          rw [perform_remove_of_ok session classified, guest_drop]
          exact .inr (.inr ⟨receiver, name, kind, _, rfl, classified, rfl, fun cell member =>
            ⟨_, cell_of_mem_dropPath member⟩⟩)
  | injectPending => exact .inr (.inl rfl)
  | resync receiver => exact .inl rfl
  | writeHeld handle value => exact .inl rfl
  | runUnit receiver steps => simp [Operation.entersGuest] at outside
  | touch step => simp [Operation.entersGuest] at outside

/-- No operation moves the top level or hides a name. -/
theorem sameFrame_perform (operation : Operation) :
    Guest.SameFrame session.guest (session.perform operation).2.guest := by
  cases inside : operation.entersGuest with
  | false =>
      rcases session.guest_perform_cases inside with same | rfl | ⟨_, _, _, path, _, _, erased, _⟩
      · rw [same]
        exact .refl session.guest
      · rw [perform_injectPending]
        exact (sameShape_injectPending session).frame
      · rw [erased]
        exact Guest.sameFrame_eraseFirst session.guest path
  | true =>
      cases operation with
      | runUnit receiver steps =>
          rw [(session.observed_runUnit receiver steps).1]
          exact (sameShape_injectPending session).frame.trans (Guest.sameFrame_performAll _ steps)
      | touch step => exact Guest.sameFrame_perform _ step
      | put | putKind | get | handleAt | refresh | remove | injectPending | resync | writeHeld =>
          simp [Operation.entersGuest] at inside

theorem settings_putKind (kind : Kind) (receiver : Scope) (name : String) (value : Value) :
    (session.perform (.putKind kind receiver name value)).2.settings = session.settings := by
  unfold settings
  rcases session.registry_putKind kind receiver name value with same | same | ⟨_, _, _, same⟩
  · rw [same]
  · rw [same, Registry.settings_changeAt]
  · rw [same, Registry.settings_upsert]

theorem settings_perform (operation : Operation) :
    (session.perform operation).2.settings = session.settings := by
  cases operation with
  | put receiver name value =>
      cases classified : session.classify name with
      | error problem => rw [perform_put_of_error session classified]
      | ok kind =>
          rw [perform_put_of_ok session classified]
          exact session.settings_putKind kind receiver name value
  | putKind kind receiver name value => exact session.settings_putKind kind receiver name value
  | get receiver name => exact (session.onlyObserved_get receiver name).registry.settings
  | handleAt receiver name => exact (session.onlyObserved_handleAt receiver name).registry.settings
  | refresh receiver name => exact (session.onlyObserved_refresh receiver name).registry.settings
  | remove receiver name =>
      cases classified : session.classify name with
      | error problem => rw [perform_remove_of_error session classified]
      | ok kind =>
          rw [perform_remove_of_ok session classified, settings, registry_drop,
            Registry.settings_remove, settings]
  | injectPending =>
      rw [perform_injectPending]
      exact (sameShape_injectPending session).settings
  | resync receiver =>
      rw [perform_resync]
      exact session.registry.settings_resync session.guest receiver
  | runUnit receiver steps =>
      exact (session.observed_runUnit receiver steps).2.2.settings.trans
        (sameShape_injectPending session).settings
  | touch step => rfl
  | writeHeld handle value => rfl

theorem settings_performAll (operations : List Operation) :
    (session.performAll operations).settings = session.settings := by
  induction operations generalizing session with
  | nil => rfl
  | cons first rest ih => exact (ih _).trans (session.settings_perform first)

theorem performAll_append (operations : List Operation) (last : Operation) :
    session.performAll (operations ++ [last]) = ((session.performAll operations).perform last).2 := by
  rw [performAll, List.foldl_append]
  rfl

theorem performAll_split (earlier later : List Operation) (operation : Operation) :
    session.performAll (earlier ++ operation :: later) =
      ((session.performAll earlier).perform operation).2.performAll later := by
  rw [performAll, List.foldl_append, List.foldl_cons]
  rfl

end Session

end SharedBindings
