import SharedBindings.Proofs.Session.Locals

/-!
# Persistent locals from one unit to the next

Where locals are persistent, the next unit finds a local as the last one left it, as long as the host
keeps its hands off. There is one exception. A lazy session does not look at the guest after a unit;
if it has a binding of the local from before, it injects the old value again, unless the binding is
refreshed in time.
-/

namespace SharedBindings.Session

/-- What the guest holds of a local, and what the session will inject of it if it has registered it. -/
structure LocalStands (session : Session) (name : String) (held recorded : Value) : Prop where
  read : session.guest.read (Cell.ofLocal name) = some held
  settled : ∀ binding, session.registry.binding? (session.localKey name) = some binding →
    binding.kind = .localVariable → binding.isPending = false ∧ binding.value? = some recorded

/-- A session in which locals persist, with a guest whose names are in the right tables. -/
structure Persists (session : Session) : Prop where
  sound : session.Sound
  persistent : session.settings.localPolicy = .persistent
  fits : session.guest.NamesFit

/-- The guest that the next unit starts with. -/
def opening (session : Session) : Guest :=
  session.injectPending.2.guest

variable {session after : Session} {name : String} {held recorded value : Value}
  {operation : Operation} {receiver : Scope}

theorem Persists.perform (persists : session.Persists) (outside : operation.entersGuest = false) :
    (session.perform operation).2.Persists where
  sound := sound_perform persists.sound operation
  persistent := by
    rw [settings_perform]
    exact persists.persistent
  fits := namesFit_perform persists.sound persists.fits outside

theorem Persists.resync (persists : session.Persists) (receiver : Scope) :
    (session.resync receiver).Persists where
  sound := sound_resync persists.sound receiver
  persistent := by
    have kept := session.registry.settings_resync session.guest receiver
    exact (congrArg Settings.localPolicy kept).trans persists.persistent
  fits := persists.fits

theorem Persists.ownLocals (persists : session.Persists) :
    session.settings.localPolicy ≠ .globalBacked := by
  rw [persists.persistent]
  decide

theorem LocalStands.of_kept (stands : session.LocalStands name held recorded)
    (sameTop : after.guest.top = session.guest.top)
    (read : after.guest.read (Cell.ofLocal name) = session.guest.read (Cell.ofLocal name))
    (kept : after.registry.binding? (session.localKey name) =
      session.registry.binding? (session.localKey name)) :
    after.LocalStands name held recorded where
  read := read.trans stands.read
  settled binding found := by
    rw [localKey, sameTop, ← localKey, kept] at found
    exact stands.settled binding found

/-- Once the registry has seen what the guest holds, the two agree. -/
theorem LocalStands.of_seen {kind : Kind} (stands : session.LocalStands name held recorded)
    (sameTop : after.guest.top = session.guest.top)
    (read : after.guest.read (Cell.ofLocal name) = session.guest.read (Cell.ofLocal name))
    (seen : after.registry.binding? (session.localKey name) =
      Binding.seen? kind (session.localKey name) held
        (session.registry.binding? (session.localKey name))) :
    after.LocalStands name held held where
  read := read.trans stands.read
  settled binding found isLocal := by
    rw [localKey, sameTop, ← localKey, seen] at found
    cases before : session.registry.binding? (session.localKey name) with
    | none =>
        rw [before, Binding.seen?, Binding.ofGuest?] at found
        split at found
        · obtain rfl := Option.some.inj found
          exact ⟨rfl, rfl⟩
        · contradiction
    | some earlier =>
        rw [before, Binding.seen?] at found
        obtain rfl := Option.some.inj found
        rw [Binding.kind_observe] at isLocal
        have settled := (stands.settled earlier before isLocal).1
        rw [Binding.isPending_observe]
        exact ⟨settled, Binding.value?_observe_of_settled settled held⟩

/-- A pass writes the registered value into the guest, and nothing if there is none. -/
theorem LocalStands.injectPending (stands : session.LocalStands name held recorded)
    (sound : session.Sound) :
    (session.RegistersLocal name → session.injectPending.2.LocalStands name recorded recorded) ∧
      (¬ session.RegistersLocal name → session.injectPending.2.LocalStands name held held) := by
  have frame := (sameShape_injectPending session).frame
  obtain ⟨visible, content⟩ := Guest.read_eq_some_iff.mp stands.read
  have stillVisible : session.injectPending.2.guest.hidden.contains name = false := by
    rw [frame.hidden]
    exact visible
  constructor
  · rintro ⟨binding, registered, isLocal⟩
    have itsValue := (stands.settled binding registered isLocal).2
    constructor
    case read =>
      have written := content_injectPending_of_registered sound registered isLocal
      exact Guest.read_eq_some_iff.mpr ⟨stillVisible, written.trans itsValue⟩
    case settled =>
      intro later found stillLocal
      rw [localKey, frame.top, ← localKey] at found
      obtain ⟨settled, before, inBefore, wasLocal, same⟩ :=
        binding?_injectPending_local sound found stillLocal
      exact ⟨settled, same.trans (stands.settled before inBefore wasLocal).2⟩
  · intro unregistered
    constructor
    case read =>
      exact Guest.read_eq_some_iff.mpr
        ⟨stillVisible, (content_injectPending_of_unregistered sound unregistered).trans content⟩
    case settled =>
      intro later found stillLocal
      rw [localKey, frame.top, ← localKey] at found
      obtain ⟨_, before, inBefore, wasLocal, _⟩ :=
        binding?_injectPending_local sound found stillLocal
      exact absurd ⟨before, inBefore, wasLocal⟩ unregistered

theorem LocalStands.pull (stands : session.LocalStands name held recorded)
    (accepted : Kind.localVariable.accepts name = true)
    (ownLocals : session.settings.localPolicy ≠ .globalBacked) {kind : Kind}
    (pulls : session.Pulls kind receiver name operation) :
    (session.perform operation).2.LocalStands name held held := by
  obtain rfl := kind_of_pulls ownLocals accepted pulls
  have guest := session.guest_of_pulls pulls
  have seen : (session.perform operation).2.registry.binding? (session.localKey name) =
      Binding.seen? .localVariable (session.localKey name) held
        (session.registry.binding? (session.localKey name)) := by
    rw [session.registry_of_pulls pulls, Registry.pull_local accepted, stands.read]
    exact Registry.binding?_observe _
  exact stands.of_seen (by rw [guest]) (by rw [guest]) seen

theorem LocalStands.resync (stands : session.LocalStands name held recorded)
    (accepted : Kind.localVariable.accepts name = true) (persists : session.Persists)
    (eager : session.settings.lazy = false) (receiver : Scope) :
    (session.resync receiver).LocalStands name held held := by
  have shown : session.guest.Shows session.settings.localPolicy receiver (session.localKey name)
      held := by
    refine ⟨.localVariable, ?_, by decide, accepted, rfl, stands.read⟩
    rw [persists.persistent]
    decide
  obtain ⟨kind, _, seen⟩ := Registry.binding?_resync_of_sees eager persists.sound.wellNamed
    persists.fits shown
  exact stands.of_seen rfl rfl seen

/-- An operation that does not exchange, and that neither pulls the local nor touches its binding,
leaves it as it stands. -/
theorem LocalStands.of_alone (stands : session.LocalStands name held recorded)
    (accepted : Kind.localVariable.accepts name = true)
    (ownLocals : session.settings.localPolicy ≠ .globalBacked)
    (spared : session.Spares (session.localKey name) (.operate operation))
    (outside : operation.entersGuest = false) (alone : operation.isExchange = false)
    (unpulled : ∀ kind receiver, ¬ session.Pulls kind receiver name operation) :
    (session.perform operation).2.LocalStands name held recorded := by
  have notInjected : operation ≠ .injectPending := by
    rintro rfl
    contradiction
  refine stands.of_kept (session.sameFrame_perform operation).top
    (read_local_perform ownLocals accepted outside spared.2 notInjected) ?_
  rw [Registry.binding?, entryAt?_of_spared spared alone unpulled, ← Registry.binding?]

/-- Nothing that a host does from outside comes between a local and its own binding. -/
theorem LocalStands.carried (stands : session.LocalStands name value value)
    (accepted : Kind.localVariable.accepts name = true) (persists : session.Persists)
    (spared : session.Spares (session.localKey name) (.operate operation))
    (outside : operation.entersGuest = false) :
    (session.perform operation).2.LocalStands name value value := by
  by_cases exchanged : operation.isExchange = true
  · obtain rfl | ⟨receiver, rfl⟩ | ⟨receiver, steps, rfl⟩ :=
      Operation.cases_of_isExchange exchanged
    · rw [perform_injectPending]
      by_cases registered : session.RegistersLocal name
      · exact (stands.injectPending persists.sound).1 registered
      · exact (stands.injectPending persists.sound).2 registered
    · rw [perform_resync]
      cases laziness : session.settings.lazy with
      | true =>
          rw [session.resync_of_lazy laziness]
          exact stands
      | false => exact stands.resync accepted persists laziness receiver
    · contradiction
  · have alone : operation.isExchange = false := by simpa using exchanged
    by_cases pulled : ∃ kind receiver, session.Pulls kind receiver name operation
    · obtain ⟨kind, receiver, pulls⟩ := pulled
      exact stands.pull accepted persists.ownLocals pulls
    · exact stands.of_alone accepted persists.ownLocals spared outside alone
        fun kind receiver pulls => pulled ⟨kind, receiver, pulls⟩

theorem LocalStands.carriedAll {operations : List Operation}
    (stands : session.LocalStands name value value)
    (accepted : Kind.localVariable.accepts name = true) (persists : session.Persists)
    (spared : session.SparesAll (session.localKey name) (operations.map .operate))
    (outside : ∀ operation ∈ operations, operation.entersGuest = false) :
    (session.performAll operations).LocalStands name value value ∧
      (session.performAll operations).Sound := by
  induction operations generalizing session with
  | nil => exact ⟨stands, persists.sound⟩
  | cons first rest ih =>
      have notInside := outside first List.mem_cons_self
      have next := stands.carried accepted persists spared.1 notInside
      refine ih next (persists.perform notInside) ?_ fun operation member =>
        outside operation (List.mem_cons_of_mem _ member)
      rw [localKey_perform]
      exact spared.2

theorem LocalStands.opening_read (stands : session.LocalStands name value value)
    (sound : session.Sound) : session.opening.read (Cell.ofLocal name) = some value := by
  by_cases registered : session.RegistersLocal name
  · exact ((stands.injectPending sound).1 registered).read
  · exact ((stands.injectPending sound).2 registered).read

/-- A lazy session has a binding of a local that the guest may have moved on from. -/
structure LocalLags (session : Session) (name : String) (held recorded : Value) : Prop where
  isLazy : session.settings.lazy = true
  registered : session.RegistersLocal name
  stands : session.LocalStands name held recorded

theorem LocalLags.perform (lags : session.LocalLags name held recorded)
    (accepted : Kind.localVariable.accepts name = true) (persists : session.Persists)
    (spared : session.Spares (session.localKey name) (.operate operation))
    (outside : operation.entersGuest = false) (notInjected : operation ≠ .injectPending)
    (notRefreshed : ∀ receiver, operation ≠ .refresh receiver name) :
    (session.perform operation).2.LocalLags name held recorded := by
  by_cases exchanged : operation.isExchange = true
  · obtain rfl | ⟨receiver, rfl⟩ | ⟨receiver, steps, rfl⟩ :=
      Operation.cases_of_isExchange exchanged
    · exact absurd rfl notInjected
    · rw [perform_resync, session.resync_of_lazy lags.isLazy]
      exact lags
    · contradiction
  · have alone : operation.isExchange = false := by simpa using exchanged
    obtain ⟨binding, held, isLocal⟩ := lags.registered
    obtain ⟨entry, stored, _⟩ := Option.map_eq_some_iff.mp held
    -- A read of the local finds the binding, so it does not ask the guest.
    have found (kind : Kind) (receiver : Scope) (classified : session.classify name = .ok kind) :
        session.registry.entryAt? (session.keyFor kind receiver name) ≠ none := by
      have itsKind := classified.symm.trans (classify_local persists.ownLocals accepted)
      obtain rfl := Except.ok.inj itsKind
      intro missing
      have nothing := missing.symm.trans stored
      contradiction
    have unpulled (kind : Kind) (receiver : Scope) :
        ¬ session.Pulls kind receiver name operation := by
      intro pulls
      obtain ⟨classified, isRefresh | ⟨_, _, missing⟩⟩ := pulls_cases pulls
      · exact notRefreshed receiver isRefresh
      · exact found kind receiver classified missing
    have kept := entryAt?_of_spared spared alone unpulled
    constructor
    case isLazy =>
      rw [settings_perform]
      exact lags.isLazy
    case registered =>
      refine ⟨binding, ?_, isLocal⟩
      rw [localKey_perform, Registry.binding?, kept]
      exact held
    case stands =>
      exact lags.stands.of_alone accepted persists.ownLocals spared outside alone unpulled

/-- A refresh of the name comes before any injection. -/
def refreshedFirst (name : String) : List Operation → Bool
  | [] => false
  | .injectPending :: _ => false
  | .refresh _ asked :: rest => asked = name || refreshedFirst name rest
  | _ :: rest => refreshedFirst name rest

/-- What the next unit gets of a local that lags: the guest's own value if a refresh comes in time, and
otherwise the recorded one. -/
theorem LocalLags.opening_read {operations : List Operation}
    (lags : session.LocalLags name held recorded)
    (accepted : Kind.localVariable.accepts name = true) (persists : session.Persists)
    (spared : session.SparesAll (session.localKey name) (operations.map .operate))
    (outside : ∀ operation ∈ operations, operation.entersGuest = false) :
    (session.performAll operations).opening.read (Cell.ofLocal name) =
      some (if refreshedFirst name operations then held else recorded) := by
  induction operations generalizing session with
  | nil =>
      have injected := (lags.stands.injectPending persists.sound).1 lags.registered
      simp only [performAll, List.foldl_nil, refreshedFirst, Bool.false_eq_true, if_false, opening]
      exact injected.read
  | cons first rest ih =>
      have notInside := outside first List.mem_cons_self
      have restOutside : ∀ operation ∈ rest, operation.entersGuest = false :=
        fun operation member => outside operation (List.mem_cons_of_mem _ member)
      have next := persists.perform notInside
      have restSpared : (session.perform first).2.SparesAll
          ((session.perform first).2.localKey name) (rest.map .operate) := by
        rw [localKey_perform]
        exact spared.2
      -- From the first injection or refresh on, the guest and the binding agree.
      have agreed {value : Value}
          (stands : (session.perform first).2.LocalStands name value value) :
          (session.performAll (first :: rest)).opening.read (Cell.ofLocal name) = some value := by
        obtain ⟨last, sound⟩ := stands.carriedAll accepted next restSpared restOutside
        exact last.opening_read sound
      have waits (notInjected : first ≠ .injectPending)
          (notRefreshed : ∀ receiver, first ≠ .refresh receiver name) :
          (session.performAll (first :: rest)).opening.read (Cell.ofLocal name) =
            some (if refreshedFirst name rest then held else recorded) :=
        ih (lags.perform accepted persists spared.1 notInside notInjected notRefreshed) next
          restSpared restOutside
      cases first with
      | injectPending =>
          apply agreed
          rw [perform_injectPending]
          exact (lags.stands.injectPending persists.sound).1 lags.registered
      | refresh under asked =>
          by_cases here : asked = name
          · subst here
            simp only [refreshedFirst, decide_true, Bool.true_or, if_true]
            have pulls : session.Pulls .localVariable under asked (.refresh under asked) :=
              ⟨rfl, rfl, classify_local persists.ownLocals accepted⟩
            exact agreed (lags.stands.pull accepted persists.ownLocals pulls)
          · simp only [refreshedFirst, here, decide_false, Bool.false_or]
            exact waits (by simp) (by simp [here])
      | put | putKind | get | handleAt | remove | resync | runUnit | touch | writeHeld =>
          exact waits (by simp) (by simp)

/-- The session has a copy of the local that nothing brings up to date before it is injected again. -/
def Outdates (session : Session) (name : String) (between : List Operation) : Prop :=
  session.settings.lazy = true ∧ session.RegistersLocal name ∧ refreshedFirst name between = false

/-- A session in which the code of a unit has run and the registry has not looked at the guest yet. -/
structure HasRun (session evaluated : Session) (name : String) (held recorded : Value) : Prop where
  persists : evaluated.Persists
  laziness : evaluated.settings.lazy = session.settings.lazy
  localKey : evaluated.localKey name = session.localKey name
  stands : evaluated.LocalStands name held recorded
  registered : session.RegistersLocal name →
    evaluated.RegistersLocal name ∧ session.opening.read (Cell.ofLocal name) = some recorded
  unregistered : ¬ session.RegistersLocal name → recorded = held

theorem exists_hasRun {steps : List Guest.Step} (receiver : Scope) (sound : session.Sound)
    (persistent : session.settings.localPolicy = .persistent)
    (fits : (session.opening.performAll steps).2.NamesFit)
    (bound : (session.opening.performAll steps).2.read (Cell.ofLocal name) = some value) :
    ∃ evaluated recorded,
      (session.perform (.runUnit receiver steps)).2 = evaluated.resync receiver ∧
        session.HasRun evaluated name value recorded := by
  have shape := sameShape_injectPending session
  have readySound := sound_injectPending sound
  have settles {binding : Binding}
      (held : session.injectPending.2.registry.binding? (session.localKey name) = some binding)
      (isLocal : binding.kind = .localVariable) := binding?_injectPending_local sound held isLocal
  have injects {binding : Binding}
      (held : session.registry.binding? (session.localKey name) = some binding)
      (isLocal : binding.kind = .localVariable) :=
    content_injectPending_of_registered sound held isLocal
  rw [opening] at fits bound
  rw [perform_runUnit]
  have opens : session.opening = session.injectPending.2.guest := rfl
  generalize session.injectPending.2 = ready at *
  have frame := Guest.sameFrame_performAll ready.guest steps
  generalize (ready.guest.performAll steps).2 = ended at *
  have sameKey : { ready with guest := ended }.localKey name = session.localKey name :=
    congrArg (Key.mk · name) (frame.top.trans shape.frame.top)
  have persists : { ready with guest := ended }.Persists :=
    ⟨sound_withGuest readySound frame, shape.settings ▸ persistent, fits⟩
  have laziness : { ready with guest := ended }.settings.lazy = session.settings.lazy :=
    congrArg Settings.lazy shape.settings
  by_cases registered : session.RegistersLocal name
  · obtain ⟨binding, held, isLocal⟩ := registered
    obtain ⟨recorded, itsValue⟩ := sound.valued held
    refine ⟨{ ready with guest := ended }, recorded, rfl, persists, laziness, sameKey,
      ⟨bound, fun later found stillLocal => ?_⟩, fun _ => ⟨?_, ?_⟩,
      fun unregistered => absurd ⟨binding, held, isLocal⟩ unregistered⟩
    · rw [sameKey] at found
      obtain ⟨settled, before, inBefore, _, same⟩ := settles found stillLocal
      rw [held] at inBefore
      obtain rfl := Option.some.inj inBefore
      exact ⟨settled, same.trans itsValue⟩
    · have kinds := shape.kinds (session.localKey name)
      rw [held, Option.map_some, isLocal] at kinds
      obtain ⟨later, found, stillLocal⟩ := Option.map_eq_some_iff.mp kinds
      rw [← sameKey] at found
      exact ⟨later, found, stillLocal⟩
    · have visible := (Guest.read_eq_some_iff.mp bound).1
      rw [frame.hidden] at visible
      rw [opens]
      exact Guest.read_eq_some_iff.mpr ⟨visible, (injects held isLocal).trans itsValue⟩
  · refine ⟨{ ready with guest := ended }, value, rfl, persists, laziness, sameKey,
      ⟨bound, fun later found stillLocal => ?_⟩,
      fun isRegistered => absurd isRegistered registered, fun _ => rfl⟩
    rw [sameKey] at found
    obtain ⟨_, before, inBefore, wasLocal, _⟩ := settles found stillLocal
    exact absurd ⟨before, inBefore, wasLocal⟩ registered

/-- The next unit starts with a local as the last one left it; but where the session has an outdated
copy of it, with what the last unit started with. -/
theorem local_survives_between_units {steps : List Guest.Step} {between : List Operation}
    (reached : Reachable session) (persistent : session.settings.localPolicy = .persistent)
    (accepted : Kind.localVariable.accepts name = true)
    (fits : (session.opening.performAll steps).2.NamesFit)
    (bound : (session.opening.performAll steps).2.read (Cell.ofLocal name) = some value)
    (spared : (session.perform (.runUnit receiver steps)).2.SparesAll (session.localKey name)
      (between.map .operate))
    (outside : ∀ operation ∈ between, operation.entersGuest = false) :
    (¬ session.Outdates name between →
        ((session.perform (.runUnit receiver steps)).2.performAll between).opening.read
          (Cell.ofLocal name) = some value) ∧
      (session.Outdates name between →
        ((session.perform (.runUnit receiver steps)).2.performAll between).opening.read
          (Cell.ofLocal name) = session.opening.read (Cell.ofLocal name)) := by
  obtain ⟨evaluated, recorded, same, ran⟩ :=
    exists_hasRun receiver reached.sound persistent fits bound
  rw [same] at spared ⊢
  have persists := ran.persists.resync receiver
  have itsKey : (evaluated.resync receiver).localKey name = session.localKey name := ran.localKey
  rw [← itsKey] at spared
  have agreed (stands : (evaluated.resync receiver).LocalStands name value value) :
      ((evaluated.resync receiver).performAll between).opening.read (Cell.ofLocal name) =
        some value := by
    obtain ⟨last, sound⟩ := stands.carriedAll accepted persists spared outside
    exact last.opening_read sound
  cases laziness : evaluated.settings.lazy with
  | false =>
      have eager : session.settings.lazy = false := ran.laziness.symm.trans laziness
      refine ⟨fun _ => agreed (ran.stands.resync accepted ran.persists laziness receiver), ?_⟩
      rintro ⟨isLazy, _⟩
      rw [eager] at isLazy
      contradiction
  | true =>
      have isLazy : session.settings.lazy = true := ran.laziness.symm.trans laziness
      rw [evaluated.resync_of_lazy laziness] at spared agreed ⊢
      by_cases registered : session.RegistersLocal name
      · obtain ⟨stillRegistered, opened⟩ := ran.registered registered
        have lags : evaluated.LocalLags name value recorded :=
          ⟨laziness, stillRegistered, ran.stands⟩
        have next := lags.opening_read accepted ran.persists spared outside
        rw [next, opened]
        cases refreshed : refreshedFirst name between with
        | true => exact ⟨fun _ => rfl, fun outdated => nomatch outdated.2.2.symm.trans refreshed⟩
        | false => exact ⟨fun current => absurd ⟨isLazy, registered, refreshed⟩ current, fun _ => rfl⟩
      · have stands := ran.stands
        rw [ran.unregistered registered] at stands
        exact ⟨fun _ => agreed stands, fun outdated => absurd outdated.2.1 registered⟩

theorem refreshed_local_survives :
    let count := Cell.ofLocal "count"
    let session := ((start Guest.fresh { localPolicy := .persistent }).perform
      (.put ⟨1⟩ "count" (.int 1))).2
    let unit : List Guest.Step := [.command (.write count (.int 2))]
    let ended := (session.opening.performAll unit).2
    let between : List Operation :=
      [.refresh ⟨1⟩ "count", .put ⟨1⟩ "@size" (.int 3), .injectPending]
    Reachable session ∧ session.settings.localPolicy = .persistent ∧
      Kind.localVariable.accepts "count" = true ∧ ended.NamesFit ∧
      ended.read count = some (.int 2) ∧
      (session.perform (.runUnit ⟨1⟩ unit)).2.SparesAll (session.localKey "count")
        (between.map .operate) ∧
      (∀ operation ∈ between, operation.entersGuest = false) ∧
      ((session.perform (.runUnit ⟨1⟩ unit)).2.performAll between).opening.read count =
        some (.int 2) := by
  intro count session unit ended between
  have reached : Reachable session := .perform (.start Guest.fresh _ .start) _
  have isEnded : ended = (Guest.fresh.write count (.int 1)).write count (.int 2) := by
    decide +kernel
  have fits : ended.NamesFit := by
    rw [isEnded]
    exact (Guest.namesFit_fresh.write (.int 1) fun _ _ => by decide).write (.int 2)
      fun _ _ => by decide
  have bound : ended.read count = some (.int 2) := by decide +kernel
  have spared : (session.perform (.runUnit ⟨1⟩ unit)).2.SparesAll (session.localKey "count")
      (between.map .operate) := by
    refine ⟨⟨fun _ wrote => wrote, fun dropped => dropped⟩, ⟨?_, fun dropped => dropped⟩,
      ⟨fun _ wrote => wrote, fun dropped => dropped⟩, trivial⟩
    rintro value ⟨_, kind, _, sameKey⟩
    have sameName : "@size" = "count" := congrArg Key.name sameKey
    exact absurd sameName (by decide)
  have outside : ∀ operation ∈ between, operation.entersGuest = false := by decide
  have current : ¬ session.Outdates "count" between := by
    rintro ⟨_, _, late⟩
    exact absurd late (by decide)
  exact ⟨reached, rfl, by decide, fits, bound, spared, outside,
    (local_survives_between_units reached rfl (by decide) fits bound spared outside).1 current⟩

/-- No host has written the local here, only read it: what the second unit left is gone. -/
theorem outdated_local_comes_back :
    let count := Cell.ofLocal "count"
    let session := (start Guest.fresh { localPolicy := .persistent }).performAll
      [.runUnit ⟨1⟩ [.command (.write count (.int 1))], .get ⟨1⟩ "count"]
    let unit : List Guest.Step := [.command (.write count (.int 2))]
    let ended := (session.opening.performAll unit).2
    Reachable session ∧ session.settings.localPolicy = .persistent ∧
      Kind.localVariable.accepts "count" = true ∧ ended.NamesFit ∧
      ended.read count = some (.int 2) ∧
      (session.perform (.runUnit ⟨1⟩ unit)).2.opening.read count ≠ some (.int 2) := by
  intro count session unit ended
  have reached : Reachable session := (Reachable.start Guest.fresh _ .start).performAll _
  have isEnded : ended = (Guest.fresh.write count (.int 1)).write count (.int 2) := by
    decide +kernel
  have fits : ended.NamesFit := by
    rw [isEnded]
    exact (Guest.namesFit_fresh.write (.int 1) fun _ _ => by decide).write (.int 2)
      fun _ _ => by decide
  exact ⟨reached, by decide +kernel, by decide, fits, by decide +kernel, by decide +kernel⟩

end SharedBindings.Session
