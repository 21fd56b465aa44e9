import SharedBindings.Proofs.Session.HostWrites
import SharedBindings.Proofs.Session.Laziness
import SharedBindings.Proofs.Session.Locals

/-!
# Transient locals

Where locals are transient, a guest's changes to them stay with the unit that made them: what a session
has registered of a local is the host's latest word. There is one exception. A lazy session that has
nothing registered asks the guest when the local is read, registers what the guest answers, and injects
it into later units as if it were the host's.
-/

namespace SharedBindings

/-- The value that the operation carries for the host. -/
def Session.Operation.word? : Session.Operation → Option Value
  | .put _ _ value | .putKind _ _ _ value | .writeHeld _ value => some value
  | _ => none

namespace Session

/-- The host's latest word on the binding at a key once an operation is done, if `known` was that
before. -/
def heard? (session : Session) (key : Key) (known : Option Value) (operation : Operation) :
    Option Value :=
  if session.Drops key operation then none
  else (operation.word?.filter (session.HostWrites key · operation)).or known

def latestWord? (session : Session) (key : Key) (known : Option Value) :
    List Operation → Option Value
  | [] => known
  | first :: rest =>
      (session.perform first).2.latestWord? key (session.heard? key known first) rest

variable {session : Session} {key : Key} {name : String} {value : Value} {operation : Operation}
  {receiver : Scope}

theorem latestWord?_append (session : Session) (key : Key) (known : Option Value)
    (operations : List Operation) (last : Operation) :
    session.latestWord? key known (operations ++ [last]) =
      (session.performAll operations).heard? key (session.latestWord? key known operations) last := by
  induction operations generalizing session known with
  | nil => rfl
  | cons first rest ih => exact ih _ _

theorem word?_of_hostWrites (wrote : session.HostWrites key value operation) :
    operation.word? = some value := by
  cases operation with
  | put receiver name word => rw [← wrote.1, Operation.word?]
  | putKind kind receiver name word => rw [← wrote.1, Operation.word?]
  | writeHeld handle word => rw [← wrote.1, Operation.word?]
  | get | handleAt | refresh | remove | injectPending | resync | runUnit | touch => exact wrote.elim

/-- An operation drops a binding, writes it, or leaves the host's word as it was. -/
theorem heard?_cases (session : Session) (key : Key) (operation : Operation) :
    (session.Drops key operation ∧ ∀ known, session.heard? key known operation = none) ∨
      (∃ value, session.HostWrites key value operation ∧
        ∀ known, session.heard? key known operation = some value) ∨
      session.Spares key (.operate operation) ∧
        ∀ known, session.heard? key known operation = known := by
  by_cases dropped : session.Drops key operation
  · exact .inl ⟨dropped, fun known => if_pos dropped⟩
  by_cases written : ∃ value, session.HostWrites key value operation
  · obtain ⟨value, wrote⟩ := written
    refine .inr (.inl ⟨value, wrote, fun known => ?_⟩)
    rw [heard?, if_neg dropped, word?_of_hostWrites wrote, Option.filter_some]
    simp [wrote]
  · have unwritten : ∀ value, ¬ session.HostWrites key value operation := not_exists.mp written
    refine .inr (.inr ⟨⟨unwritten, dropped⟩, fun known => ?_⟩)
    have silent : operation.word?.filter (session.HostWrites key · operation) = none := by
      simp [unwritten]
    rw [heard?, if_neg dropped, silent, Option.none_or]

/-! ## What happens to the registered value -/

theorem value?_of_hostWrites (wrote : session.HostWrites key value operation) :
    (session.perform operation).2.registry.value? key = some value := by
  obtain ⟨entry, stored, pending, written⟩ := entryAt?_of_hostWrites wrote
  rw [Registry.value?_of_stored stored, Binding.value?_of_pending pending written]

theorem value?_of_drops (dropped : session.Drops key operation) :
    (session.perform operation).2.registry.value? key = none :=
  Registry.value?_of_absent (absent_of_drops dropped)

theorem value?_of_entryAt? {after : Session}
    (same : after.registry.entryAt? key = session.registry.entryAt? key) :
    after.registry.value? key = session.registry.value? key := by
  rw [Registry.value?, Registry.binding?, same, ← Registry.binding?, ← Registry.value?]

theorem value?_resync_transient (sound : session.Sound)
    (transient : session.settings.localPolicy = .transient) (fits : session.guest.NamesFit)
    (accepted : Kind.localVariable.accepts name = true) (receiver : Scope) :
    (session.resync receiver).registry.value? (session.localKey name) =
      session.registry.value? (session.localKey name) := by
  cases laziness : session.settings.lazy with
  | true => rw [session.resync_of_lazy laziness]
  | false =>
      apply value?_of_entryAt?
      apply Registry.entryAt?_resync_of_untracked laziness sound.wellNamed fits
      intro kind member
      have unlike : kind.spelling ≠ Kind.localVariable.spelling := by
        rw [show session.registry.settings.localPolicy = .transient from transient] at member
        revert kind
        decide
      exact Kind.refuses_of_unlike accepted unlike

theorem value?_perform_of_spared (sound : session.Sound)
    (transient : session.settings.localPolicy = .transient)
    (fits : (session.perform operation).2.guest.NamesFit)
    (accepted : Kind.localVariable.accepts name = true)
    (spared : session.Spares (session.localKey name) (.operate operation))
    (unpulled : ∀ kind receiver, ¬ session.Pulls kind receiver name operation) :
    (session.perform operation).2.registry.value? (session.localKey name) =
      session.registry.value? (session.localKey name) := by
  by_cases exchanged : operation.isExchange = true
  · obtain rfl | ⟨receiver, rfl⟩ | ⟨receiver, steps, rfl⟩ :=
      Operation.cases_of_isExchange exchanged
    · rw [perform_injectPending]
      exact session.value?_injectPending _
    · rw [perform_resync] at fits ⊢
      exact value?_resync_transient sound transient fits accepted receiver
    · have injected := session.value?_injectPending (session.localKey name)
      have readySound := sound_injectPending sound
      have shape := sameShape_injectPending session
      rw [perform_runUnit] at fits ⊢
      generalize session.injectPending.2 = ready at *
      have frame := Guest.sameFrame_performAll ready.guest steps
      generalize (ready.guest.performAll steps).2 = ended at *
      have itsKey : { ready with guest := ended }.localKey name = session.localKey name :=
        congrArg (Key.mk · name) (frame.top.trans shape.frame.top)
      have resynced := value?_resync_transient (sound_withGuest readySound frame)
        (shape.settings ▸ transient) fits accepted receiver
      rw [itsKey] at resynced
      exact resynced.trans injected
  · have alone : operation.isExchange = false := by simpa using exchanged
    exact value?_of_entryAt? (entryAt?_of_spared spared alone unpulled)

theorem value?_perform (sound : session.Sound)
    (transient : session.settings.localPolicy = .transient)
    (fits : (session.perform operation).2.guest.NamesFit)
    (accepted : Kind.localVariable.accepts name = true)
    (unpulled : ∀ kind receiver, ¬ session.Pulls kind receiver name operation) :
    (session.perform operation).2.registry.value? (session.localKey name) =
      session.heard? (session.localKey name) (session.registry.value? (session.localKey name))
        operation := by
  rcases session.heard?_cases (session.localKey name) operation with
    ⟨dropped, gone⟩ | ⟨value, wrote, heard⟩ | ⟨spared, silent⟩
  · rw [value?_of_drops dropped, gone]
  · rw [value?_of_hostWrites wrote, heard]
  · rw [value?_perform_of_spared sound transient fits accepted spared unpulled, silent]

/-- Of the operations that ask the guest for a local, only a refresh asks for one that is registered. -/
theorem absent_of_pulls (pulls : session.Pulls .localVariable receiver name operation)
    (notRefreshed : operation ≠ .refresh receiver name) :
    session.settings.lazy = true ∧ session.registry.entryAt? (session.localKey name) = none := by
  obtain ⟨_, isRefresh | ⟨_, absent⟩⟩ := pulls_cases pulls
  · exact absurd isRefresh notRefreshed
  · exact absent

theorem heard?_of_pulls {kind : Kind} (pulls : session.Pulls kind receiver name operation)
    (known : Option Value) : session.heard? key known operation = known := by
  obtain ⟨_, rfl | ⟨rfl | rfl, _⟩⟩ := pulls_cases pulls <;> rfl

theorem value?_of_pulls (accepted : Kind.localVariable.accepts name = true)
    (pulls : session.Pulls .localVariable receiver name operation)
    (absent : session.registry.entryAt? (session.localKey name) = none) :
    (session.perform operation).2.registry.value? (session.localKey name) =
      session.guest.read (Cell.ofLocal name) := by
  rw [session.registry_of_pulls pulls, Registry.pull_local accepted]
  cases session.guest.read (Cell.ofLocal name) with
  | none => exact Registry.value?_of_absent absent
  | some value => exact Registry.value?_observe_of_absent accepted absent

/-- A read of a local answers what is registered, and in a lazy session else what the guest has. -/
theorem get_local (valued : session.registry.Valued)
    (ownLocals : session.settings.localPolicy ≠ .globalBacked)
    (accepted : Kind.localVariable.accepts name = true) (receiver : Scope) :
    (session.get receiver name).map Prod.fst =
      .ok ((session.registry.value? (session.localKey name)).or
        (if session.settings.lazy then session.guest.read (Cell.ofLocal name) else none)) := by
  rw [get_of_ok (classify_local ownLocals accepted), Except.ok.injEq, locate]
  have itsKey : session.keyFor .localVariable receiver name = session.localKey name := rfl
  simp only [itsKey]
  cases stored : session.registry.entryAt? (session.localKey name) with
  | some entry =>
      obtain ⟨value, counts⟩ := valued (Registry.binding?_of_entryAt? stored)
      simp [Registry.value?_of_stored stored, counts]
  | none =>
      rw [Registry.value?_of_absent stored, Option.none_or]
      cases session.settings.lazy with
      | false => simp
      | true =>
          simp only [Option.isSome_none, pull, Registry.pull_local accepted]
          cases session.guest.read (Cell.ofLocal name) with
          | none => simp
          | some value => exact Registry.value?_observe_of_absent accepted stored

/-! ## A whole run -/

/-- On the way, a read of the local has found it in the guest and not in the registry. -/
def ReadsBack (begun : Session) (name : String) (operations : List Operation) (value : Value) :
    Prop :=
  ∃ earlier operation receiver, earlier ++ [operation] <+: operations ∧
    (begun.performAll earlier).Pulls .localVariable receiver name operation ∧
    (begun.performAll earlier).guest.read (Cell.ofLocal name) = some value

variable {begun : Session} {operations : List Operation}

theorem ReadsBack.append (readBack : begun.ReadsBack name operations value) (last : Operation) :
    begun.ReadsBack name (operations ++ [last]) value := by
  obtain ⟨earlier, operation, receiver, onTheWay, pulls, read⟩ := readBack
  exact ⟨earlier, operation, receiver, onTheWay.trans (List.prefix_append _ _), pulls, read⟩

/-- What is registered of a local after a run: the host's word, or without one what a lazy session
has read back. -/
def Follows (begun : Session) (name : String) (operations : List Operation) : Prop :=
  let registered := (begun.performAll operations).registry.value? (begun.localKey name)
  let word := begun.latestWord? (begun.localKey name) none operations
  registered = word ∨ word = none ∧ ∃ value, registered = some value ∧
    begun.settings.lazy = true ∧ begun.ReadsBack name operations value

theorem Follows.append {last : Operation} (follows : begun.Follows name operations)
    (sound : begun.Sound) (transient : begun.settings.localPolicy = .transient)
    (accepted : Kind.localVariable.accepts name = true)
    (unrefreshed : ∀ receiver, last ≠ .refresh receiver name)
    (fits : (begun.performAll (operations ++ [last])).guest.NamesFit) :
    begun.Follows name (operations ++ [last]) := by
  have itsKey : (begun.performAll operations).localKey name = begun.localKey name :=
    localKey_performAll operations
  have settings : (begun.performAll operations).settings = begun.settings :=
    begun.settings_performAll operations
  have nowSound := sound_performAll sound operations
  have nowTransient := (congrArg Settings.localPolicy settings).trans transient
  unfold Follows at follows ⊢
  rw [latestWord?_append]
  rw [performAll_append] at fits ⊢
  generalize before : begun.performAll operations = session at *
  rw [← itsKey] at follows ⊢
  generalize begun.latestWord? (session.localKey name) none operations = word at follows ⊢
  by_cases pulled : ∃ kind receiver, session.Pulls kind receiver name last
  · obtain ⟨kind, receiver, pulls⟩ := pulled
    obtain rfl := kind_of_pulls (by rw [nowTransient]; decide) accepted pulls
    obtain ⟨isLazy, absent⟩ := absent_of_pulls pulls (unrefreshed receiver)
    have noWord : word = none := by
      rcases follows with same | ⟨noWord, _⟩
      · exact same.symm.trans (Registry.value?_of_absent absent)
      · exact noWord
    rw [heard?_of_pulls pulls, value?_of_pulls accepted pulls absent, noWord]
    cases read : session.guest.read (Cell.ofLocal name) with
    | none => exact .inl rfl
    | some value =>
        exact .inr ⟨rfl, value, rfl, settings ▸ isLazy, operations, last, receiver,
          List.prefix_rfl, before ▸ pulls, before ▸ read⟩
  · have unpulled : ∀ kind receiver, ¬ session.Pulls kind receiver name last :=
      fun kind receiver pulls => pulled ⟨kind, receiver, pulls⟩
    rw [value?_perform nowSound nowTransient fits accepted unpulled]
    rcases follows with same | ⟨noWord, value, registered, isLazy, readBack⟩
    · exact .inl (by rw [same])
    · rcases session.heard?_cases (session.localKey name) last with
        ⟨_, gone⟩ | ⟨_, _, heard⟩ | ⟨_, silent⟩
      · exact .inl (by rw [gone, gone])
      · exact .inl (by rw [heard, heard])
      · rw [silent, silent]
        exact .inr ⟨noWord, value, registered, isLazy, readBack.append last⟩

/-- A run from a session without bindings, in which locals are transient and no refresh is asked for. -/
structure TransientRun (begun : Session) (operations : List Operation) : Prop where
  fresh : begun.registry = .empty begun.settings
  transient : begun.settings.localPolicy = .transient
  unrefreshed : ∀ receiver name, .refresh receiver name ∉ operations
  fits : ∀ earlier, earlier <+: operations → (begun.performAll earlier).guest.NamesFit

theorem TransientRun.sound (run : begun.TransientRun operations) : begun.Sound := by
  rw [Sound, run.fresh]
  exact Registry.sound_empty begun.settings

theorem TransientRun.of_append {last : Operation}
    (run : begun.TransientRun (operations ++ [last])) : begun.TransientRun operations where
  fresh := run.fresh
  transient := run.transient
  unrefreshed receiver name member :=
    run.unrefreshed receiver name (List.mem_append_left _ member)
  fits earlier onTheWay := run.fits earlier (onTheWay.trans (List.prefix_append _ _))

theorem TransientRun.start (fresh : begun.registry = .empty begun.settings)
    (transient : begun.settings.localPolicy = .transient) (fits : begun.guest.NamesFit) :
    begun.TransientRun [] where
  fresh := fresh
  transient := transient
  unrefreshed _ _ := List.not_mem_nil
  fits earlier onTheWay := by
    rw [List.prefix_nil.mp onTheWay]
    exact fits

theorem TransientRun.append (run : begun.TransientRun operations) (last : Operation)
    (unrefreshed : ∀ receiver name, .refresh receiver name ≠ last)
    (fits : (begun.performAll (operations ++ [last])).guest.NamesFit) :
    begun.TransientRun (operations ++ [last]) where
  fresh := run.fresh
  transient := run.transient
  unrefreshed receiver name member := by
    rcases List.mem_append.mp member with earlier | isLast
    · exact run.unrefreshed receiver name earlier
    · exact unrefreshed receiver name (List.mem_singleton.mp isLast)
  fits earlier onTheWay := by
    rcases List.prefix_concat_iff.mp onTheWay with rfl | before
    · exact fits
    · exact run.fits earlier before

theorem TransientRun.append_outside (run : begun.TransientRun operations) (last : Operation)
    (unrefreshed : ∀ receiver name, .refresh receiver name ≠ last)
    (outside : last.entersGuest = false) : begun.TransientRun (operations ++ [last]) := by
  refine run.append last unrefreshed ?_
  rw [performAll_append]
  exact namesFit_perform (sound_performAll run.sound operations) (run.fits _ List.prefix_rfl) outside

theorem TransientRun.follows (run : begun.TransientRun operations)
    (accepted : Kind.localVariable.accepts name = true) : begun.Follows name operations := by
  induction operations using List.reverseRecOn with
  | nil =>
      refine .inl (Registry.value?_of_absent ?_)
      rw [performAll, List.foldl_nil, run.fresh]
      rfl
  | append_singleton rest last ih =>
      have unrefreshed (receiver : Scope) : last ≠ .refresh receiver name := by
        rintro rfl
        exact run.unrefreshed receiver name (List.mem_append_right _ List.mem_cons_self)
      exact (ih run.of_append).append run.sound run.transient accepted unrefreshed
        (run.fits _ List.prefix_rfl)

/-- How a local stands after a run. -/
structure KeepsWord (begun : Session) (operations : List Operation) (name : String) : Prop where
  written : ∀ value, begun.latestWord? (begun.localKey name) none operations = some value →
    (begun.performAll operations).registry.value? (begun.localKey name) = some value ∧
      ∀ receiver, ((begun.performAll operations).get receiver name).map Prod.fst = .ok (some value)
  unwritten : begun.latestWord? (begun.localKey name) none operations = none →
    begun.settings.lazy = false →
      (begun.performAll operations).registry.binding? (begun.localKey name) = none ∧
        ∀ receiver, ((begun.performAll operations).get receiver name).map Prod.fst = .ok none
  /-- What a lazy session has registered or answers without a word of the host has come from a read
  that was first. -/
  readBack : begun.latestWord? (begun.localKey name) none operations = none →
    begun.settings.lazy = true →
      (∀ value, (begun.performAll operations).registry.value? (begun.localKey name) = some value →
        begun.ReadsBack name operations value) ∧
        ∀ receiver value,
          ((begun.performAll operations).get receiver name).map Prod.fst = .ok (some value) →
            begun.ReadsBack name (operations ++ [.get receiver name]) value

theorem TransientRun.keepsWord (run : begun.TransientRun operations)
    (accepted : Kind.localVariable.accepts name = true) : begun.KeepsWord operations name := by
  have follows := run.follows accepted
  have itsKey : (begun.performAll operations).localKey name = begun.localKey name :=
    localKey_performAll operations
  have settings : (begun.performAll operations).settings = begun.settings :=
    begun.settings_performAll operations
  have ownLocals : (begun.performAll operations).settings.localPolicy ≠ .globalBacked := by
    rw [settings, run.transient]
    decide
  have valued : (begun.performAll operations).registry.Valued :=
    (sound_performAll run.sound operations).valued
  have reads := get_local valued ownLocals accepted
  rw [itsKey, settings] at reads
  unfold Follows at follows
  constructor
  case written =>
    intro value word
    have registered : (begun.performAll operations).registry.value? (begun.localKey name) =
        some value := by
      rcases follows with same | ⟨noWord, _⟩
      · exact same.trans word
      · rw [noWord] at word
        contradiction
    exact ⟨registered, fun receiver => by rw [reads, registered, Option.some_or]⟩
  case unwritten =>
    intro noWord eager
    have nothing : (begun.performAll operations).registry.value? (begun.localKey name) = none := by
      rcases follows with same | ⟨_, _, _, isLazy, _⟩
      · exact same.trans noWord
      · rw [eager] at isLazy
        contradiction
    constructor
    · rw [Registry.binding?, valued.absent_of_value? nothing, Option.map_none]
    · intro receiver
      rw [reads, nothing, eager]
      rfl
  case readBack =>
    intro noWord isLazy
    have registered (value : Value)
        (held : (begun.performAll operations).registry.value? (begun.localKey name) = some value) :
        begun.ReadsBack name operations value := by
      rcases follows with same | ⟨_, other, alsoHeld, _, readBack⟩
      · rw [held, noWord] at same
        contradiction
      · rwa [Option.some.inj (held.symm.trans alsoHeld)]
    refine ⟨registered, fun receiver value answered => ?_⟩
    rw [reads, if_pos isLazy, Except.ok.injEq] at answered
    cases held : (begun.performAll operations).registry.value? (begun.localKey name) with
    | some other =>
        rw [held, Option.some_or] at answered
        rw [← Option.some.inj answered]
        exact (registered other held).append _
    | none =>
        rw [held, Option.none_or] at answered
        have absent : (begun.performAll operations).registry.entryAt?
            ((begun.performAll operations).localKey name) = none := by
          rw [itsKey]
          exact valued.absent_of_value? held
        have pulls : (begun.performAll operations).Pulls .localVariable receiver name
            (.get receiver name) :=
          ⟨⟨rfl, rfl, classify_local ownLocals accepted⟩, settings ▸ isLazy, absent⟩
        exact ⟨operations, _, receiver, List.prefix_rfl, pulls, answered⟩

/-- Transient locals follow the host: a session that was never asked for a refresh registers under the
key of a local, and answers for it, what the host has last said, and nothing if the host has said
nothing; but a lazy session may read a local back when it is first asked for it. -/
theorem transient_locals_keep_word (run : begun.TransientRun operations) :
    (∀ key binding, (begun.performAll operations).registry.binding? key = some binding →
        binding.kind = .localVariable →
        key = begun.localKey binding.name ∧ Kind.localVariable.accepts binding.name = true) ∧
      ∀ name, Kind.localVariable.accepts name = true → begun.KeepsWord operations name := by
  refine ⟨fun key binding held isLocal => ?_, fun name accepted => run.keepsWord accepted⟩
  have stands := local_binding_stands (sound_performAll run.sound operations) held isLocal
  rwa [localKey_performAll] at stands

theorem host_word_outlasts_unit :
    let begun := Session.start Guest.fresh {}
    let operations : List Operation :=
      [.put ⟨1⟩ "count" (.int 1), .runUnit ⟨1⟩ [.command (.write (Cell.ofLocal "count") (.int 2))]]
    begun.TransientRun operations ∧ Kind.localVariable.accepts "count" = true ∧
      begun.latestWord? (begun.localKey "count") none operations = some (.int 1) ∧
      ∀ receiver, ((begun.performAll operations).get receiver "count").map Prod.fst =
        .ok (some (.int 1)) := by
  intro begun operations
  have ended : (begun.performAll operations).guest =
      (Guest.fresh.write (Cell.ofLocal "count") (.int 1)).write (Cell.ofLocal "count") (.int 2) := by
    decide +kernel
  have fits : (begun.performAll operations).guest.NamesFit := by
    rw [ended]
    exact (Guest.namesFit_fresh.write (.int 1) fun _ _ => by decide).write (.int 2)
      fun _ _ => by decide
  have begins : begun.TransientRun [] := .start rfl rfl Guest.namesFit_fresh
  have run : begun.TransientRun operations :=
    (begins.append_outside _ (fun _ _ => by simp) rfl).append _ (fun _ _ => by simp) fits
  have accepted : Kind.localVariable.accepts "count" = true := by decide
  have word : begun.latestWord? (begun.localKey "count") none operations = some (.int 1) := by
    decide +kernel
  exact ⟨run, accepted, word,
    (((transient_locals_keep_word run).2 "count" accepted).written _ word).2⟩

/-- The host has said nothing, yet its read answers, and registers, what a unit left. -/
theorem unit_local_read_back :
    let begun := Session.start Guest.fresh {}
    let operations : List Operation :=
      [.runUnit ⟨1⟩ [.command (.write (Cell.ofLocal "count") (.int 2))], .get ⟨1⟩ "count"]
    begun.TransientRun operations ∧ Kind.localVariable.accepts "count" = true ∧
      begun.latestWord? (begun.localKey "count") none operations = none ∧
      (begun.performAll operations).registry.value? (begun.localKey "count") = some (.int 2) ∧
      ((begun.performAll operations).get ⟨1⟩ "count").map Prod.fst = .ok (some (.int 2)) := by
  intro begun operations
  have ended : (begun.performAll (operations.take 1)).guest =
      Guest.fresh.write (Cell.ofLocal "count") (.int 2) := by
    decide +kernel
  have fits : (begun.performAll (operations.take 1)).guest.NamesFit := by
    rw [ended]
    exact Guest.namesFit_fresh.write (.int 2) fun _ _ => by decide
  have begins : begun.TransientRun [] := .start rfl rfl Guest.namesFit_fresh
  have run : begun.TransientRun operations :=
    (begins.append _ (fun _ _ => by simp) fits).append_outside _ (fun _ _ => by simp) rfl
  exact ⟨run, by decide, by decide +kernel, by decide +kernel, by decide +kernel⟩

end Session

end SharedBindings
