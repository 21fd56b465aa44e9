import SharedBindings.Proofs.Registry.Released
import SharedBindings.Proofs.Session.Acts

/-!
# Handles hold, and removal detaches

A handle leads to what is registered under its key until the key is removed. From then on no act comes
near the binding behind it, and the other way round: whatever is written through such a handle, all acts
return what they would have returned, and leave what they would have left.
-/

namespace SharedBindings

namespace Session

/-- The session without what a released handle leads to. -/
def forget (session : Session) (handle : Handle) : Session :=
  { session with registry := session.registry.forget handle }

/-- Writes through a handle, on whichever side. -/
def rewrite (session : Session) (handle : Handle) (update : Binding → Binding) : Session :=
  { session with registry := session.registry.changeHeld handle update }

variable {session first second : Session} {handle : Handle}

/-! ## What forgets with the session -/

section Forget

variable (session) (handle)

@[simp] theorem guest_forget : (session.forget handle).guest = session.guest := rfl

@[simp] theorem registry_forget :
    (session.forget handle).registry = session.registry.forget handle := rfl

@[simp] theorem settings_forget : (session.forget handle).settings = session.settings := rfl

@[simp] theorem classify_forget (name : String) :
    (session.forget handle).classify name = session.classify name := rfl

@[simp] theorem keyFor_forget (kind : Kind) (receiver : Scope) (name : String) :
    (session.forget handle).keyFor kind receiver name = session.keyFor kind receiver name := rfl

theorem deliver?_forget (key : Key) :
    (session.forget handle).deliver? key = (session.deliver? key).map (·.forget handle) := by
  simp only [deliver?, forget, Registry.binding?_forget]
  cases session.registry.binding? key with
  | none => rfl
  | some binding =>
      simp only
      split
      · cases binding.value? with
        | none => rfl
        | some value =>
            simp only [Option.map_map]
            rfl
      · rfl

theorem deliverAll_forget (keys : List Key) :
    (session.forget handle).deliverAll keys =
      ((session.deliverAll keys).1, (session.deliverAll keys).2.forget handle) := by
  induction keys generalizing session with
  | nil => rfl
  | cons key rest ih =>
      rw [deliverAll, deliverAll, deliver?_forget]
      cases session.deliver? key with
      | none => exact ih session
      | some next => simp only [Option.map_some, ih next]

theorem inject_forget (kind : Kind) :
    (session.forget handle).inject kind =
      ((session.inject kind).1, (session.inject kind).2.forget handle) :=
  session.deliverAll_forget handle (session.registry.keysOf kind)

theorem injectPending_forget :
    (session.forget handle).injectPending =
      (session.injectPending.1, session.injectPending.2.forget handle) := by
  simp only [injectPending, injectEach_eq_deliverAll]
  exact session.deliverAll_forget handle (Kind.all.flatMap session.registry.keysOf)

theorem resync_forget (receiver : Scope) :
    (session.forget handle).resync receiver = (session.resync receiver).forget handle := by
  simp only [resync, forget, Registry.resync_forget]

theorem pull_forget (receiver : Scope) (kind : Kind) (name : String) :
    (session.forget handle).pull receiver kind name =
      ((session.pull receiver kind name).1, (session.pull receiver kind name).2.forget handle) := by
  simp only [pull, forget, Registry.pull_forget]

theorem locate_forget (kind : Kind) (receiver : Scope) (name : String) :
    (session.forget handle).locate kind receiver name =
      ((session.locate kind receiver name).1, (session.locate kind receiver name).2.forget handle) := by
  simp only [locate, pull_forget, keyFor_forget, settings_forget, registry_forget, guest_forget,
    Registry.entryAt?_forget]
  cases (session.registry.entryAt? (session.keyFor kind receiver name)).isSome with
  | true => rfl
  | false =>
      cases session.settings.lazy with
      | true => rfl
      | false => by_cases constant : kind = .constant <;> simp [constant]

theorem drop_forget (kind : Kind) (key : Key)
    (unregistered : ∀ key, session.registry.handle? key ≠ some handle) :
    (session.forget handle).drop kind key =
      ((session.drop kind key).1, (session.drop kind key).2.forget handle) := by
  have removed := session.registry.remove_forget handle key unregistered
  simp only [drop, forget, removed]
  cases (session.registry.remove key).1 <;> rfl

theorem orRefuse_forget {α : Type} (report : α → Outcome) (result : Except HostError (α × Session)) :
    (session.forget handle).orRefuse report
        (result.map fun outcome => (outcome.1, outcome.2.forget handle)) =
      ((session.orRefuse report result).1, (session.orRefuse report result).2.forget handle) := by
  cases result <;> rfl

theorem putKind_forget (kind : Kind) (receiver : Scope) (name : String) (value : Value) :
    (session.forget handle).putKind kind receiver name value =
      (session.putKind kind receiver name value).map fun outcome =>
        (outcome.1, outcome.2.forget handle) := by
  simp only [putKind, forget, keyFor, Registry.handle?_forget]
  split
  · cases session.registry.handle? ⟨session.guest.anchorFor kind receiver name, name⟩ with
    | some held => rfl
    | none =>
        cases Binding.ofHost? kind ⟨session.guest.anchorFor kind receiver name, name⟩ value with
        | none => rfl
        | some binding =>
            simp only [Registry.upsert_forget]
            rfl
  · rfl

theorem perform_forget (operation : Operation)
    (unregistered : ∀ key, session.registry.handle? key ≠ some handle) :
    (session.forget handle).perform operation =
      ((session.perform operation).1, (session.perform operation).2.forget handle) := by
  cases operation with
  | put receiver name value =>
      rw [perform, perform, ← orRefuse_forget]
      simp only [put, classify_forget]
      cases session.classify name with
      | error problem => rfl
      | ok kind => exact congrArg _ (session.putKind_forget handle kind receiver name value)
  | putKind kind receiver name value =>
      rw [perform, perform, putKind_forget, orRefuse_forget]
  | get receiver name =>
      rw [perform, perform, ← orRefuse_forget]
      simp only [get, classify_forget]
      cases session.classify name with
      | error problem => rfl
      | ok kind =>
          simp only [locate_forget]
          rfl
  | handleAt receiver name =>
      rw [perform, perform, ← orRefuse_forget]
      simp only [handleAt, classify_forget]
      cases session.classify name with
      | error problem => rfl
      | ok kind =>
          simp only [locate_forget]
          rfl
  | refresh receiver name =>
      rw [perform, perform, ← orRefuse_forget]
      simp only [refresh, classify_forget]
      cases session.classify name with
      | error problem => rfl
      | ok kind =>
          simp only [pull_forget]
          rfl
  | remove receiver name =>
      rw [perform, perform, ← orRefuse_forget]
      simp only [remove, classify_forget]
      cases session.classify name with
      | error problem => rfl
      | ok kind =>
          simp only [keyFor_forget, drop_forget _ _ _ _ unregistered]
          rfl
  | injectPending => simp only [perform, injectPending_forget]
  | resync receiver => simp only [perform, resync_forget]
  | runUnit receiver steps =>
      simp only [perform, runUnit, injectPending_forget]
      generalize session.injectPending.2 = ready
      generalize ran : ready.guest.performAll steps = outcome
      have same : (ready.forget handle).guest.performAll steps = outcome := ran
      rw [same]
      exact congrArg _ (Session.resync_forget { ready with guest := outcome.2 } handle receiver)
  | touch step => rfl
  | writeHeld other value =>
      simp only [perform, writeHeld, forget, Registry.changeHeld_forget]

theorem performEdit_forget (edit : Edit)
    (unregistered : ∀ key, session.registry.handle? key ≠ some handle) :
    (session.forget handle).performEdit edit =
      ((session.performEdit edit).1, (session.performEdit edit).2.forget handle) := by
  cases edit with
  | upsert binding => simp only [performEdit, forget, Registry.upsert_forget]
  | discard key =>
      simp only [performEdit, forget, Registry.remove_forget _ _ _ unregistered]
  | drop kind key => simp only [performEdit, drop_forget _ _ _ _ unregistered]
  | inject kind => simp only [performEdit, inject_forget]
  | resyncKind receiver kind => simp only [performEdit, forget, Registry.resyncKind_forget]
  | pull receiver kind name =>
      simp only [performEdit, pull_forget]
      rfl
  | bump => rfl
  | replaceHeld other binding =>
      simp only [performEdit, forget, Registry.changeHeld_forget]

theorem act_forget (act : Act) (unregistered : ∀ key, session.registry.handle? key ≠ some handle) :
    (session.forget handle).act act =
      ((session.act act).1, (session.act act).2.forget handle) := by
  cases act with
  | operate operation => exact session.perform_forget handle operation unregistered
  | edit edit => exact session.performEdit_forget handle edit unregistered
  | meet guest generation => rfl

end Forget

theorem actAll_forget (booked : session.registry.Booked)
    (released : handle ∈ session.registry.released.map Entry.handle) (acts : List Act) :
    (session.forget handle).actAll acts =
      ((session.actAll acts).1, (session.actAll acts).2.forget handle) := by
  induction acts generalizing session with
  | nil => rfl
  | cons first rest ih =>
      -- A released handle stays released, so no act on the way finds it under a key.
      have step := session.act_forget handle first (booked.unregistered released)
      have later := ih (booked_act booked first) (handle_released_act booked first released)
      simp only [actAll, step, later]

/-! ## What is behind a released handle stays out of sight -/

/-- The sessions differ at most in the binding behind a handle that is not registered. -/
structure SameApartFrom (handle : Handle) (first second : Session) : Prop where
  guest : second.guest = first.guest
  generation : second.generation = first.generation
  settings : second.settings = first.settings
  entries : second.registry.entries = first.registry.entries
  index : second.registry.index = first.registry.index
  issued : second.registry.issued = first.registry.issued
  behind : ∀ other ≠ handle, second.registry.behind? other = first.registry.behind? other

theorem sameApartFrom_of_forget (same : second.forget handle = first.forget handle) :
    SameApartFrom handle first second where
  guest := congrArg (·.guest) same
  generation := congrArg (·.generation) same
  settings := congrArg (·.settings) same
  entries := congrArg (·.registry.entries) same
  index := congrArg (·.registry.index) same
  issued := congrArg (·.registry.issued) same
  behind other different := by
    have seen := congrArg (·.registry.behind? other) same
    simpa only [registry_forget, Registry.behind?_forget different] using seen

/-- Whether something is written through the handle now or not, the same is returned from then on, and
everything else is left the same. -/
structure Unnoticed (session : Session) (handle : Handle) (update : Binding → Binding)
    (later : List Act) : Prop where
  now : SameApartFrom handle session (session.rewrite handle update)
  outcomes : ((session.rewrite handle update).actAll later).1 = (session.actAll later).1
  left : SameApartFrom handle (session.actAll later).2
    ((session.rewrite handle update).actAll later).2

theorem unnoticed_of_released (booked : session.registry.Booked)
    (released : handle ∈ session.registry.released.map Entry.handle) (update : Binding → Binding)
    (later : List Act) : session.Unnoticed handle update later := by
  have forgotten : (session.rewrite handle update).forget handle = session.forget handle := by
    rw [forget, rewrite, Registry.forget_changeHeld (booked.unregistered released)]
    rfl
  have bookedWritten : (session.rewrite handle update).registry.Booked :=
    booked.changeHeld update handle
  have writtenReleased :
      handle ∈ (session.rewrite handle update).registry.released.map Entry.handle := by
    rw [rewrite, Registry.map_handle_released_changeHeld]
    exact released
  -- Once the handle is forgotten, both runs are the same run.
  have plain := actAll_forget booked released later
  have written := actAll_forget bookedWritten writtenReleased later
  rw [forgotten, plain, Prod.mk.injEq] at written
  exact {
    now := sameApartFrom_of_forget forgotten
    outcomes := written.1.symm
    left := sameApartFrom_of_forget written.2.symm }

/-- From now on only the handle leads to the binding: no act brings it back or changes it, and nobody
notices what is written there. -/
structure Detached (session : Session) (later : List Act) (handle : Handle) (binding : Binding) :
    Prop where
  unregistered : ∀ key, (session.actAll later).2.registry.handle? key ≠ some handle
  kept : (∀ act ∈ later, act.writes? ≠ some handle) →
    (session.actAll later).2.registry.behind? handle = some binding
  unnoticed : ∀ update rest, (session.actAll later).2.Unnoticed handle update rest

theorem detached_of_detaches (booked : session.registry.Booked) {binding : Binding}
    (detaches : session.registry.Detaches handle binding) (later : List Act) :
    session.Detached later handle binding := by
  have released := booked.detaches_iff.mp detaches
  have bookedLater := booked_actAll booked later
  have releasedLater := handle_released_actAll booked later (List.mem_map_of_mem released)
  constructor
  case unregistered => exact bookedLater.unregistered releasedLater
  case kept =>
    intro unwritten
    have member := mem_released_actAll booked unwritten released
    exact bookedLater.behind?_of_mem (List.mem_append_right _ member)
  case unnoticed => exact fun update rest => unnoticed_of_released bookedLater releasedLater update rest

/-! ## The two halves of the life of a handle -/

/-- The key has the handle, and keeps it until an act takes the key out. -/
def Holds (session : Session) (later : List Act) (key : Key) (handle : Handle) : Prop :=
  session.registry.handle? key = some handle ∧
    (key ∉ session.removedKeys later →
      (session.actAll later).2.registry.handle? key = some handle)

/-- What handles are good for, from a session on. -/
structure HandlesHold (session : Session) (later : List Act) : Prop where
  registered : ∀ {key handle}, session.registry.handle? key = some handle →
    session.Holds later key handle
  returned : ∀ {act handle}, session.removes? act = none →
    (session.act act).1 = .handle (some handle) →
      ∃ key, session.asks? act = some key ∧ (session.act act).2.Holds later key handle
  /-- Whatever is not taken out keeps its place among the rest. -/
  ordered : (session.registry.rows.filter fun row => row.1 ∉ session.removedKeys later).Sublist
    (session.actAll later).2.registry.rows
  unshared : ∀ {key other handle}, session.registry.handle? key = some handle →
    session.registry.handle? other = some handle → key = other
  removed : ∀ {act key entry}, session.removes? act = some key →
    session.registry.entryAt? key = some entry →
      (session.act act).1 = .handle (some entry.handle) ∧
        (session.act act).2.Detached later entry.handle entry.binding

theorem holds_of_registered (booked : session.registry.Booked) {key : Key}
    (registered : session.registry.handle? key = some handle) (later : List Act) :
    session.Holds later key handle :=
  ⟨registered, handle?_actAll booked registered⟩

theorem detaches_of_removes (booked : session.registry.Booked) {act : Act} {key : Key} {entry : Entry}
    (removed : session.removes? act = some key)
    (stored : session.registry.entryAt? key = some entry) :
    (session.act act).2.registry.Detaches entry.handle entry.binding := by
  refine (booked_act booked act).detaches_iff.mpr ?_
  cases treats_act booked act with
  | carries keeps _ _ => exact nomatch keeps.symm.trans removed
  | writes keeps _ _ => exact nomatch keeps.symm.trans removed
  | @removes other itsKey _ left =>
      obtain rfl : key = other := Option.some.inj (removed.symm.trans itsKey)
      simp only [left, Registry.remove, stored, List.mem_append, List.mem_singleton, or_true]

/-- However an empty registry was used before: a key keeps its handle until it is removed, and no other
key has that handle; once it is removed, nothing that is done to the registry reaches the binding any
more, and nothing that is done to the binding reaches anything else. -/
theorem handles_hold_until_removed (guest : Guest) (settings : Settings) (generation : Generation)
    (earlier later : List Act) :
    HandlesHold (Session.actAll ⟨guest, .empty settings, generation⟩ earlier).2 later := by
  have booked := @booked_actAll ⟨guest, .empty settings, generation⟩
    (Registry.booked_empty settings) earlier
  generalize (Session.actAll ⟨guest, .empty settings, generation⟩ earlier).2 = session at booked
  constructor
  case registered => exact fun registered => holds_of_registered booked registered later
  case returned =>
    intro act handle keeps returned
    obtain ⟨key, asked, registered⟩ := handle?_of_returned keeps returned
    exact ⟨key, asked, holds_of_registered (booked_act booked act) registered later⟩
  case ordered => exact rows_sublist_actAll booked later
  case unshared =>
    intro key other handle registered alsoRegistered
    obtain ⟨entry, stored, itsHandle⟩ := Option.map_eq_some_iff.mp registered
    obtain ⟨held, alsoStored, sameHandle⟩ := Option.map_eq_some_iff.mp alsoRegistered
    exact booked.eq_of_handle_eq stored alsoStored (itsHandle.trans sameHandle.symm)
  case removed =>
    intro act key entry removed stored
    have detaches := detaches_of_removes booked removed stored
    exact ⟨returned_of_removes removed stored,
      detached_of_detaches (booked_act booked act) detaches later⟩

/-- A name that is put again after its removal comes back under another handle. -/
example :
    let put (value : Int64) : Act := .operate (.put ⟨1⟩ "@count" (.int value))
    ((start Guest.fresh {}).actAll [put 1, put 2, .operate (.remove ⟨1⟩ "@count"), put 3]).1 =
      [.handle (some ⟨0⟩), .handle (some ⟨0⟩), .handle (some ⟨0⟩), .handle (some ⟨1⟩)] := by
  decide +kernel

end Session

end SharedBindings
