import SharedBindings.Binding.Description
import SharedBindings.Proofs.Registry.Soundness
import SharedBindings.Proofs.Session.Operations

/-!
# Reachable sessions are well formed

A session starts without bindings, and operations take it on. Whatever they are, and whatever guest
code does in between, every binding stands under its own key, has a name of its kind, keeps the word
of the side that spoke last, and is anchored and delivered only where its kind belongs.
-/

namespace SharedBindings

namespace Session

/-- What operations can make of a session without bindings, alone or with others that advance the
same generation. -/
inductive Reachable : Session → Prop
  | start (guest : Guest) (settings : Settings) (generation : Generation) :
      Reachable ⟨guest, .empty settings, generation⟩
  | perform {session : Session} (reached : Reachable session) (operation : Operation) :
      Reachable (session.perform operation).2
  | share {session : Session} (reached : Reachable session) (generation : Generation) :
      Reachable { session with generation }

/-- The registry is sound for the guest's own top level. -/
def Sound (session : Session) : Prop :=
  session.registry.Sound session.guest.top

variable {session : Session} {kind : Kind} {key : Key} {name : String}

theorem sound_deliver? {next : Session} (sound : session.Sound)
    (delivered : session.deliver? key = some next) : next.Sound := by
  obtain ⟨binding, value, cell, found, _, _, target, rfl⟩ := deliver?_eq_some_iff.mp delivered
  have top : (session.deliver key binding value cell).guest.top = session.guest.top := by
    simp [deliver, Guest.write]
  rw [Sound, top]
  refine sound.changeAt fun {entry} stored => ⟨rfl, fun formed => ?_⟩
  have itsBinding : entry.binding = binding := by
    rw [Registry.binding?, stored] at found
    exact Option.some.inj found
  exact formed.delivered (itsBinding ▸ target)

theorem sound_deliverAll (sound : session.Sound) (keys : List Key) :
    (session.deliverAll keys).2.Sound := by
  induction keys generalizing session with
  | nil => exact sound
  | cons key rest ih =>
      rw [deliverAll]
      cases delivered : session.deliver? key with
      | none => exact ih sound
      | some next => exact ih (sound_deliver? sound delivered)

theorem sound_injectPending (sound : session.Sound) : session.injectPending.2.Sound := by
  have each (kinds : List Kind) (session : Session) (sound : session.Sound) :
      (session.injectEach kinds).2.Sound := by
    induction kinds generalizing session with
    | nil => exact sound
    | cons kind rest ih => exact ih _ (sound_deliverAll sound _)
  exact each Kind.all session sound

theorem sound_withGuest (sound : session.Sound) {guest : Guest}
    (frame : Guest.SameFrame session.guest guest) : { session with guest }.Sound := by
  rw [Sound, frame.top]
  exact sound

theorem sound_resync (sound : session.Sound) (receiver : Scope) :
    (session.resync receiver).Sound :=
  Registry.Sound.resync sound

theorem sound_putKind (sound : session.Sound) (kind : Kind) (receiver : Scope) (name : String)
    (value : Value) : (session.perform (.putKind kind receiver name value)).2.Sound := by
  by_cases accepted : kind.accepts name = true
  · have valid : Binding.ofHost? kind (session.keyFor kind receiver name) value =
        some (.firstWritten kind (session.keyFor kind receiver name) value) := if_pos accepted
    simp only [perform, putKind, accepted, if_true, valid]
    cases session.registry.handle? (session.keyFor kind receiver name) with
    | some handle => exact sound.changeAt fun _ => ⟨rfl, fun formed => formed.hostWrite value⟩
    | none =>
        have belongs := Kind.belongs_anchorFor accepted session.guest receiver
        exact sound.upsert (Binding.wellFormed_firstWritten value accepted belongs)
  · rw [perform_putKind_of_not_accepts session receiver accepted]
    exact sound

theorem sound_locate (sound : session.Sound) (kind : Kind) (receiver : Scope) (name : String) :
    (session.locate kind receiver name).2.Sound := by
  simp only [locate]
  split
  · exact sound
  · split
    · exact sound.pull name
    · split <;> exact sound

theorem sound_undefine (sound : session.Sound) (kind : Kind) (path : List Cell) :
    (session.undefine kind path).Sound :=
  sound_withGuest sound (Guest.sameFrame_eraseFirst session.guest path)

theorem sound_drop (sound : session.Sound) (kind : Kind) (key : Key) :
    (session.drop kind key).2.Sound := by
  have dropped : { session with registry := (session.registry.remove key).2 }.Sound :=
    sound.remove key
  rw [drop_eq]
  exact sound_undefine dropped _ _

theorem sound_perform (sound : session.Sound) (operation : Operation) :
    (session.perform operation).2.Sound := by
  cases operation with
  | put receiver name value =>
      cases classified : session.classify name with
      | error problem =>
          rw [perform_put_of_error session classified]
          exact sound
      | ok kind =>
          rw [perform_put_of_ok session classified]
          exact sound_putKind sound kind receiver name value
  | putKind kind receiver name value => exact sound_putKind sound kind receiver name value
  | get receiver name =>
      simp only [perform, get]
      cases session.classify name with
      | error problem => exact sound
      | ok kind => exact sound_locate sound kind receiver name
  | handleAt receiver name =>
      simp only [perform, handleAt]
      cases session.classify name with
      | error problem => exact sound
      | ok kind => exact sound_locate sound kind receiver name
  | refresh receiver name =>
      simp only [perform, refresh]
      cases session.classify name with
      | error problem => exact sound
      | ok kind => exact sound.pull name
  | remove receiver name =>
      cases classified : session.classify name with
      | error problem =>
          rw [perform_remove_of_error session classified]
          exact sound
      | ok kind =>
          rw [perform_remove_of_ok session classified]
          exact sound_drop sound kind _
  | injectPending =>
      rw [perform_injectPending]
      exact sound_injectPending sound
  | resync receiver =>
      rw [perform_resync]
      exact sound_resync sound receiver
  | runUnit receiver steps =>
      rw [perform_runUnit]
      have evaluated := sound_withGuest (sound_injectPending sound)
        (Guest.sameFrame_performAll session.injectPending.2.guest steps)
      exact sound_resync evaluated receiver
  | touch step =>
      rw [perform_touch]
      exact sound_withGuest sound (Guest.sameFrame_perform _ step)
  | writeHeld handle value =>
      exact sound.changeHeld handle (fun _ => rfl) fun _ formed => formed.hostWrite value

theorem sound_performAll (sound : session.Sound) (operations : List Operation) :
    (session.performAll operations).Sound := by
  induction operations generalizing session with
  | nil => exact sound
  | cons first rest ih => exact ih (sound_perform sound first)

theorem Reachable.sound (reached : Reachable session) : session.Sound := by
  induction reached with
  | start guest settings generation => exact Registry.sound_empty settings
  | perform _ operation ih => exact sound_perform ih operation
  | share _ generation ih => exact ih

theorem Reachable.performAll (reached : Reachable session) (operations : List Operation) :
    Reachable (session.performAll operations) := by
  induction operations generalizing session with
  | nil => exact reached
  | cons operation rest ih => exact ih (reached.perform operation)

/-- How a registered binding stands in a session. -/
structure StandsWell (session : Session) (key : Key) (binding : Binding) : Prop where
  keyed : binding.key = key
  named : binding.kind.accepts binding.name = true
  /-- The marks agree with the values that the two sides have left. -/
  consistent :
    (binding.authority = .host ∧ binding.materialized = false ∧
        ∃ value, binding.hostValue? = some value) ∨
      (binding.authority = .guest ∧ binding.materialized = true ∧
        ∃ value, binding.guestValue? = some value)
  valued : ∃ value, binding.value? = some value
  /-- However far a pass has come, it finds a value in the binding. -/
  neverPassedOver : ∀ keys found,
    (session.deliverAll keys).2.registry.binding? key = some found →
      ∃ value, found.value? = some value
  /-- A pass leaves out no due binding that has a target. -/
  delivered : ∀ cell, binding.isDue = true → session.guest.target? binding = some cell →
    ∃ value, binding.value? = some value ∧ ⟨key, binding, value, cell⟩ ∈ session.owed
  processWide : binding.kind = .globalVariable ∨ binding.kind = .localGlobal ∨
      binding.kind = .localVariable ∨ binding.name = argumentsName →
    binding.anchor = session.guest.top
  unscoped : binding.kind = .globalVariable ∨ binding.kind = .localGlobal ∨
      binding.kind = .localVariable →
    binding.storedIn = none
  storedAtAnchor : binding.kind = .instanceVariable ∨ binding.kind = .classVariable →
    ∀ scope, binding.storedIn = some scope → scope = binding.anchor
  received : ∀ scope, binding.storedIn = some scope → ∃ value, binding.guestValue? = some value

theorem reachable_standsWell {binding : Binding} (reached : Reachable session)
    (registered : session.registry.binding? key = some binding) :
    session.StandsWell key binding := by
  obtain ⟨entry, stored, rfl⟩ := Option.map_eq_some_iff.mp registered
  obtain ⟨itsKey, formed⟩ := reached.sound.held stored
  constructor
  case keyed => exact itsKey
  case named => exact formed.named
  case consistent => exact formed.consistent
  case valued => exact formed.consistent.exists_value
  case neverPassedOver =>
    intro keys found underway
    exact (sound_deliverAll reached.sound keys).valued underway
  case delivered =>
    intro cell due target
    obtain ⟨value, valued⟩ := formed.consistent.exists_value
    exact ⟨value, valued, mem_owed_iff.mpr ⟨registered, Binding.isDue_iff.mp due, valued, target⟩⟩
  case processWide =>
    intro fixed
    apply formed.anchored
    rcases fixed with kind | kind | kind | isArguments
    · exact .inl (kind ▸ rfl)
    · exact .inl (kind ▸ rfl)
    · exact .inl (kind ▸ rfl)
    · exact .inr isArguments
  case unscoped =>
    intro fixed
    apply formed.unscoped
    rcases fixed with kind | kind | kind <;> exact kind ▸ rfl
  case storedAtAnchor => exact formed.storedAtAnchor
  case received => exact formed.received

theorem delivered_variable_standsWell :
    let key : Key := ⟨⟨1⟩, "@count"⟩
    let session := (((start Guest.fresh {}).perform
      (.putKind .instanceVariable ⟨1⟩ "@count" (.int 7))).2.perform .injectPending).2
    let binding : Binding :=
      { name := "@count", kind := .instanceVariable, anchor := ⟨1⟩, hostValue? := some (.int 7),
        guestValue? := some (.int 7), authority := .guest, materialized := true,
        storedIn := some ⟨1⟩ }
    Reachable session ∧ session.registry.binding? key = some binding ∧
      session.StandsWell key binding := by
  intro key session binding
  have reached : Reachable session := .perform (.perform (.start Guest.fresh {} .start) _) _
  have registered : session.registry.binding? key = some binding := by decide
  exact ⟨reached, registered, reachable_standsWell reached registered⟩

end Session

end SharedBindings
