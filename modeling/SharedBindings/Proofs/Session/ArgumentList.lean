import SharedBindings.Proofs.Resync.Arguments
import SharedBindings.Proofs.Session.Retention

/-!
# A session has one argument list

Whatever receivers its operations name, and whatever is put in place of bindings through their handles,
a session registers the argument list under one key at most, the one at the top level. Together with
what passes do to registries of any other origin, this is all there is to say about the one binding
that hosts and guests agree on without naming a scope.
-/

namespace SharedBindings

namespace Registry

/-- The books are in order, and the argument list is registered at the top level or not at all. -/
structure OneArguments (top : Scope) (registry : Registry) : Prop where
  booked : registry.Booked
  anchors : registry.argumentAnchors = [] ∨ registry.argumentAnchors = [top]

variable {top : Scope} {registry before after : Registry}

theorem oneArguments_empty (settings : Settings) : (empty settings).OneArguments top where
  booked := booked_empty settings
  anchors := .inl rfl

theorem OneArguments.of_anchored (one : before.OneArguments top) (booked : after.Booked)
    (anchored : AnchorsArguments top before after) : after.OneArguments top where
  booked := booked
  anchors := by
    rcases anchored with same | ⟨_, atTop⟩
    · rw [same]
      exact one.anchors
    · exact .inr atTop

theorem OneArguments.upsert (one : registry.OneArguments top) (binding : Binding)
    (atTop : binding.name = argumentsName → binding.anchor = top) :
    (registry.upsert binding).2.OneArguments top := by
  refine one.of_anchored (one.booked.upsert binding) ?_
  by_cases present : binding.key ∈ registry.entries.keys
  · exact .of_keys (by rw [keys_upsert, if_pos present])
  · have listed : (registry.upsert binding).2.argumentAnchors = registry.argumentAnchors ++
        if argumentsName = binding.name then [binding.anchor] else [] := by
      rw [argumentAnchors, keys_upsert, if_neg present, anchorsAmong_concat]
      rfl
    by_cases isArguments : binding.name = argumentsName
    · have anchored := atTop isArguments
      rw [if_pos isArguments.symm, anchored] at listed
      rcases one.anchors with nowhere | atTop
      · exact .inr ⟨nowhere, by rw [listed, nowhere, List.nil_append]⟩
      · have member : top ∈ registry.argumentAnchors := atTop ▸ List.mem_singleton_self top
        have isKey : binding.key = ⟨top, argumentsName⟩ := by
          rw [Binding.key, anchored, isArguments]
        exact absurd (isKey ▸ mem_anchorsAmong_iff.mp member) present
    · rw [if_neg (Ne.symm isArguments), List.append_nil] at listed
      exact .inl listed

theorem OneArguments.remove (one : registry.OneArguments top) (key : Key) :
    (registry.remove key).2.OneArguments top where
  booked := one.booked.remove key
  anchors := by
    rw [argumentAnchors, keys_remove, anchorsAmong_filter, ← argumentAnchors]
    split
    · rcases one.anchors with nowhere | atTop
      · exact .inl (by rw [nowhere, List.filter_nil])
      · rw [atTop, List.filter_singleton]
        cases decide (top ≠ key.anchor) with
        | true => exact .inr rfl
        | false => exact .inl rfl
    · exact one.anchors

theorem OneArguments.eq_of_mem (one : registry.OneArguments top) {key : Key}
    (member : key ∈ registry.entries.keys) (isArguments : key.name = argumentsName) :
    key = ⟨top, argumentsName⟩ := by
  have anchor : key.anchor ∈ registry.argumentAnchors :=
    mem_anchorsAmong_iff.mpr (isArguments ▸ member)
  rcases one.anchors with nowhere | atTop
  · exact absurd (nowhere ▸ anchor) List.not_mem_nil
  · rw [atTop, List.mem_singleton] at anchor
    rw [← anchor, ← isArguments]

theorem OneArguments.count_names_le (one : registry.OneArguments top) :
    registry.names.count argumentsName ≤ 1 := by
  have counted : registry.names.count argumentsName = registry.argumentAnchors.length := by
    rw [names, argumentAnchors, anchorsAmong, List.length_map, List.count_eq_countP, List.countP_map,
      List.countP_eq_length_filter]
    rfl
  rw [counted]
  rcases one.anchors with nowhere | atTop
  · simp [nowhere]
  · simp [atTop]

end Registry

namespace Session

/-- The argument list is registered at the guest's own top level or not at all. -/
def OneArguments (session : Session) : Prop :=
  session.registry.OneArguments session.guest.top

/-- What operations, and bindings put in place of others through their handles, can make of a session
without bindings, alone or with others that advance the same generation. -/
inductive Handled : Session → Prop
  | start (guest : Guest) (settings : Settings) (generation : Generation) :
      Handled ⟨guest, .empty settings, generation⟩
  | move {session : Session} (handled : Handled session) (move : Move) : Handled (session.move move)
  | share {session : Session} (handled : Handled session) (generation : Generation) :
      Handled { session with generation }

variable {session : Session} {receiver : Scope} {name : String}

theorem booked_injectPending (booked : session.registry.Booked) :
    session.injectPending.2.registry.Booked := by
  rw [injectPending_eq_replay]
  generalize session.owed = deliveries
  induction deliveries generalizing session with
  | nil => exact booked
  | cons delivery rest ih => exact ih (booked.changeAt _ delivery.key)

theorem oneArguments_putKind (one : session.OneArguments) (kind : Kind) (receiver : Scope)
    (name : String) (value : Value) :
    (session.perform (.putKind kind receiver name value)).2.registry.OneArguments
      session.guest.top := by
  rcases session.registry_putKind kind receiver name value with
    same | same | ⟨binding, accepted, itsKey, same⟩
  · rw [same]
    exact one
  · rw [same]
    exact one.of_anchored (one.booked.changeAt _ _) (.of_keys (Registry.keys_changeAt _ _ _))
  · rw [same]
    refine one.upsert binding fun isArguments => ?_
    have itsName : binding.name = name := congrArg Key.name itsKey
    have itsAnchor : binding.anchor = session.guest.anchorFor kind receiver name :=
      congrArg Key.anchor itsKey
    rw [itsAnchor]
    exact Kind.belongs_anchorFor accepted session.guest receiver (.inr (itsName ▸ isArguments))

theorem oneArguments_of_mayPull {operation : Operation} (one : session.OneArguments)
    (pulls : session.MayPull receiver name operation) :
    (session.perform operation).2.registry.OneArguments session.guest.top := by
  rcases pulls with same | ⟨kind, _, same⟩
  · rw [same]
    exact one
  · rw [same]
    exact one.of_anchored (one.booked.pull name) (one.booked.anchorsArguments_pull _ _ kind name)

theorem oneArguments_perform (one : session.OneArguments) (operation : Operation) :
    (session.perform operation).2.OneArguments := by
  have top := (session.sameFrame_perform operation).top
  rw [OneArguments, top]
  cases operation with
  | put receiver name value =>
      cases classified : session.classify name with
      | error problem =>
          rw [perform_put_of_error session classified]
          exact one
      | ok kind =>
          rw [perform_put_of_ok session classified]
          exact oneArguments_putKind one kind receiver name value
  | putKind kind receiver name value => exact oneArguments_putKind one kind receiver name value
  | get receiver name => exact oneArguments_of_mayPull one (session.mayPull_get receiver name)
  | handleAt receiver name =>
      exact oneArguments_of_mayPull one (session.mayPull_handleAt receiver name)
  | refresh receiver name =>
      exact oneArguments_of_mayPull one (session.mayPull_refresh receiver name)
  | remove receiver name =>
      cases classified : session.classify name with
      | error problem =>
          rw [perform_remove_of_error session classified]
          exact one
      | ok kind =>
          rw [perform_remove_of_ok session classified, registry_drop]
          exact one.remove _
  | injectPending =>
      rw [perform_injectPending]
      exact one.of_anchored (booked_injectPending one.booked)
        (.of_keys (sameShape_injectPending session).keys)
  | resync receiver =>
      rw [perform_resync]
      exact one.of_anchored one.booked.resync (one.booked.anchorsArguments_resync _ receiver)
  | runUnit receiver steps =>
      have injected : session.injectPending.2.registry.OneArguments session.guest.top :=
        one.of_anchored (booked_injectPending one.booked)
          (.of_keys (sameShape_injectPending session).keys)
      have evaluated := (sameShape_injectPending session).frame.trans
        (Guest.sameFrame_performAll session.injectPending.2.guest steps)
      rw [perform_runUnit]
      generalize session.injectPending.2 = ready at injected evaluated
      generalize (ready.guest.performAll steps).2 = guest at evaluated
      have resynced := injected.booked.anchorsArguments_resync guest receiver
      rw [evaluated.top] at resynced
      exact injected.of_anchored injected.booked.resync resynced
  | touch step => exact one
  | writeHeld handle value =>
      exact one.of_anchored (one.booked.changeHeld _ handle)
        (.of_keys (OrderedMap.keys_mapValues _))

theorem Handled.oneArguments (handled : Handled session) : session.OneArguments := by
  induction handled with
  | start guest settings generation => exact Registry.oneArguments_empty settings
  | move _ move ih =>
      cases move with
      | operate operation => exact oneArguments_perform ih operation
      | replaceHeld handle binding =>
          exact ih.of_anchored (ih.booked.changeHeld _ handle)
            (.of_keys (OrderedMap.keys_mapValues _))
  | share _ generation ih => exact ih

end Session

/-- In sessions the argument list has one key, at the top level; in registries of any origin passes and
pulls leave it under the anchors that it has; and where bindings agree with their keys, the passes that
are about it bring the earliest of its bindings up to date. -/
theorem arguments_registered_once :
    (∀ session : Session, session.Handled →
      session.registry.names.count argumentsName ≤ 1 ∧
        ∀ key ∈ session.registry.entries.keys, key.name = argumentsName →
          key = ⟨session.guest.top, argumentsName⟩) ∧
      (∀ (registry : Registry) (guest : Guest) (receiver : Scope), registry.Booked →
        registry.anchorsOf argumentsName ≠ [] →
          (registry.resync guest receiver).anchorsOf argumentsName =
              registry.anchorsOf argumentsName ∧
            (∀ kind, (registry.resyncKind guest receiver kind).anchorsOf argumentsName =
              registry.anchorsOf argumentsName) ∧
            ∀ kind name, (registry.pull guest receiver kind name).2.anchorsOf argumentsName =
              registry.anchorsOf argumentsName) ∧
      ∀ (registry : Registry) (guest : Guest) (receiver : Scope), registry.Booked → registry.Keyed →
        Registry.TracksArguments guest registry (registry.resyncKind guest receiver .constant) ∧
          Registry.TracksArguments guest registry
            (registry.pull guest receiver .constant argumentsName).2 := by
  refine ⟨fun session handled => ?_, fun registry guest receiver booked registered => ?_,
    fun registry guest receiver booked keyed => ?_⟩
  · have one := handled.oneArguments
    exact ⟨one.count_names_le, fun key member => one.eq_of_mem member⟩
  · have same {after : Registry} (booksKept : after.Booked)
        (anchored : Registry.AnchorsArguments guest.top registry after) :
        after.anchorsOf argumentsName = registry.anchorsOf argumentsName := by
      rw [booksKept.anchorsOf_eq, booked.anchorsOf_eq]
      rw [booked.anchorsOf_eq] at registered
      exact anchored.resolve_right fun fresh => registered fresh.1
    exact ⟨same booked.resync (booked.anchorsArguments_resync guest receiver),
      fun kind => same booked.resyncKind (booked.anchorsArguments_resyncKind guest receiver kind),
      fun kind name => same (booked.pull name) (booked.anchorsArguments_pull guest receiver kind name)⟩
  · exact ⟨booked.tracksArguments_resyncConstants keyed guest receiver,
      booked.tracksArguments_pull guest receiver⟩

theorem arguments_under_two_other_anchors :
    let session := ((Session.start Guest.fresh {}).move
      (.operate (.putKind .constant ⟨2⟩ argumentsName (.list [])))).move
        (.operate (.refresh ⟨3⟩ argumentsName))
    let guest := Guest.fresh.setArguments ["-v"]
    let under (anchor : Scope) : Binding :=
      .firstSeen .constant ⟨anchor, argumentsName⟩ (.list [])
    let registry := (((Registry.empty { lazy := false }).upsert (under ⟨2⟩)).2.upsert (under ⟨3⟩)).2
    session.Handled ∧ session.registry.names.count argumentsName ≤ 1 ∧
      registry.Booked ∧ registry.Keyed ∧ registry.anchorsOf argumentsName = [⟨2⟩, ⟨3⟩] ∧
      (registry.resync guest ⟨3⟩).anchorsOf argumentsName = [⟨2⟩, ⟨3⟩] ∧
      guest.TellsArguments (.list [.text "-v"]) ∧
      Registry.TracksArguments guest registry (registry.resyncKind guest ⟨3⟩ .constant) := by
  intro session guest under registry
  have handled : session.Handled := .move (.move (.start Guest.fresh {} .start) _) _
  have booked : registry.Booked := ((Registry.booked_empty _).upsert _).upsert _
  have keyed : registry.Keyed := by
    intro key entry stored
    have each : ∀ pair ∈ registry.entries.entries, pair.2.binding.key = pair.1 := by decide
    exact each _ (Registry.mem_entries_of_entryAt? stored)
  have anchors : registry.anchorsOf argumentsName = [⟨2⟩, ⟨3⟩] := by decide
  obtain ⟨inSessions, inRegistries, tracked⟩ := arguments_registered_once
  have kept := (inRegistries registry guest ⟨3⟩ booked (by rw [anchors]; exact List.cons_ne_nil _ _)).1
  have told : guest.TellsArguments (.list [.text "-v"]) :=
    ⟨rfl, .inr ⟨by decide, ⟨0⟩, by decide, by decide⟩⟩
  exact ⟨handled, (inSessions session handled).1, booked, keyed, anchors, kept.trans anchors, told,
    (tracked registry guest ⟨3⟩ booked keyed).1⟩

end SharedBindings
