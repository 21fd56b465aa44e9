import SharedBindings.Proofs.Resync.Origins
import SharedBindings.Proofs.Session.Laziness

/-!
# Writing back what was seen

A resync names what it sees after the cell that it has read, and injection writes a value to the cell
that its name stands for. While no body is being executed these are the same cell for every kind, so a
host that writes back what a resync has just told it changes nothing in the guest.
-/

namespace SharedBindings

namespace Guest

variable {guest : Guest} {binding : Binding} {cell : Cell}

/-- Outside of any body a host value goes to the cell of its own anchor, if that is there. -/
theorem target?_eq_some_iff (idle : guest.current = none) :
    guest.target? binding = some cell ↔
      (binding.kind.isProcessWide = true ∨ guest.isDefined binding.anchor = true) ∧
        cell = binding.kind.cell binding.anchor binding.name := by
  rw [← deliveryCell?_eq_target?, deliveryCell?, eq_comm (a := cell)]
  cases itsKind : binding.kind <;>
    by_cases defined : guest.isDefined binding.anchor = true <;>
      simp [deliveryScope?, storeScope?, receiver?, idle, defined, Kind.isProcessWide, Kind.cell,
        Kind.place]

end Guest

namespace Registry

variable {registry : Registry} {guest : Guest} {receiver : Scope} {key : Key} {entry : Entry}

/-- What a resync registers, the argument list apart, holds what the guest answers in its own cell. -/
theorem read_of_made_resync (empty : registry.isEmpty = true) (eager : registry.settings.lazy = false)
    (named : registry.WellNamed) (fits : guest.NamesFit)
    (valued : (registry.resync guest receiver).Valued) (plain : key.name ≠ argumentsName)
    (stored : (registry.resync guest receiver).entryAt? key = some entry) :
    guest.read (entry.binding.kind.cell key.anchor key.name) = entry.binding.value? := by
  have absent := entryAt?_of_isEmpty empty key
  have told : (registry.resync guest receiver).value? key = entry.binding.value? :=
    value?_of_stored stored
  have accepted := named.of_observes (registry.observes_resync guest receiver) key entry stored
  have tracked : entry.binding.kind ∈ registry.settings.localPolicy.resyncOrder := by
    rw [resync_of_eager eager] at stored
    exact kind_mem_of_made_resyncKinds absent stored
  by_cases constant : entry.binding.kind = .constant
  · have ownLocals : registry.settings.localPolicy ≠ .globalBacked := by
      intro globalBacked
      rw [constant, globalBacked] at tracked
      contradiction
    rw [constant] at accepted ⊢
    obtain ⟨value, counts⟩ := valued (binding?_of_entryAt? stored)
    rw [value?_resync_constant empty eager ownLocals accepted plain, Guest.seenIn?, counts,
      Option.ite_none_right_eq_some] at told
    exact told.2.trans counts.symm
  · obtain ⟨value, sees⟩ := sees_of_made_resync absent stored constant
    have shown : guest.Shows registry.settings.localPolicy receiver key value :=
      ⟨_, tracked, constant, accepted, sees⟩
    rw [value?_resync_of_shows empty eager named fits shown] at told
    exact sees.2.trans told

end Registry

namespace Binding

/-- The host repeats what counts already. -/
def repeated (binding : Binding) : Binding :=
  binding.value?.elim binding binding.hostWrite

theorem repeated_of_valued {binding : Binding} {value : Value} (valued : binding.value? = some value) :
    binding.repeated = binding.hostWrite value := by
  rw [repeated, valued, Option.elim_some]

theorem repeated_of_valueless {binding : Binding} (valueless : binding.value? = none) :
    binding.repeated = binding := by
  rw [repeated, valueless, Option.elim_none]

theorem value?_repeated (binding : Binding) : binding.repeated.value? = binding.value? := by
  cases valued : binding.value? with
  | none => rw [repeated_of_valueless valued, valued]
  | some value => rw [repeated_of_valued valued, value?_hostWrite]

theorem kind_repeated (binding : Binding) : binding.repeated.kind = binding.kind := by
  cases valued : binding.value? with
  | none => rw [repeated_of_valueless valued]
  | some value => rw [repeated_of_valued valued, kind_hostWrite]

theorem repeated_repeated (binding : Binding) : binding.repeated.repeated = binding.repeated := by
  cases valued : binding.value? with
  | none => rw [repeated_of_valueless valued, repeated_of_valueless valued]
  | some value =>
      rw [repeated_of_valued ((value?_repeated binding).trans valued), repeated_of_valued valued]
      rfl

end Binding

namespace Session

variable {session : Session} {receiver : Scope} {key other : Key} {entry : Entry}

/-- Writes the value of a binding through its handle, as it is. -/
def writeBackAt (session : Session) (key : Key) : Session :=
  match session.registry.entryAt? key with
  | some entry =>
      match entry.binding.value? with
      | some value => session.writeHeld entry.handle value
      | none => session
  | none => session

def writeBack (session : Session) (keys : List Key) : Session :=
  keys.foldl writeBackAt session

theorem entryAt?_writeBackAt (booked : session.registry.Booked) (key other : Key) :
    (session.writeBackAt key).registry.entryAt? other =
      if other = key then (session.registry.entryAt? other).map (·.change Binding.repeated)
      else session.registry.entryAt? other := by
  cases stored : session.registry.entryAt? key with
  | none =>
      simp only [writeBackAt, stored]
      split
      · rename_i here
        rw [here, stored]
        rfl
      · rfl
  | some entry =>
      cases valued : entry.binding.value? with
      | none =>
          simp only [writeBackAt, stored, valued]
          split
          · rename_i here
            rw [here, stored, Option.map_some, Entry.change, Binding.repeated_of_valueless valued]
          · rfl
      | some value =>
          simp only [writeBackAt, stored, valued, writeHeld, Registry.entryAt?_changeHeld]
          cases held : session.registry.entryAt? other with
          | none => simp
          | some candidate =>
              by_cases here : other = key
              · subst here
                obtain rfl : candidate = entry := Option.some.inj (held.symm.trans stored)
                rw [Option.map_some, if_pos rfl, if_pos rfl, Option.map_some, Entry.change,
                  Entry.change, Binding.repeated_of_valued valued]
              · have apart : candidate.handle ≠ entry.handle := fun same =>
                  here (booked.eq_of_handle_eq held stored same)
                rw [Option.map_some, if_neg apart, if_neg here]

theorem booked_writeBackAt (booked : session.registry.Booked) (key : Key) :
    (session.writeBackAt key).registry.Booked := by
  unfold writeBackAt
  split
  · rename_i entry _
    split
    · exact booked.changeHeld _ entry.handle
    · exact booked
  · exact booked

theorem kept_writeBack (session : Session) (keys : List Key) :
    (session.writeBack keys).guest = session.guest ∧
      (session.writeBack keys).generation = session.generation := by
  induction keys generalizing session with
  | nil => exact ⟨rfl, rfl⟩
  | cons key rest ih =>
      have first : (session.writeBackAt key).guest = session.guest ∧
          (session.writeBackAt key).generation = session.generation := by
        unfold writeBackAt
        repeat' split
        all_goals exact ⟨rfl, rfl⟩
      have later := ih (session.writeBackAt key)
      rwa [first.1, first.2] at later

theorem entryAt?_writeBack (booked : session.registry.Booked) (keys : List Key) (key : Key) :
    (session.writeBack keys).registry.entryAt? key =
      if key ∈ keys then (session.registry.entryAt? key).map (·.change Binding.repeated)
      else session.registry.entryAt? key := by
  induction keys generalizing session with
  | nil => rfl
  | cons first rest ih =>
      refine (ih (booked_writeBackAt booked first)).trans ?_
      rw [entryAt?_writeBackAt booked]
      -- A key that comes again is written a second time, with the same word.
      by_cases here : key = first
      · cases session.registry.entryAt? key <;> simp [here, Entry.change, Binding.repeated_repeated]
      · simp [here]

theorem binding?_writeBack (booked : session.registry.Booked) (keys : List Key) (key : Key) :
    (session.writeBack keys).registry.binding? key =
      if key ∈ keys then (session.registry.binding? key).map Binding.repeated
      else session.registry.binding? key := by
  rw [Registry.binding?, entryAt?_writeBack booked, Registry.binding?]
  split <;> simp [Function.comp_def]

theorem binding?_writeBack_of_mem {keys : List Key} {binding : Binding}
    (booked : session.registry.Booked) (member : key ∈ keys)
    (found : session.registry.binding? key = some binding) :
    (session.writeBack keys).registry.binding? key = some binding.repeated := by
  rw [binding?_writeBack booked, if_pos member, found, Option.map_some]

/-- A binding that a resync has made, and that may have been written back since. -/
structure PulledAt (guest : Guest) (rewritten : List Key) (key : Key) (binding : Binding) : Prop where
  keyed : binding.key = key
  named : binding.kind.accepts key.name = true
  pending : binding.isPending = true ↔ key ∈ rewritten
  valued : ∃ value, binding.value? = some value
  held : key.name ≠ argumentsName →
    guest.content (binding.kind.cell binding.anchor binding.name) = binding.value?

/-- Nothing is registered yet, no body is being executed, and every name that the guest knows fits the
table that it stands in. -/
structure Fresh (session : Session) : Prop where
  reached : Reachable session
  empty : session.registry.isEmpty = true
  eager : session.settings.lazy = false
  fits : session.guest.NamesFit
  idle : session.guest.current = none

section Fresh

variable {rewritten : List Key} {binding : Binding} {delivery : Delivery} (fresh : Fresh session)

include fresh

theorem Fresh.booked_resync (receiver : Scope) : (session.resync receiver).registry.Booked :=
  (sound_resync fresh.reached.sound receiver).booked

theorem Fresh.pulledAt_resync
    (found : (session.resync receiver).registry.binding? key = some binding) :
    PulledAt session.guest [] key binding := by
  obtain ⟨entry, stored, rfl⟩ := Option.map_eq_some_iff.mp found
  have sound : (session.resync receiver).Sound := sound_resync fresh.reached.sound receiver
  have keyed := sound.keyed stored
  have observes := (session.onlyObserved_resync receiver).registry
  constructor
  case keyed => exact keyed
  case named => exact sound.wellNamed key entry stored
  case pending =>
    have absent := Registry.entryAt?_of_isEmpty fresh.empty key
    obtain ⟨_, _, value, made⟩ := observes.found absent stored
    rw [made]
    simp [Binding.isPending]
  case valued => exact sound.valued found
  case held =>
    intro plain
    obtain ⟨value, counts⟩ := sound.valued found
    have answer := Registry.read_of_made_resync fresh.empty fresh.eager
      fresh.reached.sound.wellNamed fresh.fits sound.valued plain stored
    rw [counts] at answer ⊢
    rw [show entry.binding.anchor = key.anchor from congrArg Key.anchor keyed,
      show entry.binding.name = key.name from congrArg Key.name keyed]
    exact (Guest.read_eq_some_iff.mp answer).2

theorem Fresh.pulledAt_writeBack
    (found : ((session.resync receiver).writeBack rewritten).registry.binding? key = some binding) :
    PulledAt session.guest rewritten key binding := by
  rw [binding?_writeBack (fresh.booked_resync receiver)] at found
  split at found
  · rename_i member
    obtain ⟨pulled, standing, rfl⟩ := Option.map_eq_some_iff.mp found
    have before := fresh.pulledAt_resync standing
    obtain ⟨value, valued⟩ := before.valued
    have sameValue := pulled.value?_repeated
    rw [Binding.repeated_of_valued valued] at sameValue ⊢
    exact ⟨before.keyed, before.named, iff_of_true rfl member, ⟨value, rfl⟩,
      fun plain => (before.held plain).trans sameValue.symm⟩
  · rename_i kept
    have before := fresh.pulledAt_resync found
    exact ⟨before.keyed, before.named, before.pending.trans (iff_of_false List.not_mem_nil kept),
      before.valued, before.held⟩

/-- What a pass owes after the write-back. -/
theorem Fresh.mem_owed_writeBack_iff :
    delivery ∈ ((session.resync receiver).writeBack rewritten).owed ↔
      ((session.resync receiver).writeBack rewritten).registry.binding? delivery.key =
          some delivery.binding ∧
        (delivery.key ∈ rewritten ∨ delivery.binding.kind = .localVariable) ∧
        delivery.binding.value? = some delivery.value ∧
        (delivery.binding.kind.isProcessWide = true ∨
          session.guest.isDefined delivery.binding.anchor = true) ∧
        delivery.cell = delivery.binding.kind.cell delivery.binding.anchor delivery.binding.name := by
  rw [mem_owed_iff, (kept_writeBack (session.resync receiver) rewritten).1,
    Guest.target?_eq_some_iff (show (session.resync receiver).guest.current = none from fresh.idle)]
  refine and_congr_right fun found => and_congr_left fun _ => or_congr_left ?_
  exact (fresh.pulledAt_writeBack found).pending

/-- What was rewritten is owed to its own cell, if there is one. -/
theorem Fresh.owes_of_rewritten {value : Value} (member : key ∈ rewritten)
    (valued : binding.value? = some value)
    (standing : (session.resync receiver).registry.binding? key = some binding)
    (present : binding.kind.isProcessWide = true ∨ session.guest.isDefined binding.anchor = true) :
    ⟨key, binding.hostWrite value, value, binding.kind.cell binding.anchor binding.name⟩ ∈
      ((session.resync receiver).writeBack rewritten).owed := by
  have found := binding?_writeBack_of_mem (fresh.booked_resync receiver) member standing
  rw [Binding.repeated_of_valued valued] at found
  exact fresh.mem_owed_writeBack_iff.mpr ⟨found, .inl member, rfl, present, rfl⟩

theorem Fresh.owes_constant_writeBack_iff (receiver : Scope) (rewritten : List Key) (key : Key) :
    (∃ delivery ∈ ((session.resync receiver).writeBack rewritten).owed,
        delivery.binding.kind = .constant ∧ delivery.key = key) ↔
      key ∈ (session.resync receiver).registry.keysOf .constant ∧ key ∈ rewritten ∧
        session.guest.isDefined key.anchor = true := by
  rw [Registry.mem_keysOf_iff]
  constructor
  · rintro ⟨delivery, owes, constant, rfl⟩
    obtain ⟨found, due, _, present, _⟩ := fresh.mem_owed_writeBack_iff.mp owes
    have pulled := fresh.pulledAt_writeBack found
    have member : delivery.key ∈ rewritten :=
      due.resolve_right fun isLocal => by simp [constant] at isLocal
    have defined : session.guest.isDefined delivery.key.anchor = true := by
      rw [constant] at present
      exact pulled.keyed ▸ present.resolve_left Bool.false_ne_true
    rw [binding?_writeBack (fresh.booked_resync receiver), if_pos member] at found
    obtain ⟨before, standing, isRepeated⟩ := Option.map_eq_some_iff.mp found
    have itsKind : before.kind = .constant := by
      rw [← constant, ← isRepeated, Binding.kind_repeated]
    exact ⟨⟨before, standing, itsKind⟩, member, defined⟩
  · rintro ⟨⟨binding, standing, constant⟩, member, defined⟩
    have itsAnchor : key.anchor = binding.anchor :=
      congrArg Key.anchor (fresh.pulledAt_resync standing).keyed.symm
    rw [itsAnchor] at defined
    obtain ⟨value, valued⟩ := (fresh.pulledAt_resync standing).valued
    exact ⟨_, fresh.owes_of_rewritten member valued standing (.inr defined), constant, rfl⟩

theorem Fresh.constantCount_owed_writeBack (receiver : Scope) (rewritten : List Key) :
    Delivery.constantCount ((session.resync receiver).writeBack rewritten).owed =
      ((session.resync receiver).registry.keysOf .constant).countP fun key =>
        key ∈ rewritten ∧ session.guest.isDefined key.anchor = true := by
  let delivered := ((session.resync receiver).writeBack rewritten).owed.filter fun delivery =>
    delivery.binding.kind = .constant
  let due := ((session.resync receiver).registry.keysOf .constant).filter fun key =>
    key ∈ rewritten ∧ session.guest.isDefined key.anchor = true
  have deliveredOnce : (delivered.map Delivery.key).Nodup :=
    (nodup_keys_owed _).sublist (List.filter_sublist.map _)
  have dueOnce : due.Nodup := (Registry.nodup_keysOf _ .constant).filter _
  have alike : (delivered.map Delivery.key).Perm due := by
    refine (List.perm_ext_iff_of_nodup deliveredOnce dueOnce).mpr fun key => ?_
    have owes := fresh.owes_constant_writeBack_iff receiver rewritten key
    simp only [delivered, due, List.mem_map, List.mem_filter, decide_eq_true_eq, ← owes, and_assoc]
  rw [Delivery.constantCount, List.countP_eq_length_filter, List.countP_eq_length_filter,
    ← alike.length_eq, List.length_map]

theorem Fresh.held_of_owed_writeBack (plain : ∀ key ∈ rewritten, key.name ≠ argumentsName)
    (owes : delivery ∈ ((session.resync receiver).writeBack rewritten).owed) :
    session.guest.content delivery.cell = some delivery.value := by
  obtain ⟨found, due, valued, _, itsCell⟩ := fresh.mem_owed_writeBack_iff.mp owes
  have pulled := fresh.pulledAt_writeBack found
  have notArguments : delivery.key.name ≠ argumentsName := by
    rcases due with member | isLocal
    · exact plain _ member
    · intro isArguments
      have accepted := pulled.named
      rw [isLocal, isArguments] at accepted
      contradiction
  rw [itsCell, ← valued]
  exact pulled.held notArguments

theorem Fresh.guest_injectPending_writeBack (receiver : Scope)
    (plain : ∀ key ∈ rewritten, key.name ≠ argumentsName) :
    ((session.resync receiver).writeBack rewritten).injectPending.2.guest = session.guest := by
  rw [guest_injectPending, (kept_writeBack (session.resync receiver) rewritten).1]
  exact session.guest.receiveAll_of_held fun _ owes => fresh.held_of_owed_writeBack plain owes

end Fresh

/-- What is left when some of what a resync has made was written back and injected. -/
structure RoundTrip (before pulled after : Session) (rewritten : List Key) : Prop where
  guest : after.guest = before.guest
  settled : ∀ key ∈ rewritten, ∀ binding, pulled.registry.binding? key = some binding →
    binding.kind.isProcessWide = true ∨ before.guest.isDefined binding.anchor = true →
      ∃ later, after.registry.binding? key = some later ∧ later.isPending = false ∧
        later.value? = binding.value?
  generation : after.generation = before.generation.advance
    ((pulled.registry.keysOf .constant).countP fun key =>
      key ∈ rewritten ∧ before.guest.isDefined key.anchor = true)

/-- The argument list is no part of it: it may have come from the scope above, and would be written to
the top level. -/
theorem writeBack_roundTrip (reached : Reachable session) (empty : session.registry.isEmpty = true)
    (eager : session.settings.lazy = false) (fits : session.guest.NamesFit)
    (idle : session.guest.current = none) (receiver : Scope) (rewritten : List Key)
    (plain : ∀ key ∈ rewritten, key.name ≠ argumentsName) :
    RoundTrip session (session.resync receiver)
      ((session.resync receiver).writeBack rewritten).injectPending.2 rewritten := by
  have fresh : Fresh session := ⟨reached, empty, eager, fits, idle⟩
  constructor
  case guest => exact fresh.guest_injectPending_writeBack receiver plain
  case settled =>
    intro key member binding standing present
    obtain ⟨value, valued⟩ := (fresh.pulledAt_resync standing).valued
    have owes := fresh.owes_of_rewritten member valued standing present
    have delivered := binding?_injectPending_of_mem _ owes
    have sameValue := Binding.value?_delivered (binding.value?_hostWrite value)
    exact ⟨_, delivered, rfl, (sameValue _).trans valued.symm⟩
  case generation =>
    rw [generation_injectPending, (kept_writeBack _ rewritten).2,
      fresh.constantCount_owed_writeBack receiver rewritten]
    rfl

/-- A local and a constant of the top level, and a global that was seen but not written back. -/
theorem top_level_written_back :
    let guest := ((Guest.fresh.write (Kind.localVariable.cell ⟨1⟩ "total") (.int 5)).write
      (Kind.constant.cell ⟨1⟩ "MAX") (.int 7)).write (Kind.globalVariable.cell ⟨1⟩ "$log") (.int 1)
    let session := start guest { lazy := false, localPolicy := .persistent }
    let rewritten : List Key := [⟨⟨1⟩, "MAX"⟩, ⟨⟨1⟩, "total"⟩]
    Reachable session ∧ session.registry.isEmpty = true ∧ session.settings.lazy = false ∧
      session.guest.NamesFit ∧ session.guest.current = none ∧
      (∀ key ∈ rewritten, key.name ≠ argumentsName) ∧
      (session.resync ⟨1⟩).registry.size = 3 ∧
      RoundTrip session (session.resync ⟨1⟩)
        ((session.resync ⟨1⟩).writeBack rewritten).injectPending.2 rewritten := by
  intro guest session rewritten
  have reached : Reachable session := .start guest _ .start
  have fits : guest.NamesFit :=
    ((Guest.namesFit_fresh.write (.int 5) fun _ _ => by decide).write (.int 7)
      fun _ _ => by decide).write (.int 1) fun _ _ => by decide
  have plain : ∀ key ∈ rewritten, key.name ≠ argumentsName := by decide
  refine ⟨reached, rfl, rfl, fits, rfl, plain, by decide, ?_⟩
  exact writeBack_roundTrip reached rfl rfl fits rfl ⟨1⟩ rewritten plain

end Session

end SharedBindings
