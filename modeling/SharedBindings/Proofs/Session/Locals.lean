import SharedBindings.Proofs.Resync.Mirroring
import SharedBindings.Proofs.Session.Retention

/-!
# One local between host and guest

A local of the top level has one cell in the guest and one key in a registry. Injection carries it from
the key to the cell before every unit, a pull or a resync that reads locals carries it back, and nothing
else that a session does reaches the cell.
-/

namespace SharedBindings

/-- Where the guest keeps a local of the top level. -/
def Cell.ofLocal (name : String) : Cell :=
  ⟨.locals, name⟩

theorem Kind.cell_eq_ofLocal_iff {kind : Kind} {scope : Scope} {name other : String} :
    kind.cell scope other = Cell.ofLocal name ↔ kind = .localVariable ∧ other = name := by
  cases kind <;> simp [cell, place, guestName, Cell.ofLocal]

namespace Registry

variable {registry : Registry} {guest : Guest} {receiver : Scope} {name : String}

/-- A pull of a local looks into its cell only. -/
theorem pull_local (accepted : Kind.localVariable.accepts name = true) :
    registry.pull guest receiver .localVariable name =
      match guest.read (Cell.ofLocal name) with
      | none => (none, registry)
      | some value =>
          (some ⟨guest.top, name⟩, registry.observe .localVariable ⟨guest.top, name⟩ value) := by
  have plain : name ≠ argumentsName := by
    rintro rfl
    exact nomatch Kind.eq_constant_of_accepts accepted Kind.accepts_argumentsName
  have path : guest.searchPath .localVariable receiver name = [Cell.ofLocal name] := rfl
  rw [pull, if_pos accepted, if_neg plain, path, Guest.readFirst, List.findSome?_singleton]
  cases guest.read (Cell.ofLocal name) <;> rfl

end Registry

namespace Session

/-- Where a session registers a local of the top level. -/
def localKey (session : Session) (name : String) : Key :=
  ⟨session.guest.top, name⟩

variable {session : Session} {name : String} {binding : Binding} {operation : Operation}
  {receiver : Scope}

theorem localKey_perform (operation : Operation) :
    (session.perform operation).2.localKey name = session.localKey name :=
  congrArg (Key.mk · name) (session.sameFrame_perform operation).top

theorem localKey_performAll (operations : List Operation) :
    (session.performAll operations).localKey name = session.localKey name := by
  induction operations generalizing session with
  | nil => rfl
  | cons first rest ih => exact ih.trans (localKey_perform first)

theorem value?_injectPending (key : Key) :
    (session.injectPending.2.registry.binding? key).bind Binding.value? =
      (session.registry.binding? key).bind Binding.value? := by
  by_cases owed : key ∈ session.owed.map Delivery.key
  · obtain ⟨delivery, member, rfl⟩ := List.mem_map.mp owed
    obtain ⟨found, _, valued, _⟩ := mem_owed_iff.mp member
    rw [session.binding?_injectPending_of_mem member, found, Option.bind_some, Option.bind_some,
      Binding.value?_delivered valued, valued]
  · rw [session.binding?_injectPending_of_notMem owed]

theorem classify_local (ownLocals : session.settings.localPolicy ≠ .globalBacked)
    (accepted : Kind.localVariable.accepts name = true) :
    session.classify name = .ok .localVariable := by
  have candidate : Kind.localVariable ∈ session.settings.localPolicy.candidateKinds := by
    cases policy : session.settings.localPolicy with
    | transient => decide
    | persistent => decide
    | globalBacked => exact absurd policy ownLocals
  rw [classify, LocalPolicy.classify_eq_some_iff.mpr ⟨candidate, accepted⟩]

theorem kind_of_pulls (ownLocals : session.settings.localPolicy ≠ .globalBacked)
    (accepted : Kind.localVariable.accepts name = true) {kind : Kind}
    (pulls : session.Pulls kind receiver name operation) : kind = .localVariable :=
  Except.ok.inj ((pulls_cases pulls).1.symm.trans (classify_local ownLocals accepted))

/-- The binding under the key of a local is a local's: a name that is spelled like one may also stand
for a global there. -/
def RegistersLocal (session : Session) (name : String) : Prop :=
  ∃ binding, session.registry.binding? (session.localKey name) = some binding ∧
    binding.kind = .localVariable

theorem local_binding_stands (sound : session.Sound) {key : Key}
    (held : session.registry.binding? key = some binding) (isLocal : binding.kind = .localVariable) :
    key = session.localKey binding.name ∧ Kind.localVariable.accepts binding.name = true := by
  obtain ⟨entry, stored, rfl⟩ := Option.map_eq_some_iff.mp held
  obtain ⟨itsKey, formed⟩ := sound.held stored
  have atTop : entry.binding.anchor = session.guest.top :=
    formed.anchored (.inl (isLocal ▸ rfl))
  refine ⟨?_, isLocal ▸ formed.named⟩
  rw [← itsKey, Binding.key, atTop, localKey]

/-- Of all bindings, only the one under its key is delivered to the cell of a local. -/
theorem key_of_owed_local (sound : session.Sound) {delivery : Delivery}
    (owed : delivery ∈ session.owed) (here : delivery.cell = Cell.ofLocal name) :
    delivery.key = session.localKey name ∧ delivery.binding.kind = .localVariable := by
  obtain ⟨found, _, _, target⟩ := mem_owed_iff.mp owed
  rw [← Guest.deliveryCell?_eq_target?, Guest.deliveryCell?, Option.map_eq_some_iff, here] at target
  obtain ⟨scope, _, itsCell⟩ := target
  obtain ⟨isLocal, itsName⟩ := Kind.cell_eq_ofLocal_iff.mp itsCell
  exact ⟨itsName ▸ (local_binding_stands sound found isLocal).1, isLocal⟩

theorem content_injectPending_of_registered (sound : session.Sound)
    (held : session.registry.binding? (session.localKey name) = some binding)
    (isLocal : binding.kind = .localVariable) :
    session.injectPending.2.guest.content (Cell.ofLocal name) = binding.value? := by
  obtain ⟨value, valued⟩ := sound.valued held
  obtain ⟨entry, stored, rfl⟩ := Option.map_eq_some_iff.mp held
  have itsName : entry.binding.name = name := congrArg Key.name (sound.held stored).1
  have target : session.guest.target? entry.binding = some (Cell.ofLocal name) := by
    rw [Guest.target?, isLocal, itsName]
    rfl
  have owed : ⟨session.localKey name, entry.binding, value, Cell.ofLocal name⟩ ∈ session.owed :=
    mem_owed_iff.mpr ⟨held, .inr isLocal, valued, target⟩
  have present : session.guest.has (Cell.ofLocal name).place = true := rfl
  rw [guest_injectPending, Guest.content_receiveAll, if_pos present]
  cases last : Delivery.lastTo? session.owed (Cell.ofLocal name) with
  | none =>
      have missed := List.find?_eq_none.mp last _ (List.mem_reverse.mpr owed)
      simp at missed
  | some delivery =>
      obtain ⟨member, here⟩ := Delivery.mem_of_lastTo? last
      obtain ⟨found, _, itsValue, _⟩ := mem_owed_iff.mp member
      rw [(key_of_owed_local sound member here).1, held] at found
      rw [Option.map_some, Option.some_or, Option.some.inj found, itsValue]

theorem content_injectPending_of_unregistered (sound : session.Sound)
    (unregistered : ¬ session.RegistersLocal name) :
    session.injectPending.2.guest.content (Cell.ofLocal name) =
      session.guest.content (Cell.ofLocal name) := by
  have present : session.guest.has (Cell.ofLocal name).place = true := rfl
  rw [guest_injectPending, Guest.content_receiveAll, if_pos present]
  cases last : Delivery.lastTo? session.owed (Cell.ofLocal name) with
  | none => rfl
  | some delivery =>
      obtain ⟨member, here⟩ := Delivery.mem_of_lastTo? last
      obtain ⟨itsKey, isLocal⟩ := key_of_owed_local sound member here
      exact absurd ⟨delivery.binding, itsKey ▸ (mem_owed_iff.mp member).1, isLocal⟩ unregistered

/-- A pass leaves every local settled, with the value that it had. -/
theorem binding?_injectPending_local (sound : session.Sound)
    (held : session.injectPending.2.registry.binding? (session.localKey name) = some binding)
    (isLocal : binding.kind = .localVariable) :
    binding.isPending = false ∧ ∃ before,
      session.registry.binding? (session.localKey name) = some before ∧
        before.kind = .localVariable ∧ binding.value? = before.value? := by
  by_cases owed : session.localKey name ∈ session.owed.map Delivery.key
  · obtain ⟨delivery, member, itsKey⟩ := List.mem_map.mp owed
    have delivered := session.binding?_injectPending_of_mem member
    rw [itsKey, held] at delivered
    obtain rfl := Option.some.inj delivered
    obtain ⟨found, _, valued, _⟩ := mem_owed_iff.mp member
    exact ⟨rfl, delivery.binding, itsKey ▸ found, isLocal,
      (Binding.value?_delivered valued _).trans valued.symm⟩
  · -- Locals are always due, and always have a value and a target.
    have kept := session.binding?_injectPending_of_notMem owed
    rw [held] at kept
    have target : session.guest.target? binding = some (Cell.ofLocal binding.name) := by
      rw [Guest.target?, isLocal]
      rfl
    obtain ⟨value, valued⟩ := sound.valued kept.symm
    have member : ⟨session.localKey name, binding, value, Cell.ofLocal binding.name⟩ ∈
        session.owed := mem_owed_iff.mpr ⟨kept.symm, .inr isLocal, valued, target⟩
    exact absurd (List.mem_map_of_mem member) owed

theorem namesFit_injectPending (sound : session.Sound) (fits : session.guest.NamesFit) :
    session.injectPending.2.guest.NamesFit := by
  rw [guest_injectPending]
  refine fits.receiveAll fun delivery owed => ?_
  obtain ⟨found, _, _, target⟩ := mem_owed_iff.mp owed
  obtain ⟨entry, stored, itsBinding⟩ := Option.map_eq_some_iff.mp found
  rw [← Guest.deliveryCell?_eq_target?, Guest.deliveryCell?, Option.map_eq_some_iff] at target
  obtain ⟨scope, _, itsCell⟩ := target
  exact ⟨itsBinding ▸ (sound.held stored).2.named, scope, itsCell.symm⟩

theorem namesFit_perform (sound : session.Sound) (fits : session.guest.NamesFit)
    (outside : operation.entersGuest = false) : (session.perform operation).2.guest.NamesFit := by
  rcases session.guest_perform_cases outside with same | rfl | ⟨_, _, _, path, _, _, erased, _⟩
  · rw [same]
    exact fits
  · rw [perform_injectPending]
    exact namesFit_injectPending sound fits
  · rw [erased]
    exact fits.eraseFirst path

/-- Only injection and a removal of the local itself reach its cell from outside. -/
theorem read_local_perform (ownLocals : session.settings.localPolicy ≠ .globalBacked)
    (accepted : Kind.localVariable.accepts name = true) (outside : operation.entersGuest = false)
    (kept : ¬ session.Drops (session.localKey name) operation)
    (notInjected : operation ≠ .injectPending) :
    (session.perform operation).2.guest.read (Cell.ofLocal name) =
      session.guest.read (Cell.ofLocal name) := by
  rcases session.guest_perform_cases outside with
    same | rfl | ⟨receiver, other, kind, path, rfl, _, erased, spelled⟩
  · rw [same]
  · exact absurd rfl notInjected
  · have apart : Cell.ofLocal name ∉ path := by
      intro member
      obtain ⟨kind, scope, itsCell⟩ := spelled _ member
      obtain ⟨_, rfl⟩ := Kind.cell_eq_ofLocal_iff.mp itsCell.symm
      exact kept ⟨.localVariable, classify_local ownLocals accepted, rfl⟩
    rw [erased, Guest.read, Guest.read, (Guest.sameFrame_eraseFirst session.guest path).hidden,
      Guest.content_eraseFirst_of_notMem session.guest apart]

end Session

end SharedBindings
