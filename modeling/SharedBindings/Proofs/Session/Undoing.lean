import SharedBindings.Proofs.Session.Retention
import SharedBindings.Proofs.Session.WellFormed

/-!
# Removal undoes injection

A binding remembers where its value was last delivered, through whatever is seen, written or executed
afterwards. So when its name is removed under its anchor, that one cell is undefined in the guest, and
not one that a lookup would find.
-/

namespace SharedBindings

namespace Binding

/-- The binding knows that its last delivery went to a cell. -/
structure WentTo (binding : Binding) (cell : Cell) : Prop where
  spelled : ∃ scope, cell = binding.kind.cell scope binding.name
  storedIn : binding.storedIn = cell.place.scope?
  received : binding.guestValue?.isSome = true

variable {binding later : Binding} {cell : Cell}

theorem WentTo.hostWrite (went : binding.WentTo cell) (value : Value) :
    (binding.hostWrite value).WentTo cell :=
  ⟨went.spelled, went.storedIn, went.received⟩

theorem WentTo.seenAs (went : binding.WentTo cell) (seen : binding.SeenAs later) :
    later.WentTo cell := by
  rcases seen with rfl | ⟨_, value, rfl⟩
  · exact went
  · exact ⟨went.spelled, went.storedIn, rfl⟩

theorem wentTo_delivered {guest : Guest} {value : Value} (valued : binding.value? = some value)
    (target : guest.target? binding = some cell) :
    (binding.delivered cell.place.scope?).WentTo cell := by
  rw [← Guest.deliveryCell?_eq_target?] at target
  obtain ⟨scope, _, itsCell⟩ := Option.map_eq_some_iff.mp target
  rw [delivered_of_valued valued]
  exact ⟨⟨scope, itsCell.symm⟩, rfl, rfl⟩

/-- The place of the last delivery is the only one where a removal looks. -/
theorem WentTo.removalPath (went : binding.WentTo cell) (guest : Guest) :
    binding.removalPath guest binding.name = [cell] := by
  obtain ⟨⟨scope, rfl⟩, storedIn, received⟩ := went
  obtain ⟨value, held⟩ := Option.isSome_iff_exists.mp received
  have place : binding.storedIn = if binding.kind.isProcessWide then none else some scope :=
    storedIn.trans (binding.kind.scope?_place scope)
  simp only [Binding.removalPath, held, Guest.removalPath, place]
  cases binding.kind <;> rfl

end Binding

namespace Session

variable {session : Session} {key : Key} {known : Option Cell} {cell : Cell} {kind : Kind}
  {name : String} {binding : Binding} {entry : Entry} {operation : Operation}

/-- The cell of the last delivery to the binding at a key once an operation is done, if `known` was that
before. -/
def lastCell? (session : Session) (key : Key) (known : Option Cell) (operation : Operation) :
    Option Cell :=
  if session.Drops key operation then none
  else if (Move.operate operation).startsPass then
    ((session.owedAt? key).map Delivery.cell).or known
  else known

def lastCellAfter? (session : Session) (key : Key) (known : Option Cell) :
    List Operation → Option Cell
  | [] => known
  | first :: rest =>
      (session.perform first).2.lastCellAfter? key (session.lastCell? key known first) rest

/-- A reachable session, with the cell of the last delivery to the binding at a key. -/
inductive Delivered (key : Key) : Session → Option Cell → Prop
  | start (guest : Guest) (settings : Settings) (generation : Generation) :
      Delivered key ⟨guest, .empty settings, generation⟩ none
  | perform {session : Session} {known : Option Cell} (delivered : Delivered key session known)
      (operation : Operation) :
      Delivered key (session.perform operation).2 (session.lastCell? key known operation)
  | share {session : Session} {known : Option Cell} (delivered : Delivered key session known)
      (generation : Generation) : Delivered key { session with generation } known

theorem Delivered.performAll (delivered : Delivered key session known)
    (operations : List Operation) :
    Delivered key (session.performAll operations) (session.lastCellAfter? key known operations) := by
  induction operations generalizing session known with
  | nil => exact delivered
  | cons first rest ih => exact ih (delivered.perform first)

theorem Delivered.reachable (delivered : Delivered key session known) : Reachable session := by
  induction delivered with
  | start guest settings generation => exact .start guest settings generation
  | perform _ operation ih => exact ih.perform operation
  | share _ generation ih => exact ih.share generation

theorem Reachable.exists_delivered (reached : Reachable session) (key : Key) :
    ∃ known, Delivered key session known := by
  induction reached with
  | start guest settings generation => exact ⟨none, .start guest settings generation⟩
  | perform _ operation ih =>
      obtain ⟨known, delivered⟩ := ih
      exact ⟨_, delivered.perform operation⟩
  | share _ generation ih =>
      obtain ⟨known, delivered⟩ := ih
      exact ⟨known, delivered.share generation⟩

/-- The registered binding knows the cell of its last delivery. -/
structure Remembers (session : Session) (key : Key) (known : Option Cell) : Prop where
  unregistered : session.registry.entryAt? key = none → known = none
  registered : ∀ {entry cell}, session.registry.entryAt? key = some entry → known = some cell →
    entry.binding.WentTo cell

theorem startsPass_of_hostWrites {value : Value}
    (wrote : session.HostWrites key value operation) :
    (Move.operate operation).startsPass = false := by
  cases operation with
  | put | putKind | writeHeld => rfl
  | get | handleAt | refresh | remove | injectPending | resync | runUnit | touch => exact wrote.elim

theorem lastCell?_of_absent (absent : session.registry.entryAt? key = none) :
    session.lastCell? key none operation = none := by
  have nothing : session.owedAt? key = none := by
    rw [owedAt?, Registry.binding?, absent]
    rfl
  simp [lastCell?, nothing]

/-- A pass delivers what it owes, and otherwise leaves the memory of the last delivery as it was. -/
theorem Remembers.settledBy (remembers : session.Remembers key known)
    (stored : session.registry.entryAt? key = some entry)
    (last : ((session.owedAt? key).map Delivery.cell).or known = some cell) :
    (entry.binding.settledBy (session.owedAt? key)).WentTo cell := by
  cases owes : session.owedAt? key with
  | none =>
      rw [owes, Option.map_none, Option.none_or] at last
      exact remembers.registered stored last
  | some delivery =>
      rw [owes, Option.map_some, Option.some_or, Option.some.injEq] at last
      obtain ⟨held, found, owesHeld⟩ := owedAt?_eq_some_iff.mp owes
      rw [Registry.binding?_of_entryAt? stored, Option.some.injEq] at found
      obtain ⟨_, _, _, valued, isTarget, rfl⟩ := Guest.owes?_eq_some_iff.mp owesHeld
      subst found last
      exact Binding.wentTo_delivered valued isTarget

theorem Remembers.perform (remembers : session.Remembers key known) (operation : Operation) :
    (session.perform operation).2.Remembers key (session.lastCell? key known operation) := by
  by_cases dropped : session.Drops key operation
  · have forgotten : session.lastCell? key known operation = none := if_pos dropped
    rw [forgotten]
    exact ⟨fun _ => rfl, fun _ last => nomatch last⟩
  · cases before : session.registry.entryAt? key with
    | none =>
        rw [remembers.unregistered before, lastCell?_of_absent before]
        exact ⟨fun _ => rfl, fun _ last => nomatch last⟩
    | some entry =>
        obtain ⟨binding, kept, change⟩ := exists_entry_perform before dropped
        refine ⟨fun absent => (nomatch absent.symm.trans kept), fun {after cell} stored last => ?_⟩
        obtain rfl : after = ⟨entry.handle, binding⟩ := Option.some.inj (stored.symm.trans kept)
        rw [lastCell?, if_neg dropped] at last
        -- A host write touches neither the place nor the guest's side, and a sighting keeps both known.
        rcases change with ⟨value, wrote, rfl⟩ | seen
        · rw [startsPass_of_hostWrites wrote, if_neg Bool.false_ne_true] at last
          exact (remembers.registered before last).hostWrite value
        · refine Binding.WentTo.seenAs ?_ seen
          split at last
          · rename_i starts
            rw [if_pos starts]
            exact remembers.settledBy before last
          · rename_i starts
            rw [if_neg starts]
            exact remembers.registered before last

theorem Delivered.remembers (delivered : Delivered key session known) :
    session.Remembers key known := by
  induction delivered with
  | start guest settings generation => exact ⟨fun _ => rfl, fun stored => nomatch stored⟩
  | perform _ operation ih => exact ih.perform operation
  | share _ generation ih => exact ⟨ih.unregistered, ih.registered⟩

/-- Under every policy a name of some kind is classified as one of a kind with its spelling. -/
theorem exists_classify_of_accepts (session : Session) (accepted : kind.accepts name = true) :
    ∃ classified, session.classify name = .ok classified ∧ classified.spelling = kind.spelling := by
  have candidate : ∃ other ∈ session.settings.localPolicy.candidateKinds,
      other.accepts name = true := by
    cases kind with
    | localVariable | localGlobal =>
        refine ⟨session.settings.localPolicy.localKind, by simp [LocalPolicy.candidateKinds], ?_⟩
        cases session.settings.localPolicy <;> exact accepted
    | instanceVariable | classVariable | globalVariable | constant =>
        exact ⟨_, by simp [LocalPolicy.candidateKinds], accepted⟩
  obtain ⟨other, member, alsoAccepted⟩ := candidate
  refine ⟨other, ?_, Kind.spelling_eq_of_accepts alsoAccepted accepted⟩
  rw [classify, LocalPolicy.classify_eq_some_iff.mpr ⟨member, alsoAccepted⟩]

/-- Used under its own anchor, the name of a binding leads to its key. -/
theorem keyFor_anchor (formed : binding.WellFormed session.guest.top)
    (alike : kind.spelling = binding.kind.spelling) :
    session.keyFor kind binding.anchor binding.name = binding.key := by
  refine congrArg (Key.mk · binding.name) ?_
  have sameWidth : kind.isProcessWide = binding.kind.isProcessWide := by
    cases kind <;> cases itsKind : binding.kind <;> first | rfl | simp [itsKind, Kind.spelling] at alike
  cases kind with
  | instanceVariable | classVariable => rfl
  | localVariable | localGlobal | globalVariable => exact (formed.anchored (.inl sameWidth.symm)).symm
  | constant =>
      rw [Guest.anchorFor]
      split
      · rename_i isArguments
        exact (formed.anchored (.inr isArguments)).symm
      · rfl

/-- What is left after the removal of a binding whose last delivery went to a cell. -/
structure Undone (before after : Session) (binding : Binding) (cell : Cell) : Prop where
  unregistered : after.registry.entryAt? binding.key = none
  others : ∀ key, key ≠ binding.key →
    after.registry.entryAt? key = before.registry.entryAt? key
  /-- The cell has the name of the binding, in a place of its kind. -/
  place : ∃ scope, cell = binding.kind.cell scope binding.name ∧
    (binding.kind = .instanceVariable ∨ binding.kind = .classVariable → scope = binding.anchor)
  erased : after.guest = before.guest.erase cell
  undefined : after.guest.content cell = none
  untouched : ∀ other, other ≠ cell → after.guest.content other = before.guest.content other

/-- However long ago a binding was delivered and whatever it has seen or been told since, removing its
name under its anchor takes it out of the registry and its value out of the cell it was delivered to,
and leaves every other cell alone. -/
theorem remove_undoes_delivery (delivered : Delivered key session (some cell))
    (registered : session.registry.binding? key = some binding) :
    ∃ handle after,
      session.registry.handle? key = some handle ∧
      session.remove binding.anchor binding.name = .ok (some handle, after) ∧
      Undone session after binding cell := by
  obtain ⟨entry, stored, rfl⟩ := Option.map_eq_some_iff.mp registered
  obtain ⟨rfl, formed⟩ := delivered.reachable.sound.held stored
  have went := delivered.remembers.registered stored rfl
  obtain ⟨kind, classified, alike⟩ := session.exists_classify_of_accepts formed.named
  have itsKey := keyFor_anchor formed alike
  have removed : session.remove entry.binding.anchor entry.binding.name =
      .ok (session.drop kind entry.binding.key) := by
    simp only [remove, classified, itsKey]
  have dropped : (session.drop kind entry.binding.key).1 = some entry.handle := by
    simp only [drop, Registry.remove, stored]
  have erased : (session.drop kind entry.binding.key).2.guest = session.guest.erase cell := by
    have path := went.removalPath session.guest
    simp only [drop, Registry.remove, stored, undefine]
    rw [show entry.binding.key.name = entry.binding.name from rfl, path]
    exact session.guest.eraseFirst_singleton cell
  refine ⟨entry.handle, (session.drop kind entry.binding.key).2, ?_, ?_, ?_⟩
  · rw [Registry.handle?, stored, Option.map_some]
  · rw [removed, ← dropped]
  · constructor
    case unregistered => rw [registry_drop, Registry.entryAt?_remove, if_pos rfl]
    case others =>
      intro other different
      rw [registry_drop, Registry.entryAt?_remove, if_neg different]
    case place =>
      obtain ⟨scope, itsCell⟩ := went.spelled
      refine ⟨scope, itsCell, fun ofReceiver => formed.storedAtAnchor ofReceiver scope ?_⟩
      rw [went.storedIn, itsCell]
      rcases ofReceiver with itsKind | itsKind <;> rw [itsKind] <;> rfl
    case erased => exact erased
    case undefined => rw [erased, Guest.content_erase, if_pos rfl]
    case untouched =>
      intro other different
      rw [erased, Guest.content_erase, if_neg different]

/-- A constant delivered to the body being executed leaves it, not the top level, although the top level
has the name, shows it to the session and is its anchor. -/
theorem constant_leaves_executed_body :
    let key : Key := ⟨⟨1⟩, "MAX"⟩
    let cell := Kind.constant.cell ⟨2⟩ "MAX"
    let begun : Session := start (Guest.fresh.addModule "Foo" true).2 {}
    let operations : List Operation :=
      [.touch (.command (.execute (some ⟨2⟩))), .put ⟨1⟩ "MAX" (.int 7), .injectPending,
        .touch (.command (.execute none)),
        .touch (.command (.write (Kind.constant.cell ⟨1⟩ "MAX") (.int 8))), .refresh ⟨1⟩ "MAX",
        .writeHeld ⟨0⟩ (.int 9)]
    let binding : Binding :=
      { name := "MAX", kind := .constant, anchor := ⟨1⟩, hostValue? := some (.int 9),
        guestValue? := some (.int 8), authority := .host, materialized := false,
        storedIn := some ⟨2⟩ }
    Delivered key (begun.performAll operations) (some cell) ∧
      (begun.performAll operations).registry.binding? key = some binding ∧
      ∃ handle after, (begun.performAll operations).remove ⟨1⟩ "MAX" = .ok (some handle, after) ∧
        Undone (begun.performAll operations) after binding cell := by
  intro key cell begun operations binding
  have last : begun.lastCellAfter? key none operations = some cell := by decide +kernel
  have delivered : Delivered key (begun.performAll operations) (some cell) :=
    last ▸ (Delivered.start _ {} .start).performAll operations
  have registered : (begun.performAll operations).registry.binding? key = some binding := by
    decide +kernel
  obtain ⟨handle, after, _, removed, undone⟩ := remove_undoes_delivery delivered registered
  exact ⟨delivered, registered, handle, after, removed, undone⟩

end Session

end SharedBindings
