import Mathlib.Data.Set.Card
import SharedBindings.Proofs.Session.Operations

/-!
# Constants and the generation

Guest code trusts the places where it found constants for as long as the generation stands still. A
session may therefore change no more constants than it adds to the generation: one for every constant
that a pass injects, one for a constant that goes with its binding, and nothing for all the rest.
What a unit or the host itself does to the guest is not the session's doing.
-/

namespace SharedBindings

def Cell.IsConstant (cell : Cell) : Prop :=
  ∃ scope, cell.place = .within scope .constants

theorem Kind.isConstant_cell (kind : Kind) (scope : Scope) (name : String) :
    (kind.cell scope name).IsConstant ↔ kind.isCached = true := by
  cases kind <;> simp [Cell.IsConstant, Kind.cell, Kind.place, Kind.isCached]

namespace Guest

def changedConstants (before after : Guest) : Set Cell :=
  {cell | cell.IsConstant ∧ after.content cell ≠ before.content cell}

/-- The constant cells that lose what they held. -/
def lostConstants (before after : Guest) : Set Cell :=
  {cell | cell.IsConstant ∧ before.content cell ≠ none ∧ after.content cell = none}

/-- No more than some number of constant cells differ; with none, not even the tables do. -/
structure ConstantsWithin (limit : Nat) (before after : Guest) : Prop where
  cells : (changedConstants before after).encard ≤ limit
  tables : limit = 0 → ∀ scope,
    after.table (.within scope .constants) = before.table (.within scope .constants)

theorem ConstantsWithin.refl (guest : Guest) : ConstantsWithin 0 guest guest where
  cells := by simp [changedConstants]
  tables _ _ := rfl

theorem ConstantsWithin.trans {early late : Nat} {first second third : Guest}
    (before : ConstantsWithin early first second) (after : ConstantsWithin late second third) :
    ConstantsWithin (early + late) first third where
  cells := by
    have either : changedConstants first third ⊆
        changedConstants first second ∪ changedConstants second third := by
      rintro cell ⟨constant, differs⟩
      by_cases unchanged : second.content cell = first.content cell
      · exact .inr ⟨constant, unchanged ▸ differs⟩
      · exact .inl ⟨constant, unchanged⟩
    calc
      (changedConstants first third).encard
        ≤ (changedConstants first second ∪ changedConstants second third).encard :=
          Set.encard_le_encard either
      _ ≤ (changedConstants first second).encard + (changedConstants second third).encard :=
          Set.encard_union_le _ _
      _ ≤ (early : ℕ∞) + late := add_le_add before.cells after.cells
      _ = ((early + late : Nat) : ℕ∞) := (Nat.cast_add early late).symm
  tables none scope := by
    obtain ⟨noneEarly, noneLate⟩ := Nat.add_eq_zero_iff.mp none
    exact (after.tables noneLate scope).trans (before.tables noneEarly scope)

theorem constantsWithin_of_oneCell {before after : Guest} {cell : Cell} {cached : Bool}
    (constant : cell.IsConstant ↔ cached = true)
    (contents : ∀ other, other ≠ cell → after.content other = before.content other)
    (places : ∀ place, place ≠ cell.place → after.table place = before.table place) :
    ConstantsWithin cached.toNat before after := by
  have onlyHere : changedConstants before after ⊆ {cell} := by
    rintro other ⟨_, differs⟩
    by_contra elsewhere
    exact differs (contents other elsewhere)
  cases cached with
  | true =>
      refine ⟨?_, fun none => absurd none (by decide)⟩
      exact (Set.encard_le_encard onlyHere).trans (by simp)
  | false =>
      have notConstant : ¬ cell.IsConstant := fun isConstant =>
        Bool.false_ne_true (constant.mp isConstant)
      have nothing : changedConstants before after = ∅ := by
        refine Set.eq_empty_iff_forall_notMem.mpr fun other changed => ?_
        obtain rfl : other = cell := onlyHere changed
        exact notConstant changed.1
      refine ⟨by simp [nothing], fun _ scope => places _ fun same => ?_⟩
      exact notConstant ⟨scope, same.symm⟩

variable (guest : Guest) {cell : Cell} {cached : Bool}

theorem constantsWithin_write (value : Value) (constant : cell.IsConstant ↔ cached = true) :
    ConstantsWithin cached.toNat guest (guest.write cell value) := by
  refine constantsWithin_of_oneCell constant (fun other elsewhere => ?_) (fun place elsewhere => ?_)
  · simp [content_write, elsewhere]
  · exact guest.table_changeTable_other elsewhere _

theorem constantsWithin_erase (constant : cell.IsConstant ↔ cached = true) :
    ConstantsWithin cached.toNat guest (guest.erase cell) := by
  refine constantsWithin_of_oneCell constant (fun other elsewhere => ?_) (fun place elsewhere => ?_)
  · simp [content_erase, elsewhere]
  · exact guest.table_changeTable_other elsewhere _

theorem constantsWithin_receiveAll {deliveries : List Delivery}
    (ofKind : ∀ delivery ∈ deliveries,
      delivery.cell.IsConstant ↔ delivery.binding.kind.isCached = true) :
    ConstantsWithin (Delivery.constantCount deliveries) guest (guest.receiveAll deliveries) := by
  induction deliveries generalizing guest with
  | nil => exact .refl guest
  | cons delivery rest ih =>
      rw [Delivery.constantCount_cons]
      have first := guest.constantsWithin_write delivery.value
        (ofKind delivery List.mem_cons_self)
      have later := ih (guest.receive delivery) fun other member =>
        ofKind other (List.mem_cons_of_mem delivery member)
      exact first.trans later

theorem isConstant_of_target {binding : Binding} (target : guest.target? binding = some cell) :
    cell.IsConstant ↔ binding.kind.isCached = true := by
  rw [← deliveryCell?_eq_target?, deliveryCell?, Option.map_eq_some_iff] at target
  obtain ⟨scope, _, rfl⟩ := target
  exact binding.kind.isConstant_cell scope binding.name

theorem ncard_lostConstants_erase (held : guest.content cell ≠ none)
    (constant : cell.IsConstant ↔ cached = true) :
    (guest.lostConstants (guest.erase cell)).ncard = cached.toNat := by
  have lost : ∀ other, other ∈ guest.lostConstants (guest.erase cell) ↔
      other = cell ∧ cached = true := by
    intro other
    rw [lostConstants, Set.mem_ofPred_eq, content_erase]
    by_cases same : other = cell
    · subst same
      simp [held, constant]
    · simp [same]
  cases cached with
  | true =>
      rw [show guest.lostConstants (guest.erase cell) = {cell} from Set.ext fun other => by
        simp [lost other]]
      exact Set.ncard_singleton cell
  | false =>
      rw [show guest.lostConstants (guest.erase cell) = ∅ from Set.ext fun other => by
        simp [lost other]]
      exact Set.ncard_empty Cell

end Guest

namespace Registry

/-- The constants that wait for the guest in one registry and are the guest's in another. -/
def settledConstants (before after : Registry) : Set Key :=
  {key | ∃ waiting settled, before.binding? key = some waiting ∧ waiting.kind = .constant ∧
    waiting.isPending = true ∧ after.binding? key = some settled ∧ settled.isPending = false}

end Registry

namespace Session

/-- How many constants an operation injects. -/
noncomputable def injectedConstants (session : Session) (operation : Operation) : Nat :=
  match operation with
  | .injectPending | .runUnit _ _ =>
      (session.registry.settledConstants (session.perform operation).2.registry).ncard
  | _ => 0

/-- How many constants an operation takes away from the guest with their bindings. -/
noncomputable def undefinedConstants (session : Session) (operation : Operation) : Nat :=
  match operation with
  | .remove _ _ => (session.guest.lostConstants (session.perform operation).2.guest).ncard
  | _ => 0

def Operation.guestSteps : Operation → List Guest.Step
  | .runUnit _ steps => steps
  | .touch step => [step]
  | _ => []

/-- The guest that an operation leaves to the steps of the unit or the host. -/
def preparedGuest (session : Session) (operation : Operation) : Guest :=
  match operation with
  | .runUnit _ _ => session.injectPending.2.guest
  | .touch _ => session.guest
  | _ => (session.perform operation).2.guest

/-- An operation pays for the constants that it changes itself. -/
structure PaysForConstants (session : Session) (operation : Operation) : Prop where
  generation : (session.perform operation).2.generation =
    session.generation.advance
      (session.injectedConstants operation + session.undefinedConstants operation)
  steps : (session.perform operation).2.guest =
    ((session.preparedGuest operation).performAll operation.guestSteps).2
  prepared : Guest.ConstantsWithin
    (session.injectedConstants operation + session.undefinedConstants operation)
    session.guest (session.preparedGuest operation)

variable {session : Session} {key : Key} {after : Registry}

/-- The constants that settle are those that the pass delivers, whatever is seen after it. -/
theorem mem_settledConstants_iff (observed : session.injectPending.2.registry.Observes after) :
    key ∈ session.registry.settledConstants after ↔
      ∃ delivery ∈ session.owed, delivery.binding.kind = .constant ∧ delivery.key = key := by
  rw [Registry.settledConstants, Set.mem_ofPred_eq]
  refine ⟨?_, ?_⟩
  · rintro ⟨waiting, later, found, constant, pending, kept, settled⟩
    by_cases owed : key ∈ session.owed.map Delivery.key
    · obtain ⟨delivery, member, rfl⟩ := List.mem_map.mp owed
      have same : delivery.binding = waiting :=
        Option.some.inj ((mem_owed_iff.mp member).1.symm.trans found)
      exact ⟨delivery, member, same ▸ constant, rfl⟩
    · -- Without a delivery the binding would still be pending: sightings settle nothing.
      have untouched := session.binding?_injectPending_of_notMem owed
      obtain ⟨last, inAfter, seen⟩ := observed.binding? (untouched.trans found)
      have same : later = last := Option.some.inj (kept.symm.trans inAfter)
      rw [← same] at seen
      exact absurd (settled.symm.trans (seen.isPending.trans pending)) Bool.false_ne_true
  · rintro ⟨delivery, owed, constant, rfl⟩
    obtain ⟨found, due, _⟩ := mem_owed_iff.mp owed
    have pending : delivery.binding.isPending = true :=
      due.resolve_right fun isLocal => by simp [constant] at isLocal
    obtain ⟨last, kept, seen⟩ := observed.binding? (session.binding?_injectPending_of_mem owed)
    exact ⟨delivery.binding, last, found, constant, pending, kept, seen.isPending⟩

theorem ncard_settledConstants (observed : session.injectPending.2.registry.Observes after) :
    (session.registry.settledConstants after).ncard = Delivery.constantCount session.owed := by
  let constants := session.owed.filter fun delivery => delivery.binding.kind = .constant
  have distinct : (constants.map Delivery.key).Nodup :=
    session.nodup_keys_owed.sublist (List.filter_sublist.map _)
  have asList : session.registry.settledConstants after =
      ↑(constants.map Delivery.key).toFinset := by
    ext key
    rw [mem_settledConstants_iff observed]
    simp [constants, and_assoc]
  rw [asList, Set.ncard_coe_finset, List.toFinset_card_of_nodup distinct, List.length_map,
    Delivery.constantCount, List.countP_eq_length_filter]

variable (session)

theorem constantsWithin_injectPending :
    Guest.ConstantsWithin (Delivery.constantCount session.owed) session.guest
      session.injectPending.2.guest := by
  rw [guest_injectPending]
  apply session.guest.constantsWithin_receiveAll
  intro delivery member
  exact session.guest.isConstant_of_target (mem_owed_iff.mp member).2.2.2

/-- A later session has advanced by the number of constants that the guest has lost, and nothing else
has happened to the guest's constants. -/
structure PaysForLost (before after : Session) : Prop where
  generation : after.generation =
    before.generation.advance (before.guest.lostConstants after.guest).ncard
  constants : Guest.ConstantsWithin (before.guest.lostConstants after.guest).ncard
    before.guest after.guest

theorem PaysForLost.refl : PaysForLost session session := by
  have nothing : session.guest.lostConstants session.guest = ∅ :=
    Set.eq_empty_iff_forall_notMem.mpr fun _ lost => lost.2.1 lost.2.2
  have noneLost : (session.guest.lostConstants session.guest).ncard = 0 := by
    rw [nothing, Set.ncard_empty]
  refine ⟨?_, ?_⟩
  · rw [noneLost, Generation.advance_zero]
  · rw [noneLost]
    exact .refl session.guest

theorem paysForLost_undefine {kind : Kind} {path : List Cell} (registry : Registry)
    (ofKind : ∀ cell ∈ path, cell.IsConstant ↔ kind.isCached = true) :
    PaysForLost session ({ session with registry }.undefine kind path) := by
  unfold undefine Guest.eraseFirst
  cases found : path.find? fun cell => (session.guest.content cell).isSome with
  | none =>
      obtain ⟨generation, constants⟩ := PaysForLost.refl session
      exact ⟨generation, constants⟩
  | some cell =>
      have constant := ofKind cell (List.mem_of_find?_eq_some found)
      have held : session.guest.content cell ≠ none := by
        simpa [Option.isSome_iff_ne_none] using List.find?_some found
      have lost := session.guest.ncard_lostConstants_erase held constant
      constructor
      · simp only [lost, Option.isSome_some, Bool.true_and]
        exact session.generation.bumpIf_eq_advance kind.isCached
      · rw [lost]
        exact session.guest.constantsWithin_erase constant

theorem paysForLost_drop (kind : Kind) (key : Key) : PaysForLost session (session.drop kind key).2 := by
  rw [drop_eq]
  apply paysForLost_undefine
  intro cell member
  obtain ⟨scope, rfl⟩ := cell_of_mem_dropPath member
  exact Kind.isConstant_cell _ scope key.name

theorem paysForLost_remove (receiver : Scope) (name : String) :
    PaysForLost session (session.perform (.remove receiver name)).2 := by
  cases classified : session.classify name with
  | error problem =>
      rw [perform_remove_of_error session classified]
      exact .refl session
  | ok kind =>
      rw [perform_remove_of_ok session classified]
      exact session.paysForLost_drop kind _

theorem paysForConstants_of_kept {operation : Operation}
    (free : session.injectedConstants operation + session.undefinedConstants operation = 0)
    (noSteps : operation.guestSteps = [])
    (prepared : session.preparedGuest operation = (session.perform operation).2.guest)
    (guest : (session.perform operation).2.guest = session.guest)
    (generation : (session.perform operation).2.generation = session.generation) :
    PaysForConstants session operation where
  generation := by rw [free, generation, Generation.advance_zero]
  steps := by
    rw [prepared, noSteps]
    rfl
  prepared := by
    rw [free, prepared, guest]
    exact .refl session.guest

theorem paysForConstants_of_pass {operation : Operation}
    (injected : session.injectedConstants operation + session.undefinedConstants operation =
      Delivery.constantCount session.owed)
    (prepared : session.preparedGuest operation = session.injectPending.2.guest)
    (steps : (session.perform operation).2.guest =
      (session.injectPending.2.guest.performAll operation.guestSteps).2)
    (generation : (session.perform operation).2.generation = session.injectPending.2.generation) :
    PaysForConstants session operation where
  generation := by
    rw [injected, generation]
    exact session.generation_injectPending
  steps := by
    rw [prepared]
    exact steps
  prepared := by
    rw [injected, prepared]
    exact session.constantsWithin_injectPending

theorem paysForConstants_injectPending : PaysForConstants session .injectPending := by
  have settled := ncard_settledConstants (.refl session.injectPending.2.registry)
  apply paysForConstants_of_pass
  · simp only [injectedConstants, undefinedConstants, perform_injectPending, Nat.add_zero]
    exact settled
  · simp only [preparedGuest, perform_injectPending]
  · simp only [perform_injectPending, Operation.guestSteps, Guest.performAll]
  · simp only [perform_injectPending]

theorem paysForConstants_runUnit (receiver : Scope) (steps : List Guest.Step) :
    PaysForConstants session (.runUnit receiver steps) := by
  obtain ⟨guest, generation, observed⟩ := session.observed_runUnit receiver steps
  have settled := ncard_settledConstants observed
  apply paysForConstants_of_pass
  · simp only [injectedConstants, undefinedConstants, Nat.add_zero]
    exact settled
  · simp only [preparedGuest]
  · exact guest
  · exact generation

theorem paysForConstants_perform (operation : Operation) : PaysForConstants session operation := by
  have observed {operation : Operation}
      (only : OnlyObserved session (session.perform operation).2)
      (free : session.injectedConstants operation + session.undefinedConstants operation = 0)
      (noSteps : operation.guestSteps = [])
      (prepared : session.preparedGuest operation = (session.perform operation).2.guest) :
      PaysForConstants session operation :=
    session.paysForConstants_of_kept free noSteps prepared only.guest only.generation
  cases operation with
  | put receiver name value =>
      obtain ⟨guest, generation⟩ := session.kept_put receiver name value
      exact session.paysForConstants_of_kept rfl rfl rfl guest generation
  | putKind kind receiver name value =>
      obtain ⟨guest, generation⟩ := session.kept_putKind kind receiver name value
      exact session.paysForConstants_of_kept rfl rfl rfl guest generation
  | get receiver name => exact observed (session.onlyObserved_get receiver name) rfl rfl rfl
  | handleAt receiver name =>
      exact observed (session.onlyObserved_handleAt receiver name) rfl rfl rfl
  | refresh receiver name =>
      exact observed (session.onlyObserved_refresh receiver name) rfl rfl rfl
  | resync receiver => exact observed (session.onlyObserved_resync receiver) rfl rfl rfl
  | writeHeld handle value => exact session.paysForConstants_of_kept rfl rfl rfl rfl rfl
  | remove receiver name =>
      obtain ⟨generation, constants⟩ := session.paysForLost_remove receiver name
      have total : session.injectedConstants (.remove receiver name) +
          session.undefinedConstants (.remove receiver name) =
          (session.guest.lostConstants (session.perform (.remove receiver name)).2.guest).ncard :=
        Nat.zero_add _
      constructor
      · rw [total]
        exact generation
      · rfl
      · rw [total]
        exact constants
  | touch step =>
      constructor
      · exact session.generation.advance_zero.symm
      · rw [perform_touch]
        rfl
      · exact .refl session.guest
  | injectPending => exact session.paysForConstants_injectPending
  | runUnit receiver steps => exact session.paysForConstants_runUnit receiver steps

end Session

end SharedBindings
