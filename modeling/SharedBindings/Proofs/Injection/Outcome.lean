import Mathlib.Data.List.Induction
import SharedBindings.Proofs.Injection.Deliveries

/-!
# The outcome of an injection pass

Replaying deliveries writes their values one after another, so of several deliveries to one cell the
last one stands; the bindings that were delivered are the guest's from then on, and every delivered
constant advances the generation by one. The main statement puts this together for a whole pass.
-/

namespace SharedBindings

namespace Generation

/-- The generation some number of bumps later. -/
def advance (generation : Generation) (bumps : Nat) : Generation :=
  ⟨generation.count + UInt64.ofNat bumps⟩

variable (generation : Generation)

@[simp] theorem advance_zero : generation.advance 0 = generation := by
  simp [advance]

theorem advance_advance (first second : Nat) :
    (generation.advance first).advance second = generation.advance (first + second) := by
  simp only [advance, UInt64.ofNat_add, UInt64.add_assoc]

theorem toNat_advance (bumps : Nat) :
    (generation.advance bumps).count.toNat = (generation.count.toNat + bumps) % UInt64.size := by
  rw [advance, UInt64.toNat_add, UInt64.toNat_ofNat', Nat.add_mod_mod]

theorem bumpIf_eq_advance (changed : Bool) :
    generation.bumpIf changed = generation.advance changed.toNat := by
  cases changed <;> simp [bumpIf, bump, advance]

theorem bumpIf_comm (first second : Bool) :
    (generation.bumpIf first).bumpIf second = (generation.bumpIf second).bumpIf first := by
  simp only [bumpIf_eq_advance, advance_advance, Nat.add_comm]

end Generation

theorem Kind.isCached_eq_decide (kind : Kind) : kind.isCached = decide (kind = .constant) := by
  cases kind <;> rfl

namespace Delivery

def constantCount (deliveries : List Delivery) : Nat :=
  deliveries.countP fun delivery => delivery.binding.kind = .constant

theorem constantCount_cons (delivery : Delivery) (rest : List Delivery) :
    constantCount (delivery :: rest) =
      delivery.binding.kind.isCached.toNat + constantCount rest := by
  rw [constantCount, List.countP_cons, Nat.add_comm, Kind.isCached_eq_decide]
  by_cases constant : delivery.binding.kind = .constant <;> simp [constant, constantCount]

/-- The last of some deliveries that goes to a cell. -/
def lastTo? (deliveries : List Delivery) (cell : Cell) : Option Delivery :=
  deliveries.reverse.find? fun delivery => delivery.cell = cell

theorem mem_of_lastTo? {deliveries : List Delivery} {delivery : Delivery} {cell : Cell}
    (last : lastTo? deliveries cell = some delivery) :
    delivery ∈ deliveries ∧ delivery.cell = cell :=
  ⟨List.mem_reverse.mp (List.mem_of_find?_eq_some last), by simpa using List.find?_some last⟩

theorem lastTo?_isSome_of_mem {deliveries : List Delivery} {delivery : Delivery}
    (member : delivery ∈ deliveries) : (lastTo? deliveries delivery.cell).isSome = true :=
  List.find?_isSome.mpr ⟨delivery, List.mem_reverse.mpr member, by simp⟩

theorem lastTo?_concat (deliveries : List Delivery) (delivery : Delivery) (cell : Cell) :
    lastTo? (deliveries ++ [delivery]) cell =
      if delivery.cell = cell then some delivery else lastTo? deliveries cell := by
  rw [lastTo?, List.reverse_append, List.reverse_singleton, List.singleton_append, List.find?_cons]
  by_cases here : delivery.cell = cell <;> simp [here, lastTo?]

end Delivery

/-- What a pass makes of a binding, given what it owes to it. -/
def Binding.settledBy (binding : Binding) : Option Delivery → Binding
  | some delivery => binding.delivered delivery.cell.place.scope?
  | none => binding

@[simp] theorem Binding.kind_settledBy (binding : Binding) (owed : Option Delivery) :
    (binding.settledBy owed).kind = binding.kind := by
  cases owed <;> rfl

@[simp] theorem Binding.key_settledBy (binding : Binding) (owed : Option Delivery) :
    (binding.settledBy owed).key = binding.key := by
  cases owed <;> rfl

namespace Guest

def receive (guest : Guest) (delivery : Delivery) : Guest :=
  guest.write delivery.cell delivery.value

def receiveAll (guest : Guest) (deliveries : List Delivery) : Guest :=
  deliveries.foldl receive guest

variable (guest : Guest) (deliveries : List Delivery)

theorem receiveAll_concat (delivery : Delivery) :
    guest.receiveAll (deliveries ++ [delivery]) = (guest.receiveAll deliveries).receive delivery := by
  simp [receiveAll, List.foldl_append]

/-- Deliveries of what the cells hold already leave the guest as it is. -/
theorem receiveAll_of_held {deliveries : List Delivery}
    (held : ∀ delivery ∈ deliveries, guest.content delivery.cell = some delivery.value) :
    guest.receiveAll deliveries = guest := by
  induction deliveries with
  | nil => rfl
  | cons delivery rest ih =>
      have first : guest.receive delivery = guest :=
        guest.write_of_content delivery.cell delivery.value (held delivery List.mem_cons_self)
      change (guest.receive delivery).receiveAll rest = guest
      rw [first]
      exact ih fun other member => held other (List.mem_cons_of_mem _ member)

theorem has_receiveAll (place : Place) : (guest.receiveAll deliveries).has place = guest.has place := by
  induction deliveries using List.reverseRecOn with
  | nil => rfl
  | append_singleton early delivery ih =>
      rw [receiveAll_concat, receive, write, has_changeTable, ih]

theorem content_receiveAll (cell : Cell) :
    (guest.receiveAll deliveries).content cell =
      if guest.has cell.place = true then
        ((Delivery.lastTo? deliveries cell).map Delivery.value).or (guest.content cell)
      else guest.content cell := by
  -- From the end: the last delivery stands in its cell, whatever came before it.
  induction deliveries using List.reverseRecOn with
  | nil => simp [receiveAll, Delivery.lastTo?]
  | append_singleton early delivery ih =>
      rw [receiveAll_concat, receive, content_write, has_receiveAll, ih, Delivery.lastTo?_concat]
      by_cases here : cell = delivery.cell
      · subst here
        by_cases present : guest.has delivery.cell.place = true <;> simp [present]
      · have elsewhere : delivery.cell ≠ cell := fun same => here same.symm
        simp [here, elsewhere]

end Guest

namespace Session

variable (session : Session) (deliveries : List Delivery)

theorem guest_replay : (session.replay deliveries).guest = session.guest.receiveAll deliveries := by
  induction deliveries generalizing session with
  | nil => rfl
  | cons delivery rest ih => exact ih (session.settle delivery)

theorem generation_replay :
    (session.replay deliveries).generation =
      session.generation.advance (Delivery.constantCount deliveries) := by
  induction deliveries generalizing session with
  | nil => simp [replay, Delivery.constantCount]
  | cons delivery rest ih =>
      have first : (session.settle delivery).generation =
          session.generation.advance delivery.binding.kind.isCached.toNat := by
        rw [settle, deliver, Generation.bumpIf_eq_advance]
      have later := ih (session.settle delivery)
      rw [first, Generation.advance_advance, ← Delivery.constantCount_cons] at later
      exact later

theorem registry_replay :
    (session.replay deliveries).registry =
      { session.registry with entries := (session.replay deliveries).registry.entries } := by
  induction deliveries generalizing session with
  | nil => rfl
  | cons delivery rest ih => exact ih (session.settle delivery)

theorem entryAt?_settle (delivery : Delivery) (key : Key) :
    (session.settle delivery).registry.entryAt? key =
      if key = delivery.key then
        (session.registry.entryAt? key).map
          (·.change (·.delivered delivery.cell.place.scope?))
      else session.registry.entryAt? key :=
  Registry.entryAt?_changeAt _ _ _ _

theorem entryAt?_replay_of_notMem {deliveries : List Delivery} {key : Key}
    (untouched : key ∉ deliveries.map Delivery.key) :
    (session.replay deliveries).registry.entryAt? key = session.registry.entryAt? key := by
  induction deliveries generalizing session with
  | nil => rfl
  | cons delivery rest ih =>
      rw [List.map_cons, List.mem_cons, not_or] at untouched
      have kept := ih (session.settle delivery) untouched.2
      rw [entryAt?_settle, if_neg untouched.1] at kept
      exact kept

theorem entryAt?_replay_of_mem {deliveries : List Delivery} {delivery : Delivery}
    (distinct : (deliveries.map Delivery.key).Nodup) (member : delivery ∈ deliveries) :
    (session.replay deliveries).registry.entryAt? delivery.key =
      (session.registry.entryAt? delivery.key).map
        (·.change (·.delivered delivery.cell.place.scope?)) := by
  induction deliveries generalizing session with
  | nil => cases member
  | cons first rest ih =>
      rw [List.map_cons, List.nodup_cons] at distinct
      rcases List.mem_cons.mp member with same | later
      · subst same
        have kept := entryAt?_replay_of_notMem (session.settle delivery) distinct.1
        rw [entryAt?_settle, if_pos rfl] at kept
        exact kept
      · have apart : delivery.key ≠ first.key := fun same =>
          distinct.1 (same ▸ List.mem_map_of_mem later)
        have delivered := ih (session.settle first) distinct.2 later
        rw [entryAt?_settle, if_neg apart] at delivered
        exact delivered

/-- The exact result of one injection pass. -/
structure InjectionOutcome (before : Session) (count : Nat) (after : Session) : Prop where
  /-- What is owed: the bindings that are due and have a value and a target, each of them once. -/
  owed : ∀ delivery, delivery ∈ before.owed ↔
    before.registry.binding? delivery.key = some delivery.binding ∧
      (delivery.binding.isPending = true ∨ delivery.binding.kind = .localVariable) ∧
      delivery.binding.value? = some delivery.value ∧
      before.guest.target? delivery.binding = some delivery.cell
  once : (before.owed.map Delivery.key).Nodup
  count : count = before.owed.length
  written : after.guest = before.guest.receiveAll before.owed
  /-- The last delivery to a cell stands, and a cell without one keeps its content. -/
  content : ∀ cell, after.guest.content cell =
    if before.guest.has cell.place = true then
      ((Delivery.lastTo? before.owed cell).map Delivery.value).or (before.guest.content cell)
    else before.guest.content cell
  delivered : ∀ delivery ∈ before.owed, after.registry.binding? delivery.key =
    some { delivery.binding with
      guestValue? := some delivery.value
      authority := .guest
      materialized := true
      storedIn := delivery.cell.place.scope? }
  kept : ∀ key, key ∉ before.owed.map Delivery.key →
    after.registry.binding? key = before.registry.binding? key
  keys : after.registry.entries.keys = before.registry.entries.keys
  handles : ∀ key, after.registry.handle? key = before.registry.handle? key
  rest : after.registry = { before.registry with entries := after.registry.entries }
  generation : after.generation = before.generation.advance (Delivery.constantCount before.owed)

theorem binding?_injectPending_of_mem {delivery : Delivery} (member : delivery ∈ session.owed) :
    session.injectPending.2.registry.binding? delivery.key =
      some (delivery.binding.delivered delivery.cell.place.scope?) := by
  have found := (mem_owed_iff.mp member).1
  obtain ⟨entry, stored, itsBinding⟩ := Option.map_eq_some_iff.mp found
  have changed := entryAt?_replay_of_mem session session.nodup_keys_owed member
  rw [injectPending_eq_replay, Registry.binding?, changed, stored]
  simp [itsBinding]

theorem entryAt?_injectPending_of_notMem {key : Key}
    (untouched : key ∉ session.owed.map Delivery.key) :
    session.injectPending.2.registry.entryAt? key = session.registry.entryAt? key := by
  rw [injectPending_eq_replay]
  exact entryAt?_replay_of_notMem session untouched

theorem entryAt?_injectPending (key : Key) :
    session.injectPending.2.registry.entryAt? key =
      (session.registry.entryAt? key).map (·.change (·.settledBy (session.owedAt? key))) := by
  cases owes : session.owedAt? key with
  | none =>
      have untouched : key ∉ session.owed.map Delivery.key := by
        rw [notMem_keys_owed_iff, owedTo_eq_toList_owedAt?, owes]
        rfl
      rw [entryAt?_injectPending_of_notMem session untouched]
      exact Option.map_id'.symm
  | some delivery =>
      obtain rfl : delivery.key = key := key_of_owedAt? owes
      have member : delivery ∈ session.owed := mem_owed_iff_owedAt?.mpr owes
      rw [injectPending_eq_replay]
      exact entryAt?_replay_of_mem session session.nodup_keys_owed member

theorem binding?_injectPending_of_notMem {key : Key}
    (untouched : key ∉ session.owed.map Delivery.key) :
    session.injectPending.2.registry.binding? key = session.registry.binding? key := by
  rw [Registry.binding?, entryAt?_injectPending_of_notMem session untouched]
  rfl

theorem guest_injectPending : session.injectPending.2.guest = session.guest.receiveAll session.owed := by
  rw [injectPending_eq_replay]
  exact guest_replay session session.owed

theorem generation_injectPending :
    session.injectPending.2.generation =
      session.generation.advance (Delivery.constantCount session.owed) := by
  rw [injectPending_eq_replay]
  exact generation_replay session session.owed

theorem injectPending_outcome (session : Session) :
    InjectionOutcome session session.injectPending.1 session.injectPending.2 where
  owed delivery := mem_owed_iff
  once := session.nodup_keys_owed
  count := by rw [injectPending_eq_replay]
  written := session.guest_injectPending
  content cell := by
    rw [guest_injectPending]
    exact session.guest.content_receiveAll session.owed cell
  delivered delivery member := by
    have valued := (mem_owed_iff.mp member).2.2.1
    rw [session.binding?_injectPending_of_mem member, Binding.delivered_of_valued valued]
    rfl
  kept key untouched := session.binding?_injectPending_of_notMem untouched
  keys := (sameShape_injectPending session).keys
  handles := (sameShape_injectPending session).handles
  rest := by
    rw [injectPending_eq_replay]
    exact session.registry_replay session.owed
  generation := session.generation_injectPending

end Session

end SharedBindings
