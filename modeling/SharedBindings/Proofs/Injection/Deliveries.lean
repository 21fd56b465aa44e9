import Mathlib.Data.List.Basic
import SharedBindings.Exchange.Injection

/-!
# What an injection pass delivers

A pass walks over snapshots while it changes the guest, the bindings and the generation. None of
these changes moves a target or makes another binding due, so what the pass will do can be read off
the session in which it starts: `Session.owed` lists the deliveries, and the pass is their replay.
-/

namespace SharedBindings

/-- A binding as a pass finds it, its value, and the cell that the value goes to. -/
structure Delivery where
  key : Key
  binding : Binding
  value : Value
  cell : Cell
deriving DecidableEq

namespace Guest

/-- The cell in which a host value belongs. A constant belongs to the body being executed, if there
is one; what is kept per scope needs a defined anchor otherwise. -/
def target? (guest : Guest) (binding : Binding) : Option Cell :=
  let underAnchor (slot : Guest.Slot) : Option Cell :=
    if guest.isDefined binding.anchor then some ⟨.within binding.anchor slot, binding.name⟩
    else none
  match binding.kind with
  | .constant =>
      match guest.current with
      | some scope => some ⟨.within scope .constants, binding.name⟩
      | none => underAnchor .constants
  | .instanceVariable => underAnchor .instanceVariables
  | .classVariable => underAnchor .classVariables
  | .globalVariable => some ⟨.globals, Kind.globalVariable.guestName binding.name⟩
  | .localGlobal => some ⟨.globals, Kind.localGlobal.guestName binding.name⟩
  | .localVariable => some ⟨.locals, binding.name⟩

def owes? (guest : Guest) (key : Key) (binding : Binding) : Option Delivery :=
  if binding.isPending = true ∨ binding.kind = .localVariable then
    binding.value?.bind fun value => (guest.target? binding).map (Delivery.mk key binding value)
  else none

theorem deliveryCell?_eq_target? (guest : Guest) (binding : Binding) :
    guest.deliveryCell? binding = guest.target? binding := by
  cases kind : binding.kind with
  | localVariable | localGlobal | globalVariable =>
      simp [deliveryCell?, deliveryScope?, target?, kind, Kind.cell, Kind.place, Kind.guestName]
  | instanceVariable | classVariable =>
      by_cases defined : guest.isDefined binding.anchor = true <;>
        simp [deliveryCell?, deliveryScope?, target?, receiver?, kind, defined, Kind.cell,
          Kind.place, Kind.guestName]
  | constant =>
      cases current : guest.current with
      | some scope =>
          simp [deliveryCell?, deliveryScope?, target?, storeScope?, kind, current, Kind.cell,
            Kind.place, Kind.guestName]
      | none =>
          by_cases defined : guest.isDefined binding.anchor = true <;>
            simp [deliveryCell?, deliveryScope?, target?, storeScope?, receiver?, kind, current,
              defined, Kind.cell, Kind.place, Kind.guestName]

theorem target?_write (guest : Guest) (binding : Binding) (cell : Cell) (value : Value) :
    (guest.write cell value).target? binding = guest.target? binding := by
  rw [← deliveryCell?_eq_target?, deliveryCell?_write, deliveryCell?_eq_target?]

theorem owes?_write (guest : Guest) (key : Key) (binding : Binding) (cell : Cell) (value : Value) :
    (guest.write cell value).owes? key binding = guest.owes? key binding := by
  simp only [owes?, target?_write]

theorem owes?_eq_some_iff {guest : Guest} {key : Key} {binding : Binding} {delivery : Delivery} :
    guest.owes? key binding = some delivery ↔
      (binding.isPending = true ∨ binding.kind = .localVariable) ∧
        ∃ value cell, binding.value? = some value ∧ guest.target? binding = some cell ∧
          delivery = ⟨key, binding, value, cell⟩ := by
  unfold owes?
  by_cases due : binding.isPending = true ∨ binding.kind = .localVariable
  · simp only [due, if_true, Option.bind_eq_some_iff, Option.map_eq_some_iff, true_and]
    constructor
    · intro ⟨value, valued, cell, target, same⟩
      exact ⟨value, cell, valued, target, same.symm⟩
    · intro ⟨value, cell, valued, target, same⟩
      exact ⟨value, valued, cell, target, same.symm⟩
  · simp only [due, if_false, reduceCtorEq, false_and]

end Guest

theorem Binding.isDue_iff {binding : Binding} :
    binding.isDue = true ↔ binding.isPending = true ∨ binding.kind = .localVariable := by
  cases kind : binding.kind <;> simp [isDue, Kind.isFramed, kind]

namespace Registry

theorem keysOf_eq_filter (registry : Registry) (kind : Kind) :
    registry.keysOf kind =
      registry.entries.keys.filter fun key =>
        (registry.binding? key).map Binding.kind = some kind := by
  rw [keysOf, OrderedMap.keys, List.filter_map]
  refine congrArg (List.map Prod.fst) (List.filter_congr fun pair member => ?_)
  have stored : registry.entries.lookup pair.1 = some pair.2 :=
    OrderedMap.mem_entries_iff.mp member
  simp [binding?, entryAt?, stored]

theorem binding?_of_mem_keysOf {registry : Registry} {kind : Kind} {key : Key}
    (member : key ∈ registry.keysOf kind) :
    ∃ binding, registry.binding? key = some binding ∧ binding.kind = kind := by
  rw [keysOf_eq_filter, List.mem_filter] at member
  simpa [Option.map_eq_some_iff] using member.2

theorem mem_keysOf_iff {registry : Registry} {kind : Kind} {key : Key} :
    key ∈ registry.keysOf kind ↔
      ∃ binding, registry.binding? key = some binding ∧ binding.kind = kind := by
  refine ⟨binding?_of_mem_keysOf, ?_⟩
  rintro ⟨binding, found, rfl⟩
  obtain ⟨entry, stored, _⟩ := Option.map_eq_some_iff.mp found
  rw [keysOf_eq_filter, List.mem_filter, found]
  exact ⟨OrderedMap.mem_keys_of_lookup stored, by simp⟩

theorem nodup_keysOf (registry : Registry) (kind : Kind) : (registry.keysOf kind).Nodup := by
  rw [keysOf_eq_filter]
  exact registry.entries.keys_nodup.filter _

theorem nodup_flatMap_keysOf (registry : Registry) {kinds : List Kind} (distinct : kinds.Nodup) :
    (kinds.flatMap registry.keysOf).Nodup := by
  induction kinds with
  | nil => simp
  | cons kind rest ih =>
      rw [List.nodup_cons] at distinct
      rw [List.flatMap_cons, List.nodup_append]
      refine ⟨?_, ih distinct.2, ?_⟩
      · exact registry.nodup_keysOf kind
      · intro key early other late same
        subst same
        obtain ⟨later, laterMember, lateKey⟩ := List.mem_flatMap.mp late
        obtain ⟨binding, found, itsKind⟩ := binding?_of_mem_keysOf early
        obtain ⟨again, foundAgain, otherKind⟩ := binding?_of_mem_keysOf lateKey
        have sameBinding : binding = again := Option.some.inj (found.symm.trans foundAgain)
        subst sameBinding
        exact distinct.1 (itsKind.symm.trans otherKind ▸ laterMember)

end Registry

namespace Session

/-- The deliveries of a pass: kind by kind, and in registry order inside a kind. -/
def owed (session : Session) : List Delivery :=
  Kind.all.flatMap fun kind =>
    (session.registry.entries.entries.filter fun pair => pair.2.binding.kind = kind).filterMap
      fun pair => session.guest.owes? pair.1 pair.2.binding

def owedAt? (session : Session) (key : Key) : Option Delivery :=
  (session.registry.binding? key).bind (session.guest.owes? key)

def settle (session : Session) (delivery : Delivery) : Session :=
  session.deliver delivery.key delivery.binding delivery.value delivery.cell

def replay (session : Session) (deliveries : List Delivery) : Session :=
  deliveries.foldl settle session

variable {session : Session} {key : Key} {delivery : Delivery}

theorem owedAt?_eq_some_iff :
    session.owedAt? key = some delivery ↔
      ∃ binding, session.registry.binding? key = some binding ∧
        session.guest.owes? key binding = some delivery := by
  simp only [owedAt?, Option.bind_eq_some_iff]

theorem key_of_owedAt? (owes : session.owedAt? key = some delivery) : delivery.key = key := by
  obtain ⟨binding, _, owesBinding⟩ := owedAt?_eq_some_iff.mp owes
  obtain ⟨_, value, cell, _, _, rfl⟩ := Guest.owes?_eq_some_iff.mp owesBinding
  rfl

theorem value?_of_owedAt? {binding : Binding} (found : session.registry.binding? key = some binding)
    (owes : session.owedAt? key = some delivery) : binding.value? = some delivery.value := by
  rw [owedAt?, found, Option.bind_some] at owes
  obtain ⟨_, value, cell, valued, _, rfl⟩ := Guest.owes?_eq_some_iff.mp owes
  exact valued

theorem deliver?_eq_map_owedAt? (session : Session) (key : Key) :
    session.deliver? key = (session.owedAt? key).map session.settle := by
  unfold deliver? owedAt? Guest.owes?
  cases found : session.registry.binding? key with
  | none => rfl
  | some binding =>
      simp only [Binding.isDue_iff, Option.bind_some, Guest.deliveryCell?_eq_target?]
      by_cases due : binding.isPending = true ∨ binding.kind = .localVariable
      · simp only [due, if_true]
        cases binding.value? with
        | none => rfl
        | some value =>
            simp only [Option.bind_some, Option.map_map]
            rfl
      · simp only [due, if_false, Option.map_none]

theorem owedAt?_settle_other (different : key ≠ delivery.key) :
    (session.settle delivery).owedAt? key = session.owedAt? key := by
  have kept : (session.settle delivery).registry.binding? key = session.registry.binding? key := by
    simp only [settle, deliver, Registry.binding?_changeAt, different, if_false]
  have sameDebt : (session.settle delivery).guest.owes? key = session.guest.owes? key :=
    funext fun binding => Guest.owes?_write _ _ _ _ _
  rw [owedAt?, owedAt?, kept, sameDebt]

theorem deliverAll_eq_replay (session : Session) {keys : List Key} (distinct : keys.Nodup) :
    session.deliverAll keys =
      ((keys.filterMap session.owedAt?).length, session.replay (keys.filterMap session.owedAt?)) := by
  induction keys generalizing session with
  | nil => rfl
  | cons key rest ih =>
      rw [List.nodup_cons] at distinct
      rw [deliverAll, deliver?_eq_map_owedAt?]
      cases owes : session.owedAt? key with
      | none =>
          simp only [Option.map_none, List.filterMap_cons, owes]
          exact ih session distinct.2
      | some delivery =>
          have itsKey : delivery.key = key := key_of_owedAt? owes
          have unmoved : rest.filterMap (session.settle delivery).owedAt? =
              rest.filterMap session.owedAt? := by
            apply List.filterMap_congr
            intro other member
            apply owedAt?_settle_other
            intro same
            exact distinct.1 (itsKey ▸ same ▸ member)
          simp only [Option.map_some, List.filterMap_cons, owes, ih _ distinct.2, unmoved]
          rfl

theorem deliverAll_append (session : Session) (early late : List Key) :
    session.deliverAll (early ++ late) =
      ((session.deliverAll early).1 + ((session.deliverAll early).2.deliverAll late).1,
        ((session.deliverAll early).2.deliverAll late).2) := by
  induction early generalizing session with
  | nil => simp [deliverAll]
  | cons key rest ih =>
      rw [List.cons_append, deliverAll, deliverAll]
      cases session.deliver? key with
      | none => exact ih session
      | some next =>
          simp only [ih next, Prod.mk.injEq, and_true]
          omega

theorem keysOf_of_sameShape {before after : Session} (same : SameShape before after) (kind : Kind) :
    after.registry.keysOf kind = before.registry.keysOf kind := by
  simp only [Registry.keysOf_eq_filter, same.keys, same.kinds]

theorem injectEach_eq_deliverAll (session : Session) (kinds : List Kind) :
    session.injectEach kinds = session.deliverAll (kinds.flatMap session.registry.keysOf) := by
  induction kinds generalizing session with
  | nil => rfl
  | cons kind rest ih =>
      -- Deliveries keep every key and its kind, so all snapshots are those of the start.
      have snapshots : rest.flatMap (session.inject kind).2.registry.keysOf =
          rest.flatMap session.registry.keysOf := by
        have shape : SameShape session (session.inject kind).2 := sameShape_deliverAll session _
        exact congrArg (rest.flatMap ·) (funext (keysOf_of_sameShape shape))
      rw [List.flatMap_cons, deliverAll_append]
      change ((session.inject kind).1 + ((session.inject kind).2.injectEach rest).1,
        ((session.inject kind).2.injectEach rest).2) = _
      rw [ih, snapshots]
      rfl

theorem owed_eq_filterMap (session : Session) :
    session.owed = (Kind.all.flatMap session.registry.keysOf).filterMap session.owedAt? := by
  rw [owed, List.filterMap_flatMap]
  refine congrArg (Kind.all.flatMap ·) (funext fun kind => ?_)
  rw [Registry.keysOf, List.filterMap_map]
  apply List.filterMap_congr
  intro pair member
  have stored : session.registry.entries.lookup pair.1 = some pair.2 :=
    OrderedMap.mem_entries_iff.mp (List.mem_of_mem_filter member)
  simp [owedAt?, Registry.binding?, Registry.entryAt?, stored]

theorem injectPending_eq_replay (session : Session) :
    session.injectPending = (session.owed.length, session.replay session.owed) := by
  have distinct : (Kind.all.flatMap session.registry.keysOf).Nodup :=
    session.registry.nodup_flatMap_keysOf (by decide)
  rw [injectPending, injectEach_eq_deliverAll, deliverAll_eq_replay session distinct,
    owed_eq_filterMap]

theorem mem_owed_iff_owedAt? :
    delivery ∈ session.owed ↔ session.owedAt? delivery.key = some delivery := by
  rw [owed_eq_filterMap, List.mem_filterMap]
  constructor
  · rintro ⟨key, _, owes⟩
    exact (key_of_owedAt? owes).symm ▸ owes
  · intro owes
    refine ⟨delivery.key, ?_, owes⟩
    obtain ⟨binding, found, _⟩ := owedAt?_eq_some_iff.mp owes
    refine List.mem_flatMap.mpr ⟨binding.kind, Kind.mem_all _, ?_⟩
    rw [Registry.keysOf_eq_filter, List.mem_filter]
    refine ⟨?_, by simp [found]⟩
    obtain ⟨entry, stored, _⟩ := Option.map_eq_some_iff.mp found
    exact OrderedMap.mem_keys_of_lookup stored

theorem mem_owed_iff :
    delivery ∈ session.owed ↔
      session.registry.binding? delivery.key = some delivery.binding ∧
        (delivery.binding.isPending = true ∨ delivery.binding.kind = .localVariable) ∧
        delivery.binding.value? = some delivery.value ∧
        session.guest.target? delivery.binding = some delivery.cell := by
  rw [mem_owed_iff_owedAt?, owedAt?_eq_some_iff]
  constructor
  · intro ⟨binding, found, owes⟩
    obtain ⟨due, value, cell, valued, target, equal⟩ := Guest.owes?_eq_some_iff.mp owes
    have sameBinding : delivery.binding = binding := congrArg Delivery.binding equal
    have sameValue : delivery.value = value := congrArg Delivery.value equal
    have sameCell : delivery.cell = cell := congrArg Delivery.cell equal
    subst sameBinding sameValue sameCell
    exact ⟨found, due, valued, target⟩
  · intro ⟨found, due, valued, target⟩
    exact ⟨delivery.binding, found,
      Guest.owes?_eq_some_iff.mpr ⟨due, delivery.value, delivery.cell, valued, target, rfl⟩⟩

theorem nodup_keys_owed (session : Session) : (session.owed.map Delivery.key).Nodup := by
  have distinct : (Kind.all.flatMap session.registry.keysOf).Nodup :=
    session.registry.nodup_flatMap_keysOf (by decide)
  rw [owed_eq_filterMap]
  generalize Kind.all.flatMap session.registry.keysOf = keys at distinct
  have owedKeys : (keys.filterMap session.owedAt?).map Delivery.key =
      keys.filter fun key => (session.owedAt? key).isSome := by
    induction keys with
    | nil => rfl
    | cons key rest ih =>
        have tail := ih (List.nodup_cons.mp distinct).2
        cases owes : session.owedAt? key with
        | none => simpa [owes] using tail
        | some delivery => simpa [owes, key_of_owedAt? owes] using tail
  rw [owedKeys]
  exact distinct.filter _

/-- The deliveries of a pass to the binding at one key. -/
def owedTo (session : Session) (key : Key) : List Delivery :=
  session.owed.filter fun delivery => delivery.key = key

theorem owedTo_eq_toList_owedAt? (session : Session) (key : Key) :
    session.owedTo key = (session.owedAt? key).toList := by
  have distinct := session.nodup_keys_owed
  have members : ∀ delivery, delivery ∈ session.owedTo key ↔ session.owedAt? key = some delivery := by
    intro delivery
    rw [owedTo, List.mem_filter, mem_owed_iff_owedAt?, decide_eq_true_eq]
    constructor
    · rintro ⟨owes, rfl⟩
      exact owes
    · intro owes
      have itsKey := key_of_owedAt? owes
      exact ⟨itsKey.symm ▸ owes, itsKey⟩
  have sameKey : ((session.owedTo key).map Delivery.key).Nodup :=
    distinct.sublist (List.filter_sublist.map _)
  match deliveries : session.owedTo key with
  | [] =>
      cases owes : session.owedAt? key with
      | none => rfl
      | some delivery => simpa [deliveries] using (members delivery).mpr owes
  | [delivery] =>
      have owes := (members delivery).mp (by simp [deliveries])
      rw [owes]
      rfl
  | first :: second :: rest =>
      have ofFirst := (members first).mp (by simp [deliveries])
      have ofSecond := (members second).mp (by simp [deliveries])
      have same : first = second := Option.some.inj (ofFirst.symm.trans ofSecond)
      simp [deliveries, same] at sameKey

theorem owedTo_of_binding {binding : Binding} (found : session.registry.binding? key = some binding) :
    session.owedTo key = (session.guest.owes? key binding).toList := by
  rw [owedTo_eq_toList_owedAt?, owedAt?, found, Option.bind_some]

theorem notMem_keys_owed_iff : key ∉ session.owed.map Delivery.key ↔ session.owedTo key = [] := by
  rw [owedTo, List.filter_eq_nil_iff, List.mem_map]
  constructor
  · intro absent delivery member sameKey
    exact absent ⟨delivery, member, of_decide_eq_true sameKey⟩
  · rintro none ⟨delivery, member, sameKey⟩
    exact none delivery member (decide_eq_true sameKey)

end Session

end SharedBindings
