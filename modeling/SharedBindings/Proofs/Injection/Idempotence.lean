import SharedBindings.Proofs.Injection.Outcome

/-!
# A second injection pass

Locals are due in every pass, so a pass right after another one delivers all of them again, each with
the value that it had. Several locals may share a cell, and then the second pass writes over what
stands there before it gets to the local that comes last. But it is the one that came last before, and
so nothing is different in the end. Whatever else was due has been delivered, or has no target still.
-/

namespace SharedBindings

namespace Delivery

/-- The same delivery once more, after the binding has settled. -/
def again (delivery : Delivery) : Delivery :=
  { delivery with binding := delivery.binding.delivered delivery.cell.place.scope? }

theorem lastTo?_append_of_other {early late : List Delivery} {cell : Cell}
    (elsewhere : ∀ delivery ∈ late, delivery.cell ≠ cell) :
    lastTo? (early ++ late) cell = lastTo? early cell := by
  have noneLate : late.reverse.find? (fun delivery => delivery.cell = cell) = none :=
    List.find?_eq_none.mpr fun delivery member => by
      simpa using elsewhere delivery (List.mem_reverse.mp member)
  rw [lastTo?, List.reverse_append, List.find?_append, noneLate, Option.none_or, lastTo?]

theorem lastTo?_map_again (deliveries : List Delivery) (cell : Cell) :
    lastTo? (deliveries.map again) cell = (lastTo? deliveries cell).map again := by
  rw [lastTo?, ← List.map_reverse, List.find?_map]
  rfl

end Delivery

namespace Guest

variable {guest : Guest} {cell : Cell} {deliveries : List Delivery}

theorem names_write_of_held (held : (guest.content cell).isSome = true) (value : Value)
    (place : Place) : (guest.write cell value).names place = guest.names place := by
  by_cases here : place = cell.place
  · subst here
    rw [names, write, table_changeTable_self]
    split
    · rw [OrderedMap.keys_insert, if_pos (OrderedMap.lookup_isSome_iff.mp held), names]
    · rfl
  · rw [names, write, table_changeTable_other guest here, names]

/-- Deliveries to cells that hold something add no name to any table. -/
theorem names_receiveAll_of_held
    (held : ∀ delivery ∈ deliveries, (guest.content delivery.cell).isSome = true) (place : Place) :
    (guest.receiveAll deliveries).names place = guest.names place := by
  induction deliveries generalizing guest with
  | nil => rfl
  | cons delivery rest ih =>
      have first : (guest.receive delivery).names place = guest.names place :=
        names_write_of_held (held delivery List.mem_cons_self) _ place
      have stillHeld : ∀ other ∈ rest,
          ((guest.receive delivery).content other.cell).isSome = true := by
        intro other member
        rw [receive, content_write]
        split
        · rfl
        · exact held other (List.mem_cons_of_mem _ member)
      exact (ih stillHeld).trans first

theorem receiveAll_eq_of_framed (framed : ∀ delivery ∈ deliveries, delivery.cell.place = .locals) :
    guest.receiveAll deliveries = { guest with locals := (guest.receiveAll deliveries).locals } := by
  induction deliveries generalizing guest with
  | nil => rfl
  | cons delivery rest ih =>
      have first : guest.receive delivery = { guest with
          locals := guest.locals.insert delivery.cell.name delivery.value } := by
        rw [receive, write, framed delivery List.mem_cons_self]
        rfl
      have later : (guest.receive delivery).receiveAll rest =
          { guest.receive delivery with
            locals := ((guest.receive delivery).receiveAll rest).locals } :=
        ih fun other member => framed other (List.mem_cons_of_mem _ member)
      change (guest.receive delivery).receiveAll rest =
        { guest with locals := ((guest.receive delivery).receiveAll rest).locals }
      rw [later, first]

/-- Locals may be delivered again if the last delivery to each of their cells stands. -/
theorem receiveAll_of_standing (framed : ∀ delivery ∈ deliveries, delivery.cell.place = .locals)
    (standing : ∀ cell delivery, Delivery.lastTo? deliveries cell = some delivery →
      guest.content cell = some delivery.value) :
    guest.receiveAll deliveries = guest := by
  have held : ∀ delivery ∈ deliveries, (guest.content delivery.cell).isSome = true := by
    intro delivery member
    obtain ⟨last, found⟩ := Option.isSome_iff_exists.mp (Delivery.lastTo?_isSome_of_mem member)
    rw [standing _ last found]
    rfl
  have contents (cell : Cell) : (guest.receiveAll deliveries).content cell = guest.content cell := by
    rw [content_receiveAll]
    split
    · cases found : Delivery.lastTo? deliveries cell with
      | none => rfl
      | some last => rw [standing cell last found, Option.map_some, Option.some_or]
    · rfl
  have locals : (guest.receiveAll deliveries).locals = guest.locals :=
    OrderedMap.ext_lookup (names_receiveAll_of_held held .locals) fun name =>
      contents ⟨.locals, name⟩
  rw [receiveAll_eq_of_framed framed, locals]

/-- The locals have a place of their own. -/
theorem place_of_target {binding : Binding} (target : guest.target? binding = some cell) :
    cell.place = .locals ↔ binding.kind = .localVariable := by
  rw [← deliveryCell?_eq_target?] at target
  obtain ⟨scope, _, rfl⟩ := Option.map_eq_some_iff.mp target
  cases kind : binding.kind <;> simp [Kind.cell, Kind.place]

theorem owes?_receiveAll (guest : Guest) (deliveries : List Delivery) (key : Key)
    (binding : Binding) :
    (guest.receiveAll deliveries).owes? key binding = guest.owes? key binding := by
  induction deliveries generalizing guest with
  | nil => rfl
  | cons delivery rest ih => exact (ih _).trans (guest.owes?_write key binding _ _)

end Guest

namespace Registry

variable {registry : Registry} {binding : Binding} {value : Value}

theorem valued_empty (settings : Settings) : (empty settings).Valued := by
  intro key binding registered
  contradiction

theorem Valued.upsert (valued : registry.Valued) (own : binding.value? = some value) :
    (registry.upsert binding).2.Valued := by
  intro key found registered
  by_cases here : key = binding.key
  · subst here
    rw [binding?, entryAt?_upsert, Option.map_some, Option.some.injEq] at registered
    subst registered
    exact ⟨value, own⟩
  · rw [binding?, entryAt?_upsert_other registry key binding here, ← binding?] at registered
    exact valued registered

end Registry

namespace Session

variable {session : Session} {key : Key} {delivery : Delivery}

/-- What a pass owes to the locals, which it turns to before all else. -/
def owedToLocals (session : Session) : List Delivery :=
  (session.registry.keysOf .localVariable).filterMap session.owedAt?

theorem kind_of_owedAt?_keysOf {kind : Kind} (member : key ∈ session.registry.keysOf kind)
    (owes : session.owedAt? key = some delivery) : delivery.binding.kind = kind := by
  obtain ⟨binding, found, itsKind⟩ := Registry.binding?_of_mem_keysOf member
  obtain ⟨again, foundAgain, owesBinding⟩ := owedAt?_eq_some_iff.mp owes
  obtain ⟨_, _, _, _, _, rfl⟩ := Guest.owes?_eq_some_iff.mp owesBinding
  exact Option.some.inj (found.symm.trans foundAgain) ▸ itsKind

/-- What a pass of one kind owes. -/
def owedToKind (session : Session) (kind : Kind) : List Delivery :=
  (session.registry.keysOf kind).filterMap session.owedAt?

theorem owedAt?_of_mem_owedToKind {kind : Kind} (member : delivery ∈ session.owedToKind kind) :
    session.owedAt? delivery.key = some delivery ∧ delivery.binding.kind = kind := by
  obtain ⟨key, ofKind, owes⟩ := List.mem_filterMap.mp member
  exact ⟨(key_of_owedAt? owes).symm ▸ owes, kind_of_owedAt?_keysOf ofKind owes⟩

theorem exists_place_of_mem_owedToKind {kind : Kind} (member : delivery ∈ session.owedToKind kind) :
    ∃ scope, delivery.cell.place = kind.place scope := by
  obtain ⟨key, ofKind, owes⟩ := List.mem_filterMap.mp member
  obtain rfl := kind_of_owedAt?_keysOf ofKind owes
  obtain ⟨_, _, owesBinding⟩ := owedAt?_eq_some_iff.mp owes
  obtain ⟨_, _, cell, _, target, rfl⟩ := Guest.owes?_eq_some_iff.mp owesBinding
  rw [← Guest.deliveryCell?_eq_target?] at target
  obtain ⟨scope, _, rfl⟩ := Option.map_eq_some_iff.mp target
  exact ⟨scope, rfl⟩

theorem exists_owed_eq_append (session : Session) :
    ∃ others, session.owed = session.owedToLocals ++ others ∧
      ∀ delivery ∈ others, delivery.binding.kind ≠ .localVariable := by
  refine ⟨(Kind.all.tail.flatMap session.registry.keysOf).filterMap session.owedAt?, ?_, ?_⟩
  · rw [owed_eq_filterMap, owedToLocals, ← List.filterMap_append]
    rfl
  · intro delivery member
    obtain ⟨key, inOthers, owes⟩ := List.mem_filterMap.mp member
    obtain ⟨kind, notLocal, ofKind⟩ := List.mem_flatMap.mp inOthers
    rw [kind_of_owedAt?_keysOf ofKind owes]
    rintro rfl
    exact absurd notLocal (by decide)

theorem place_of_mem_owedToLocals (member : delivery ∈ session.owedToLocals) :
    delivery.cell.place = .locals := by
  have ofLocals : delivery ∈ session.owedToKind .localVariable := member
  obtain ⟨_, place⟩ := exists_place_of_mem_owedToKind ofLocals
  exact place

/-- Every local is due and has a target, and so it is delivered if it has a value. -/
theorem length_owedToLocals (valued : session.registry.Valued) :
    session.owedToLocals.length = (session.registry.bindingsOf .localVariable).length := by
  have each : ∀ key ∈ session.registry.keysOf .localVariable,
      (session.owedAt? key).isSome = true := by
    intro key member
    obtain ⟨binding, found, isLocal⟩ := Registry.binding?_of_mem_keysOf member
    obtain ⟨value, itsValue⟩ := valued found
    have target : session.guest.target? binding = some ⟨.locals, binding.name⟩ := by
      rw [Guest.target?, isLocal]
    rw [owedAt?, found, Option.bind_some,
      Guest.owes?_eq_some_iff.mpr ⟨.inr isLocal, value, _, itsValue, target, rfl⟩]
    rfl
  rw [owedToLocals, List.filterMap_length_eq_length.mpr each, Registry.keysOf, Registry.bindingsOf,
    Registry.bindings, OrderedMap.values, List.map_map, List.filter_map, List.length_map,
    List.length_map]
  rfl

/-- After a pass only locals are owed anything, and that is what the pass has just delivered. -/
theorem owedAt?_injectPending (session : Session) (key : Key) :
    session.injectPending.2.owedAt? key =
      ((session.owedAt? key).filter fun delivery => delivery.binding.kind = .localVariable).map
        Delivery.again := by
  have kept : session.injectPending.2.registry.binding? key =
      (session.registry.binding? key).map (·.settledBy (session.owedAt? key)) := by
    rw [Registry.binding?, entryAt?_injectPending, Registry.binding?, Option.map_map, Option.map_map]
    rfl
  have sameDebt (binding : Binding) : session.injectPending.2.guest.owes? key binding =
      session.guest.owes? key binding := by
    rw [guest_injectPending, Guest.owes?_receiveAll]
  rw [owedAt?, kept]
  cases found : session.registry.binding? key with
  | none =>
      rw [owedAt?, found]
      rfl
  | some binding =>
      have debt : session.owedAt? key = session.guest.owes? key binding := by
        rw [owedAt?, found, Option.bind_some]
      rw [Option.map_some, Option.bind_some, sameDebt, debt]
      cases owes : session.guest.owes? key binding with
      | none => exact owes
      | some delivery =>
          obtain ⟨_, value, cell, itsValue, target, rfl⟩ := Guest.owes?_eq_some_iff.mp owes
          have sameTarget :
              session.guest.target? (binding.delivered cell.place.scope?) = some cell := target
          have sameValue : (binding.delivered cell.place.scope?).value? = some value :=
            Binding.value?_delivered itsValue _
          rw [Guest.owes?, Binding.settledBy, sameTarget, sameValue]
          by_cases isLocal : binding.kind = .localVariable
          · simp [isLocal, Option.filter, Delivery.again]
          · simp [isLocal, Option.filter]

theorem owed_injectPending (session : Session) :
    session.injectPending.2.owed = session.owedToLocals.map Delivery.again := by
  have keys (kind : Kind) :
      session.injectPending.2.registry.keysOf kind = session.registry.keysOf kind :=
    keysOf_of_sameShape (sameShape_injectPending session) kind
  obtain ⟨others, owed, notLocal⟩ := exists_owed_eq_append session.injectPending.2
  have onlyLocal : ∀ delivery ∈ session.injectPending.2.owed,
      delivery.binding.kind = .localVariable := by
    intro delivery member
    have owes := mem_owed_iff_owedAt?.mp member
    rw [owedAt?_injectPending] at owes
    obtain ⟨first, isLocal, again⟩ := Option.map_eq_some_iff.mp owes
    have ofFirst : first.binding.kind = .localVariable := by
      simpa using (Option.filter_eq_some_iff.mp isLocal).2
    rw [← again]
    exact ofFirst
  have noOthers : others = [] := by
    rw [List.eq_nil_iff_forall_not_mem]
    intro delivery member
    exact notLocal delivery member (onlyLocal delivery (owed ▸ List.mem_append_right _ member))
  rw [owed, noOthers, List.append_nil, owedToLocals, keys, owedToLocals, List.map_filterMap]
  refine List.filterMap_congr fun key member => ?_
  rw [owedAt?_injectPending]
  cases owes : session.owedAt? key with
  | none => rfl
  | some delivery => simp [kind_of_owedAt?_keysOf member owes]

/-- What the second pass writes stands in its cells already. -/
theorem receiveAll_owed_injectPending (session : Session) :
    session.injectPending.2.guest.receiveAll session.injectPending.2.owed =
      session.injectPending.2.guest := by
  obtain ⟨others, owed, notLocal⟩ := session.exists_owed_eq_append
  rw [owed_injectPending]
  apply Guest.receiveAll_of_standing
  case framed =>
    intro delivery member
    obtain ⟨first, ofLocals, rfl⟩ := List.mem_map.mp member
    have framed : first.cell.place = .locals := place_of_mem_owedToLocals ofLocals
    exact framed
  case standing =>
    intro cell delivery last
    rw [Delivery.lastTo?_map_again, Option.map_eq_some_iff] at last
    obtain ⟨first, lastLocal, rfl⟩ := last
    obtain ⟨ofLocals, itsCell⟩ := Delivery.mem_of_lastTo? lastLocal
    have framed : cell.place = .locals := itsCell ▸ place_of_mem_owedToLocals ofLocals
    -- No other kind has its place among the locals, so the last local is the last of all.
    have elsewhere : ∀ other ∈ others, other.cell ≠ cell := by
      rintro other member rfl
      have inOwed : other ∈ session.owed := owed ▸ List.mem_append_right _ member
      have target := (mem_owed_iff.mp inOwed).2.2.2
      exact notLocal other member ((Guest.place_of_target target).mp framed)
    have lastOfAll : Delivery.lastTo? session.owed cell = some first := by
      rw [owed, Delivery.lastTo?_append_of_other elsewhere, lastLocal]
    rw [guest_injectPending, Guest.content_receiveAll, lastOfAll]
    have present : session.guest.has cell.place = true := by
      rw [framed]
      rfl
    rw [if_pos present]
    rfl

theorem constantCount_owed_injectPending (session : Session) :
    Delivery.constantCount session.injectPending.2.owed = 0 := by
  rw [owed_injectPending, Delivery.constantCount, List.countP_eq_zero]
  intro delivery member
  obtain ⟨first, ofLocals, rfl⟩ := List.mem_map.mp member
  obtain ⟨key, ofLocal, owes⟩ := List.mem_filterMap.mp ofLocals
  have isLocal : first.binding.kind = .localVariable := kind_of_owedAt?_keysOf ofLocal owes
  simp [Delivery.again, isLocal]

/-- Delivering a local again settles it as it is settled already. -/
theorem entryAt?_injectPending_injectPending (session : Session) (key : Key) :
    session.injectPending.2.injectPending.2.registry.entryAt? key =
      session.injectPending.2.registry.entryAt? key := by
  rw [session.injectPending.2.entryAt?_injectPending, owedAt?_injectPending,
    session.entryAt?_injectPending, Option.map_map]
  refine congrArg (fun change => (session.registry.entryAt? key).map change) (funext fun entry => ?_)
  cases owes : session.owedAt? key with
  | none => rfl
  | some delivery =>
      by_cases isLocal : delivery.binding.kind = .localVariable
      · simp [Option.filter, isLocal, Entry.change, Binding.settledBy, Delivery.again,
          Binding.delivered_delivered]
      · simp [Option.filter, isLocal, Entry.change, Binding.settledBy]

theorem registry_injectPending_injectPending (session : Session) :
    session.injectPending.2.injectPending.2.registry = session.injectPending.2.registry := by
  have entries : session.injectPending.2.injectPending.2.registry.entries =
      session.injectPending.2.registry.entries :=
    OrderedMap.ext_lookup (sameShape_injectPending session.injectPending.2).keys
      session.entryAt?_injectPending_injectPending
  have rest := session.injectPending.2.registry_replay session.injectPending.2.owed
  rw [injectPending_eq_replay] at entries ⊢
  rw [rest, entries]

theorem snd_injectPending_injectPending (session : Session) :
    session.injectPending.2.injectPending.2 = session.injectPending.2 := by
  have guest : session.injectPending.2.injectPending.2.guest = session.injectPending.2.guest := by
    rw [session.injectPending.2.guest_injectPending, receiveAll_owed_injectPending]
  have generation : session.injectPending.2.injectPending.2.generation =
      session.injectPending.2.generation := by
    rw [session.injectPending.2.generation_injectPending, constantCount_owed_injectPending,
      Generation.advance_zero]
  have registry := session.registry_injectPending_injectPending
  generalize session.injectPending.2.injectPending.2 = second at guest registry generation ⊢
  generalize session.injectPending.2 = first at guest registry generation ⊢
  obtain ⟨_, _, _⟩ := second
  cases guest
  cases registry
  cases generation
  rfl

/-- A second pass right after a first one changes nothing: not the guest with its tables and their
orders, nor any binding, nor the generation. It delivers every local once more, and nothing else. -/
theorem injectPending_idempotent (session : Session) :
    session.injectPending.2.injectPending.2 = session.injectPending.2 ∧
      (session.registry.Valued → session.injectPending.2.injectPending.1 =
        (session.registry.bindingsOf .localVariable).length) := by
  refine ⟨session.snd_injectPending_injectPending, fun valued => ?_⟩
  rw [injectPending_eq_replay session.injectPending.2, owed_injectPending, List.length_map,
    length_owedToLocals valued]

/-- A global and the local-style name that stands for it share a cell, and a constant has no scope to go
to. -/
theorem only_local_delivered_again :
    let registry := ((((Registry.empty {}).upsert
      (.firstWritten .localGlobal ⟨⟨1⟩, "log"⟩ (.int 1))).2.upsert
      (.firstWritten .globalVariable ⟨⟨1⟩, "$log"⟩ (.int 2))).2.upsert
      (.firstWritten .localVariable ⟨⟨1⟩, "count"⟩ (.int 3))).2.upsert
      (.firstWritten .constant ⟨⟨9⟩, "MAX"⟩ (.int 4)) |>.2
    let session : Session := { start Guest.fresh {} with registry }
    session.registry.Valued ∧ session.injectPending.1 = 3 ∧
      session.injectPending.2.injectPending.2 = session.injectPending.2 ∧
      session.injectPending.2.injectPending.1 = 1 := by
  intro registry session
  have valued : session.registry.Valued :=
    ((((Registry.valued_empty {}).upsert rfl).upsert rfl).upsert rfl).upsert rfl
  obtain ⟨same, count⟩ := session.injectPending_idempotent
  exact ⟨valued, by decide, same, count valued⟩

end Session

end SharedBindings
