import SharedBindings.Proofs.Session.Retention

/-!
# Host writes reach the guest once

What a host writes waits in the registry until a pass finds a target for it. While it waits, nothing
but the host itself can change it and every read that leads to it answers it; the pass that finds
the target writes it; and unless the binding is a local, no later pass writes the binding again.
-/

namespace SharedBindings

namespace Binding

theorem value?_of_pending {binding : Binding} {value : Value} (pending : binding.isPending = true)
    (written : binding.hostValue? = some value) : binding.value? = some value := by
  have host : binding.authority = .host := of_decide_eq_true (Bool.and_eq_true_iff.mp pending).1
  rw [value?, host, written]

end Binding

namespace Guest

theorem owes?_of_target {guest : Guest} {key : Key} {binding : Binding} {value : Value}
    {cell : Cell} (pending : binding.isPending = true) (written : binding.hostValue? = some value)
    (target : guest.target? binding = some cell) :
    guest.owes? key binding = some ⟨key, binding, value, cell⟩ := by
  have valued := Binding.value?_of_pending pending written
  exact owes?_eq_some_iff.mpr ⟨.inl pending, value, cell, valued, target, rfl⟩

theorem owes?_of_no_target {guest : Guest} {key : Key} {binding : Binding}
    (noTarget : guest.target? binding = none) : guest.owes? key binding = none := by
  simp only [owes?, noTarget, Option.map_none, Option.bind_fun_none, ite_self]

theorem owes?_of_settled {guest : Guest} {key : Key} {binding : Binding}
    (settled : binding.isPending = false) (framed : binding.kind ≠ .localVariable) :
    guest.owes? key binding = none := by
  simp [owes?, settled, framed]

end Guest

namespace Session

variable {session : Session} {key : Key} {value : Value} {binding : Binding} {entry : Entry}

theorem entryAt?_of_hostWrites {write : Operation} (wrote : session.HostWrites key value write) :
    ∃ entry, (session.perform write).2.registry.entryAt? key = some entry ∧
      entry.binding.isPending = true ∧ entry.binding.hostValue? = some value := by
  have byKind {kind : Kind} {receiver : Scope} {name : String} (accepted : kind.accepts name = true)
      (itsKey : session.keyFor kind receiver name = key) :
      ∃ entry, (session.perform (.putKind kind receiver name value)).2.registry.entryAt? key =
        some entry ∧ entry.binding.isPending = true ∧ entry.binding.hostValue? = some value := by
    obtain ⟨entry, pending, written, entries⟩ :=
      session.entryAt?_putKind receiver value accepted
    exact ⟨entry, by rw [entries key, if_pos itsKey.symm], pending, written⟩
  cases write with
  | put receiver name word =>
      obtain ⟨rfl, kind, classified, itsKey⟩ := wrote
      rw [perform_put_of_ok session classified]
      exact byKind (session.accepts_of_classify classified) itsKey
  | putKind kind receiver name word =>
      obtain ⟨rfl, accepted, itsKey⟩ := wrote
      exact byKind accepted itsKey
  | writeHeld handle word =>
      obtain ⟨rfl, held⟩ := wrote
      obtain ⟨entry, stored, itsHandle⟩ := Option.map_eq_some_iff.mp held
      refine ⟨entry.change (·.hostWrite word), ?_, rfl, rfl⟩
      change (session.registry.changeHeld handle (·.hostWrite word)).entryAt? key = _
      rw [Registry.entryAt?_changeHeld, stored, Option.map_some, if_pos itsHandle]
  | get | handleAt | refresh | remove | injectPending | resync | runUnit | touch =>
      exact wrote.elim

/-- Every pass of a run starts in a session in which the binding at a key has no target. -/
def Awaits (session : Session) (key : Key) : List Move → Prop
  | [] => True
  | first :: rest =>
      (first.startsPass = true → ∀ binding, session.registry.binding? key = some binding →
        session.guest.target? binding = none) ∧
      (session.move first).Awaits key rest

theorem entryAt?_moveAll_of_awaits {moves : List Move}
    (stored : session.registry.entryAt? key = some entry) (pending : entry.binding.isPending = true)
    (spared : session.SparesAll key moves) (awaits : session.Awaits key moves) :
    (session.moveAll moves).registry.entryAt? key = some entry := by
  -- The entry itself is the invariant: a spared binding changes by sightings at most, and those do
  -- nothing to a pending one.
  induction moves generalizing session with
  | nil => exact stored
  | cons first rest ih =>
      have undelivered : first.startsPass = true → key ∉ session.owed.map Delivery.key := by
        intro starts
        have noTarget := awaits.1 starts entry.binding (Registry.binding?_of_entryAt? stored)
        rw [notMem_keys_owed_iff, owedTo_of_binding (Registry.binding?_of_entryAt? stored),
          Guest.owes?_of_no_target noTarget]
        rfl
      obtain ⟨later, kept, seen⟩ := (session.retains_move spared.1 undelivered).held stored
      rw [seen.eq_of_pending pending] at kept
      exact ih kept spared.2 awaits.2

theorem owedTo_moveAll_of_settled {moves : List Move}
    (stored : session.registry.entryAt? key = some entry) (settled : entry.binding.isPending = false)
    (framed : entry.binding.kind ≠ .localVariable) (spared : session.SparesAll key moves) :
    (session.moveAll moves).owedTo key = [] := by
  have nothing : session.owedTo key = [] := by
    rw [owedTo_of_binding (Registry.binding?_of_entryAt? stored), Guest.owes?_of_settled settled framed]
    rfl
  induction moves generalizing session entry with
  | nil => exact nothing
  | cons first rest ih =>
      have undelivered : first.startsPass = true → key ∉ session.owed.map Delivery.key :=
        fun _ => notMem_keys_owed_iff.mpr nothing
      obtain ⟨later, kept, seen⟩ := (session.retains_move spared.1 undelivered).held stored
      have stillSettled : later.isPending = false := seen.isPending.trans settled
      have stillFramed : later.kind ≠ .localVariable := seen.kind ▸ framed
      apply ih kept stillSettled stillFramed spared.2
      rw [owedTo_of_binding (Registry.binding?_of_entryAt? kept), Guest.owes?_of_settled stillSettled stillFramed]
      rfl

theorem get_of_locate {receiver : Scope} {name : String} {kind : Kind}
    (stored : session.registry.entryAt? key = some entry) (pending : entry.binding.isPending = true)
    (written : entry.binding.hostValue? = some value)
    (classified : session.classify name = .ok kind)
    (located : (session.locate kind receiver name).1 = some key) :
    session.get receiver name = .ok (some value, (session.locate kind receiver name).2) := by
  have observed := session.onlyObserved_locate receiver name kind
  obtain ⟨later, kept, seen⟩ := observed.registry.held stored
  rw [seen.eq_of_pending pending] at kept
  simp only [get, classified, located, Option.bind_some, Registry.binding?_of_entryAt? kept,
    Binding.value?_of_pending pending written]

theorem owedAt?_of_target {cell : Cell} (stored : session.registry.entryAt? key = some entry)
    (pending : entry.binding.isPending = true) (written : entry.binding.hostValue? = some value)
    (target : session.guest.target? entry.binding = some cell) :
    session.owedAt? key = some ⟨key, entry.binding, value, cell⟩ := by
  rw [owedAt?, Registry.binding?_of_entryAt? stored, Option.bind_some,
    Guest.owes?_of_target pending written target]

theorem settled_after_pass {cell : Cell} (stored : session.registry.entryAt? key = some entry)
    (pending : entry.binding.isPending = true) (written : entry.binding.hostValue? = some value)
    (target : session.guest.target? entry.binding = some cell) :
    session.injectPending.2.registry.entryAt? key =
      some ⟨entry.handle, { entry.binding with
        guestValue? := some value
        authority := .guest
        materialized := true
        storedIn := cell.place.scope? }⟩ := by
  have member : ⟨key, entry.binding, value, cell⟩ ∈ session.owed :=
    mem_owed_iff_owedAt?.mpr (owedAt?_of_target stored pending written target)
  have delivered := entryAt?_replay_of_mem session session.nodup_keys_owed member
  have valued := Binding.value?_of_pending pending written
  rw [injectPending_eq_replay, delivered, stored, Option.map_some, Entry.change,
    Binding.delivered_of_valued valued]
  rfl

/-- How an entry stands in a session while it waits with a host value. -/
structure Waits (session : Session) (key : Key) (entry : Entry) (value : Value) : Prop where
  stored : session.registry.entryAt? key = some entry
  pending : entry.binding.isPending = true
  written : entry.binding.hostValue? = some value
  answered : ∀ {receiver name kind}, session.classify name = .ok kind →
    (session.locate kind receiver name).1 = some key →
    ∃ after, session.get receiver name = .ok (some value, after)
  untouched : session.guest.target? entry.binding = none → session.owedTo key = []

/-- What a pass does for an entry whose host value has a target, and what no later pass does. -/
structure DeliversOnce (session : Session) (key : Key) (entry : Entry) (value : Value)
    (cell : Cell) : Prop where
  once : session.owedTo key = [⟨key, entry.binding, value, cell⟩]
  written : session.injectPending.2.guest = session.guest.receiveAll session.owed
  /-- The cell holds what the last delivery to it has brought: the written value, if that was the
  entry's own. -/
  holds : ∃ last, Delivery.lastTo? session.owed cell = some last ∧
    (last.key = key → last.value = value) ∧
    (session.guest.has cell.place = true →
      session.injectPending.2.guest.content cell = some last.value)
  settled : session.injectPending.2.registry.entryAt? key =
    some ⟨entry.handle, { entry.binding with
      guestValue? := some value
      authority := .guest
      materialized := true
      storedIn := cell.place.scope? }⟩
  never : entry.binding.kind ≠ .localVariable → ∀ pass later, pass.startsPass = true →
    session.SparesAll key (pass :: later) → ((session.move pass).moveAll later).owedTo key = []

/-- A pass leaves the cell of each delivery with the value of the last one that went there. -/
theorem exists_lastTo?_of_owed {delivery : Delivery} (owes : session.owedAt? key = some delivery) :
    ∃ last, Delivery.lastTo? session.owed delivery.cell = some last ∧
      (last.key = key → last.value = delivery.value) ∧
      (session.guest.has delivery.cell.place = true →
        session.injectPending.2.guest.content delivery.cell = some last.value) := by
  obtain rfl : delivery.key = key := key_of_owedAt? owes
  have member : delivery ∈ session.owed := mem_owed_iff_owedAt?.mpr owes
  obtain ⟨last, isLast⟩ := Option.isSome_iff_exists.mp (Delivery.lastTo?_isSome_of_mem member)
  refine ⟨last, isLast, fun itsOwn => ?_, fun present => ?_⟩
  · obtain ⟨inOwed, _⟩ := Delivery.mem_of_lastTo? isLast
    have owesLast : session.owedAt? delivery.key = some last :=
      itsOwn ▸ mem_owed_iff_owedAt?.mp inOwed
    rw [Option.some.inj (owesLast.symm.trans owes)]
  · rw [guest_injectPending, Guest.content_receiveAll, if_pos present, isLast]
    rfl

theorem observes_of_startsPass {pass : Move} (starts : pass.startsPass = true) :
    session.injectPending.2.registry.Observes (session.move pass).registry := by
  cases pass with
  | replaceHeld handle binding => simp [Move.startsPass] at starts
  | operate operation =>
      cases operation with
      | injectPending =>
          rw [move, perform_injectPending]
          exact .refl _
      | runUnit receiver steps =>
          obtain ⟨_, _, observed⟩ := session.observed_runUnit receiver steps
          exact observed
      | put | putKind | get | handleAt | refresh | remove | resync | touch | writeHeld =>
          simp [Move.startsPass] at starts

theorem deliversOnce_of_target {cell : Cell}
    (stored : session.registry.entryAt? key = some entry) (pending : entry.binding.isPending = true)
    (written : entry.binding.hostValue? = some value)
    (target : session.guest.target? entry.binding = some cell) :
    DeliversOnce session key entry value cell := by
  have settled := settled_after_pass stored pending written target
  have owes := owedAt?_of_target stored pending written target
  constructor
  case once =>
    rw [owedTo_eq_toList_owedAt?, owes]
    rfl
  case written => exact session.guest_injectPending
  case holds => exact exists_lastTo?_of_owed owes
  case settled => exact settled
  case never =>
    intro framed pass later starts spared
    obtain ⟨binding, kept, seen⟩ := (observes_of_startsPass starts).held settled
    have stillSettled : binding.isPending = false := seen.isPending
    have stillFramed : binding.kind ≠ .localVariable := seen.kind ▸ framed
    exact owedTo_moveAll_of_settled kept stillSettled stillFramed spared.2

/-- A host write waits, whatever happens around it, until a pass finds its target, and is delivered
by that pass alone. -/
theorem hostWrite_delivered_once {write : Operation} (wrote : session.HostWrites key value write) :
    ∃ entry, (session.perform write).2.registry.entryAt? key = some entry ∧
      ∀ waiting, (session.perform write).2.SparesAll key waiting →
        (session.perform write).2.Awaits key waiting →
        Waits ((session.perform write).2.moveAll waiting) key entry value ∧
        ∀ cell, ((session.perform write).2.moveAll waiting).guest.target? entry.binding = some cell →
          DeliversOnce ((session.perform write).2.moveAll waiting) key entry value cell := by
  obtain ⟨entry, stored, pending, written⟩ := entryAt?_of_hostWrites wrote
  refine ⟨entry, stored, fun waiting spared awaits => ?_⟩
  have kept := entryAt?_moveAll_of_awaits stored pending spared awaits
  generalize (session.perform write).2.moveAll waiting = now at kept
  constructor
  · constructor
    case stored => exact kept
    case pending => exact pending
    case written => exact written
    case answered =>
      intro receiver name kind classified located
      exact ⟨_, get_of_locate kept pending written classified located⟩
    case untouched =>
      intro noTarget
      rw [owedTo_of_binding (Registry.binding?_of_entryAt? kept), Guest.owes?_of_no_target noTarget]
      rfl
  · intro cell target
    exact deliversOnce_of_target kept pending written target

theorem constant_awaits_definition :
    let owner : Scope := ⟨2⟩
    let key : Key := ⟨owner, "MAX"⟩
    let cell : Cell := ⟨.within owner .constants, "MAX"⟩
    let before := start (Guest.fresh.addModule "Foo" false).2 {}
    let write : Operation := .putKind .constant owner "MAX" (.int 7)
    let waiting : List Move :=
      [.operate .injectPending, .operate (.touch (.command (.define owner)))]
    let after := (before.perform write).2
    let defined := after.moveAll waiting
    before.HostWrites key (.int 7) write ∧ after.SparesAll key waiting ∧ after.Awaits key waiting ∧
      ∃ entry, after.registry.entryAt? key = some entry ∧
        DeliversOnce defined key entry (.int 7) cell ∧
        defined.guest.content cell = none ∧
        defined.injectPending.2.guest.content cell = some (.int 7) := by
  intro owner key cell before write waiting after defined
  have wrote : before.HostWrites key (.int 7) write := ⟨rfl, by decide, by decide⟩
  have spared : after.SparesAll key waiting :=
    ⟨⟨fun _ wrote => wrote, fun dropped => dropped⟩, ⟨fun _ wrote => wrote, fun dropped => dropped⟩,
      trivial⟩
  have held : after.registry.entryAt? key =
      some ⟨⟨0⟩, .firstWritten .constant key (.int 7)⟩ := by decide
  have awaits : after.Awaits key waiting := by
    refine ⟨fun _ binding found => ?_, fun starts => ?_, trivial⟩
    · rw [Registry.binding?_of_entryAt? held, Option.some.injEq] at found
      subst found
      decide
    · simp [Move.startsPass] at starts
  obtain ⟨entry, stored, delivered⟩ := hostWrite_delivered_once wrote
  have itsEntry := Option.some.inj (held.symm.trans stored)
  have once : DeliversOnce defined key entry (.int 7) cell := by
    refine (delivered waiting spared awaits).2 cell ?_
    rw [← itsEntry]
    decide
  refine ⟨wrote, spared, awaits, entry, stored, once, by decide, ?_⟩
  obtain ⟨last, isLast, own, content⟩ := once.holds
  have itsKey : (Delivery.lastTo? defined.owed cell).map Delivery.key = some key := by decide
  rw [isLast, Option.map_some, Option.some.injEq] at itsKey
  rw [content (by decide), own itsKey]

end Session

end SharedBindings
