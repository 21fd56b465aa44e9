import SharedBindings.Proofs.Registry.Roster
import SharedBindings.Proofs.Session.Retention

/-!
# What acts do to handles

Operations of a host and single edits alike do one of three things to the entries of a registry: they
carry all of them on, in their order and under their handles; they remove one; or they write through a
handle. So a handle stays under its key until the key is removed, and what stays keeps its order.
-/

namespace SharedBindings

namespace Registry

/-- All entries are carried on, in their order and under their handles, and none is released. -/
structure Carries (before after : Registry) : Prop where
  booked : after.Booked
  rows : before.rows <+: after.rows
  released : after.released = before.released

variable {registry before after first second third : Registry} {key : Key} {handle : Handle}

theorem mem_rows_iff : (key, handle) ∈ registry.rows ↔ registry.handle? key = some handle := by
  rw [rows, handle?, List.mem_map, Option.map_eq_some_iff]
  constructor
  · rintro ⟨pair, member, same⟩
    cases same
    exact ⟨pair.2, OrderedMap.mem_entries_iff.mp member, rfl⟩
  · rintro ⟨entry, stored, rfl⟩
    exact ⟨(key, entry), mem_entries_of_entryAt? stored, rfl⟩

theorem rows_eq_filterMap (registry : Registry) :
    registry.rows =
      registry.entries.keys.filterMap fun key => (registry.handle? key).map (Prod.mk key) := by
  rw [OrderedMap.keys, List.filterMap_map, rows, ← List.filterMap_eq_map]
  refine List.filterMap_congr fun pair member => ?_
  have stored : registry.entryAt? pair.1 = some pair.2 := OrderedMap.mem_entries_iff.mp member
  simp [handle?, stored]

theorem rows_prefix (keys : before.entries.keys <+: after.entries.keys)
    (handles : ∀ key ∈ before.entries.keys, after.handle? key = before.handle? key) :
    before.rows <+: after.rows := by
  obtain ⟨fresh, split⟩ := keys
  rw [rows_eq_filterMap, rows_eq_filterMap, ← split, List.filterMap_append]
  refine ⟨_, congrArg (· ++ _) (List.filterMap_congr fun key member => ?_)⟩
  rw [handles key member]

theorem Carries.refl (booked : registry.Booked) : Carries registry registry :=
  ⟨booked, List.prefix_rfl, rfl⟩

theorem Carries.trans (early : Carries first second) (late : Carries second third) :
    Carries first third :=
  ⟨late.booked, early.rows.trans late.rows, late.released.trans early.released⟩

theorem Observes.carries (observes : before.Observes after) (booked : after.Booked) :
    Carries before after where
  booked := booked
  rows := by
    refine rows_prefix observes.keys fun key member => ?_
    obtain ⟨entry, stored⟩ := Option.isSome_iff_exists.mp (OrderedMap.lookup_isSome_iff.mpr member)
    obtain ⟨binding, kept, _⟩ := observes.held stored
    rw [handle?, kept, handle?, show before.entryAt? key = some entry from stored]
    rfl
  released := observes.released

theorem Booked.carries_changeAt (booked : registry.Booked) (key : Key)
    (update : Binding → Binding) : Carries registry (registry.changeAt key update) where
  booked := booked.changeAt update key
  rows := by simp only [rows_changeAt, List.prefix_rfl]
  released := rfl

theorem Booked.carries_upsert (booked : registry.Booked) (binding : Binding) :
    Carries registry (registry.upsert binding).2 where
  booked := booked.upsert binding
  rows := by
    cases stored : registry.entryAt? binding.key with
    | some entry =>
        simp only [Registry.upsert, stored, rows_changeAt, List.prefix_rfl]
    | none =>
        rw [rows, rows]
        simp only [Registry.upsert, stored, OrderedMap.entries_insert_of_absent _ stored,
          List.map_append]
        exact List.prefix_append _ _
  released := by
    unfold Registry.upsert
    split <;> rfl

end Registry

namespace Session

/-- Anything that can be done with a registry. -/
inductive Act where
  | operate (operation : Operation)
  | edit (edit : Edit)
  /-- From now on the registry is used with another guest, and with another generation. -/
  | meet (guest : Guest) (generation : Generation)
deriving DecidableEq

def act (session : Session) : Act → Outcome × Session
  | .operate operation => session.perform operation
  | .edit edit => session.performEdit edit
  | .meet guest generation => (.done, { session with guest, generation })

def actAll (session : Session) : List Act → List Outcome × Session
  | [] => ([], session)
  | first :: rest =>
      let (outcome, next) := session.act first
      let (outcomes, last) := next.actAll rest
      (outcome :: outcomes, last)

/-- The key that a name leads to, if it is a name at all. -/
def keyOf? (session : Session) (receiver : Scope) (name : String) : Option Key :=
  match session.classify name with
  | .ok kind => some (session.keyFor kind receiver name)
  | .error _ => none

/-- The key that an act is to take out of the registry. -/
def removes? (session : Session) : Act → Option Key
  | .operate (.remove receiver name) => session.keyOf? receiver name
  | .edit (.discard key) => some key
  | .edit (.drop _ key) => some key
  | _ => none

def removedKeys (session : Session) : List Act → List Key
  | [] => []
  | first :: rest => (session.removes? first).toList ++ (session.act first).2.removedKeys rest

/-- The handle through which an act writes. -/
def Act.writes? : Act → Option Handle
  | .operate (.writeHeld handle _) => some handle
  | .edit (.replaceHeld handle _) => some handle
  | _ => none

/-- What an act does to the entries of the registry. -/
inductive Treats (session : Session) (act : Act) : Prop
  | carries (keeps : session.removes? act = none) (silent : act.writes? = none)
      (carried : session.registry.Carries (session.act act).2.registry)
  | removes {key : Key} (removed : session.removes? act = some key) (silent : act.writes? = none)
      (left : (session.act act).2.registry = (session.registry.remove key).2)
  | writes {handle : Handle} {update : Binding → Binding} (keeps : session.removes? act = none)
      (written : act.writes? = some handle)
      (left : (session.act act).2.registry = session.registry.changeHeld handle update)

variable {session : Session} {key : Key} {handle : Handle} {entry : Entry}

theorem carries_deliverAll (booked : session.registry.Booked) (keys : List Key) :
    session.registry.Carries (session.deliverAll keys).2.registry := by
  induction keys generalizing session with
  | nil => exact .refl booked
  | cons key rest ih =>
      rw [deliverAll]
      cases delivered : session.deliver? key with
      | none => exact ih booked
      | some next =>
          obtain ⟨binding, value, cell, _, _, _, _, rfl⟩ := deliver?_eq_some_iff.mp delivered
          have carried : session.registry.Carries (session.deliver key binding value cell).registry :=
            booked.carries_changeAt key _
          exact carried.trans (ih carried.booked)

theorem carries_injectPending (booked : session.registry.Booked) :
    session.registry.Carries session.injectPending.2.registry := by
  rw [injectPending, injectEach_eq_deliverAll]
  exact carries_deliverAll booked _

theorem carries_putKind (booked : session.registry.Booked) (kind : Kind) (receiver : Scope)
    (name : String) (value : Value) :
    session.registry.Carries (session.perform (.putKind kind receiver name value)).2.registry := by
  rcases session.registry_putKind kind receiver name value with
    same | same | ⟨binding, _, _, same⟩
  · rw [same]
    exact .refl booked
  · rw [same]
    exact booked.carries_changeAt _ _
  · rw [same]
    exact booked.carries_upsert binding

theorem carries_of_mayPull {receiver : Scope} {name : String} {operation : Operation}
    (booked : session.registry.Booked) (mayPull : session.MayPull receiver name operation) :
    session.registry.Carries (session.perform operation).2.registry := by
  rcases mayPull with same | ⟨kind, _, same⟩
  · rw [same]
    exact .refl booked
  · rw [same]
    exact (session.registry.observes_pull _ _ _ _).carries (booked.pull name)

theorem treats_operate (booked : session.registry.Booked) (operation : Operation) :
    session.Treats (.operate operation) := by
  cases operation with
  | put receiver name value =>
      refine .carries rfl rfl ?_
      change session.registry.Carries (session.perform _).2.registry
      cases classified : session.classify name with
      | error problem =>
          rw [perform_put_of_error session classified]
          exact .refl booked
      | ok kind =>
          rw [perform_put_of_ok session classified]
          exact carries_putKind booked kind receiver name value
  | putKind kind receiver name value =>
      exact .carries rfl rfl (carries_putKind booked kind receiver name value)
  | get receiver name =>
      exact .carries rfl rfl (carries_of_mayPull booked (session.mayPull_get receiver name))
  | handleAt receiver name =>
      exact .carries rfl rfl (carries_of_mayPull booked (session.mayPull_handleAt receiver name))
  | refresh receiver name =>
      exact .carries rfl rfl (carries_of_mayPull booked (session.mayPull_refresh receiver name))
  | remove receiver name =>
      cases classified : session.classify name with
      | error problem =>
          have keeps : session.removes? (.operate (.remove receiver name)) = none := by
            simp only [removes?, keyOf?, classified]
          refine .carries keeps rfl ?_
          rw [act, perform_remove_of_error session classified]
          exact .refl booked
      | ok kind =>
          have removed : session.removes? (.operate (.remove receiver name)) =
              some (session.keyFor kind receiver name) := by
            simp only [removes?, keyOf?, classified]
          refine .removes removed rfl ?_
          rw [act, perform_remove_of_ok session classified, registry_drop]
  | injectPending =>
      refine .carries rfl rfl ?_
      rw [act, perform_injectPending]
      exact carries_injectPending booked
  | resync receiver =>
      exact .carries rfl rfl ((session.registry.observes_resync _ receiver).carries booked.resync)
  | runUnit receiver steps =>
      have injected := carries_injectPending booked
      refine .carries rfl rfl (injected.trans ?_)
      rw [act, perform_runUnit]
      generalize session.injectPending.2 = ready at injected
      generalize (ready.guest.performAll steps).2 = ended
      exact (ready.registry.observes_resync ended receiver).carries injected.booked.resync
  | touch step => exact .carries rfl rfl (.refl booked)
  | writeHeld handle value => exact .writes rfl rfl rfl

theorem treats_edit (booked : session.registry.Booked) (edit : Edit) :
    session.Treats (.edit edit) := by
  cases edit with
  | upsert binding => exact .carries rfl rfl (booked.carries_upsert binding)
  | discard key => exact .removes rfl rfl rfl
  | drop kind key => exact .removes rfl rfl (session.registry_drop kind key)
  | inject kind => exact .carries rfl rfl (carries_deliverAll booked _)
  | resyncKind receiver kind =>
      exact .carries rfl rfl
        ((session.registry.observes_resyncKind _ receiver kind).carries booked.resyncKind)
  | pull receiver kind name =>
      exact .carries rfl rfl
        ((session.registry.observes_pull _ receiver kind name).carries (booked.pull name))
  | bump => exact .carries rfl rfl (.refl booked)
  | replaceHeld handle binding => exact .writes rfl rfl rfl

theorem treats_act (booked : session.registry.Booked) (act : Act) : session.Treats act := by
  cases act with
  | operate operation => exact treats_operate booked operation
  | edit edit => exact treats_edit booked edit
  | meet guest generation => exact .carries rfl rfl (.refl booked)

theorem booked_act (booked : session.registry.Booked) (act : Act) :
    (session.act act).2.registry.Booked := by
  cases treats_act booked act with
  | carries _ _ carried => exact carried.booked
  | removes _ _ left =>
      rw [left]
      exact booked.remove _
  | writes _ _ left =>
      rw [left]
      exact booked.changeHeld _ _

theorem booked_actAll (booked : session.registry.Booked) (acts : List Act) :
    (session.actAll acts).2.registry.Booked := by
  induction acts generalizing session with
  | nil => exact booked
  | cons first rest ih => exact ih (booked_act booked first)

/-- The rows of what no act removes stay, in their order. -/
theorem rows_sublist_actAll (booked : session.registry.Booked) (acts : List Act) :
    (session.registry.rows.filter fun row => row.1 ∉ session.removedKeys acts).Sublist
      (session.actAll acts).2.registry.rows := by
  induction acts generalizing session with
  | nil => exact List.filter_sublist
  | cons first rest ih =>
      -- What is not removed later on either is among the rows of the session after the first act.
      have later := ih (booked_act booked first)
      refine List.Sublist.trans ?_ later
      cases treats_act booked first with
      | carries keeps _ carried =>
          simp only [removedKeys, keeps, Option.toList_none, List.nil_append]
          exact carried.rows.sublist.filter _
      | removes removed _ left =>
          simp only [removedKeys, removed, Option.toList_some, List.singleton_append, left,
            Registry.rows_remove, List.filter_filter, List.mem_cons, not_or, ne_eq,
            Bool.decide_and, Bool.and_comm, List.Sublist.refl]
      | writes keeps _ left =>
          simp only [removedKeys, keeps, Option.toList_none, List.nil_append, left,
            Registry.rows_changeHeld, List.Sublist.refl]

theorem handle?_actAll (booked : session.registry.Booked) {acts : List Act}
    (registered : session.registry.handle? key = some handle)
    (kept : key ∉ session.removedKeys acts) :
    (session.actAll acts).2.registry.handle? key = some handle := by
  rw [← Registry.mem_rows_iff] at registered ⊢
  exact (rows_sublist_actAll booked acts).subset
    (List.mem_filter.mpr ⟨registered, decide_eq_true kept⟩)

/-! ## What acts return -/

/-- The key whose handle an act that keeps all keys is to return. -/
def asks? (session : Session) : Act → Option Key
  | .operate (.put receiver name _) => session.keyOf? receiver name
  | .operate (.putKind kind receiver name _) => some (session.keyFor kind receiver name)
  | .operate (.handleAt receiver name) =>
      match session.classify name with
      | .ok kind => (session.locate kind receiver name).1
      | .error _ => none
  | .operate (.refresh receiver name) =>
      match session.classify name with
      | .ok kind => (session.pull receiver kind name).1
      | .error _ => none
  | .edit (.upsert binding) => some binding.key
  | .edit (.pull receiver kind name) => (session.pull receiver kind name).1
  | _ => none

theorem handle?_of_returned_putKind {kind : Kind} {receiver : Scope} {name : String} {value : Value}
    (returned : (session.perform (.putKind kind receiver name value)).1 = .handle (some handle)) :
    (session.perform (.putKind kind receiver name value)).2.registry.handle?
      (session.keyFor kind receiver name) = some handle := by
  by_cases accepted : kind.accepts name = true
  · obtain ⟨registry, put, entries⟩ := session.putKind_of_accepts receiver value accepted
    simp only [perform, put, orRefuse, Outcome.handle.injEq, Option.some.injEq] at returned ⊢
    rw [Registry.handle?, entries, if_pos rfl, ← returned]
    rfl
  · simp [perform, session.putKind_of_refused receiver value accepted, orRefuse] at returned

/-- A handle that an act returns is registered under the key that was asked for. -/
theorem handle?_of_returned {act : Act} (keeps : session.removes? act = none)
    (returned : (session.act act).1 = .handle (some handle)) :
    ∃ key, session.asks? act = some key ∧
      (session.act act).2.registry.handle? key = some handle := by
  cases act with
  | meet guest generation => contradiction
  | operate operation =>
      cases operation with
      | put receiver name value =>
          cases classified : session.classify name with
          | error problem => simp [act, perform, put, classified, orRefuse] at returned
          | ok kind =>
              rw [act, perform_put_of_ok session classified] at returned ⊢
              refine ⟨_, ?_, handle?_of_returned_putKind returned⟩
              simp only [asks?, keyOf?, classified]
      | putKind kind receiver name value => exact ⟨_, rfl, handle?_of_returned_putKind returned⟩
      | handleAt receiver name =>
          cases classified : session.classify name with
          | error problem => simp [act, perform, handleAt, classified, orRefuse] at returned
          | ok kind =>
              simp only [act, perform, handleAt, classified, orRefuse, Outcome.handle.injEq,
                asks?] at returned ⊢
              exact Option.bind_eq_some_iff.mp returned
      | refresh receiver name =>
          cases classified : session.classify name with
          | error problem => simp [act, perform, refresh, classified, orRefuse] at returned
          | ok kind =>
              simp only [act, perform, refresh, classified, orRefuse, Outcome.handle.injEq,
                asks?] at returned ⊢
              exact Option.bind_eq_some_iff.mp returned
      | remove receiver name =>
          cases classified : session.classify name with
          | error problem => simp [act, perform, remove, classified, orRefuse] at returned
          | ok kind => simp [removes?, keyOf?, classified] at keeps
      | get receiver name =>
          simp only [act, perform] at returned
          cases answer : session.get receiver name <;> simp [answer, orRefuse] at returned
      | injectPending | resync | runUnit | touch | writeHeld => simp [act, perform] at returned
  | edit edit =>
      cases edit with
      | upsert binding =>
          simp only [act, performEdit, Outcome.handle.injEq, Option.some.injEq] at returned
          refine ⟨binding.key, rfl, ?_⟩
          rw [act, performEdit, Registry.handle?, Registry.entryAt?_upsert, Option.map_some, returned]
      | pull receiver kind name =>
          simp only [act, performEdit, Outcome.handle.injEq] at returned
          exact Option.bind_eq_some_iff.mp returned
      | discard | drop => simp [removes?] at keeps
      | inject | resyncKind | bump | replaceHeld => simp [act, performEdit] at returned

/-- An act that removes a registered key returns its handle. -/
theorem returned_of_removes {act : Act} (removed : session.removes? act = some key)
    (stored : session.registry.entryAt? key = some entry) :
    (session.act act).1 = .handle (some entry.handle) := by
  cases act with
  | meet guest generation => contradiction
  | operate operation =>
      cases operation with
      | remove receiver name =>
          cases classified : session.classify name with
          | error problem => simp [removes?, keyOf?, classified] at removed
          | ok kind =>
              simp only [removes?, keyOf?, classified, Option.some.injEq] at removed
              subst removed
              simp only [act, perform, remove, classified, orRefuse, drop, Registry.remove, stored]
      | put | putKind | get | handleAt | refresh | injectPending | resync | runUnit | touch
      | writeHeld => contradiction
  | edit edit =>
      cases edit with
      | discard other =>
          obtain rfl : other = key := Option.some.inj removed
          simp only [act, performEdit, Registry.remove, stored, Option.map_some]
      | drop kind other =>
          obtain rfl : other = key := Option.some.inj removed
          simp only [act, performEdit, drop, Registry.remove, stored]
      | upsert | inject | resyncKind | pull | bump | replaceHeld => contradiction

/-! ## What acts leave of the released -/

theorem mem_released_act (booked : session.registry.Booked) {act : Act}
    (unwritten : act.writes? ≠ some entry.handle) (member : entry ∈ session.registry.released) :
    entry ∈ (session.act act).2.registry.released := by
  cases treats_act booked act with
  | carries _ _ carried =>
      rw [carried.released]
      exact member
  | @removes key _ _ left =>
      rw [left, Registry.remove]
      split
      · exact member
      · exact List.mem_append_left _ member
  | @writes handle update _ written left =>
      have apart : entry.handle ≠ handle := fun same => unwritten (same ▸ written)
      rw [left, Registry.changeHeld]
      exact List.mem_map.mpr ⟨entry, member, if_neg apart⟩

theorem mem_released_actAll (booked : session.registry.Booked) {acts : List Act}
    (unwritten : ∀ act ∈ acts, act.writes? ≠ some entry.handle)
    (member : entry ∈ session.registry.released) :
    entry ∈ (session.actAll acts).2.registry.released := by
  induction acts generalizing session with
  | nil => exact member
  | cons first rest ih =>
      have next := mem_released_act booked (unwritten first List.mem_cons_self) member
      exact ih (booked_act booked first) (fun act later => unwritten act (List.mem_cons_of_mem _ later))
        next

theorem handle_released_act (booked : session.registry.Booked) (act : Act)
    (member : handle ∈ session.registry.released.map Entry.handle) :
    handle ∈ (session.act act).2.registry.released.map Entry.handle := by
  cases treats_act booked act with
  | carries _ _ carried =>
      rw [carried.released]
      exact member
  | @removes key _ _ left =>
      rw [left, Registry.remove]
      split
      · exact member
      · rw [List.map_append]
        exact List.mem_append_left _ member
  | @writes other update _ _ left =>
      rw [left, Registry.map_handle_released_changeHeld]
      exact member

theorem handle_released_actAll (booked : session.registry.Booked) (acts : List Act)
    (member : handle ∈ session.registry.released.map Entry.handle) :
    handle ∈ (session.actAll acts).2.registry.released.map Entry.handle := by
  induction acts generalizing session with
  | nil => exact member
  | cons first rest ih => exact ih (booked_act booked first) (handle_released_act booked first member)

end Session

end SharedBindings
