import SharedBindings.Proofs.Session.Coherence
import SharedBindings.Proofs.Session.HostWrites
import SharedBindings.Proofs.Session.Predefined
import SharedBindings.Proofs.Session.Undoing

/-!
# Removal is confined

A drop takes one entry out of the registry and at most one cell out of the guest: a cell of the kind
that is dropped, under the name that the guest has for it. What the guest never held has no cell, even
if guest code came to the same name by itself.
-/

namespace SharedBindings

namespace Session

variable {session : Session} {kind : Kind} {key : Key} {entry : Entry} {operation : Operation}

/-- All that a drop does: one entry and at most one cell go. -/
structure Confined (kind : Kind) (key : Key) (lost : Option Cell) (before after : Session) :
    Prop where
  /-- The other entries keep their handles, their bindings and their order. -/
  entries : after.registry.entries.entries =
    before.registry.entries.entries.filter fun pair => pair.1 ≠ key
  /-- The cell has the dropped name in a table of the kind, and held something. -/
  place : ∀ cell, lost = some cell →
    (∃ scope, cell.place = kind.place scope) ∧ cell.name = kind.guestName key.name ∧
      before.guest.content cell ≠ none
  guest : after.guest = lost.elim before.guest before.guest.erase
  contents : ∀ cell,
    after.guest.content cell = if lost = some cell then none else before.guest.content cell
  names : ∀ place, after.guest.names place =
    (before.guest.names place).filter fun name => lost ≠ some ⟨place, name⟩
  bumped : (∃ cell, lost = some cell ∧ cell.IsConstant) →
    after.generation.count = before.generation.count + 1
  unbumped : (∀ cell, lost = some cell → ¬ cell.IsConstant) →
    after.generation = before.generation

theorem confined_drop (session : Session) (kind : Kind) (key : Key) :
    Confined (session.droppedKind kind key) key
      ((session.dropPath kind key).find? fun cell => (session.guest.content cell).isSome)
      session (session.drop kind key).2 := by
  rw [drop_eq]
  simp only [undefine, Guest.eraseFirst_eq]
  cases found : (session.dropPath kind key).find? fun cell => (session.guest.content cell).isSome with
  | none =>
      constructor
      case entries => exact congrArg OrderedMap.entries (session.registry.entries_remove key)
      case place =>
        intro _ lost
        contradiction
      case guest => rfl
      case contents => exact fun _ => rfl
      case names => exact fun place => (List.filter_eq_self.mpr fun _ _ => rfl).symm
      case bumped =>
        rintro ⟨_, lost, _⟩
        contradiction
      case unbumped => exact fun _ => rfl
  | some lost =>
      obtain ⟨scope, itsCell⟩ := cell_of_mem_dropPath (List.mem_of_find?_eq_some found)
      have constant := (session.droppedKind kind key).isConstant_cell scope key.name
      rw [← itsCell] at constant
      constructor
      case entries => exact congrArg OrderedMap.entries (session.registry.entries_remove key)
      case place =>
        rintro cell ⟨⟩
        have held := List.find?_some found
        exact ⟨⟨scope, itsCell ▸ rfl⟩, itsCell ▸ rfl, Option.isSome_iff_ne_none.mp held⟩
      case guest => rfl
      case contents =>
        intro cell
        rw [Option.elim_some, Guest.content_erase]
        simp only [Option.some.injEq, eq_comm]
      case names =>
        intro place
        rw [Option.elim_some, Guest.names_erase]
        simp only [ne_eq, Option.some.injEq]
      case bumped =>
        rintro ⟨cell, ⟨⟩, isConstant⟩
        rw [Option.isSome_some, Bool.true_and, constant.mp isConstant]
        rfl
      case unbumped =>
        intro plain
        have uncached : (session.droppedKind kind key).isCached = false := by
          simpa [constant] using plain lost rfl
        rw [uncached]
        rfl

/-- The binding at a key was made by a host write, and no pass has delivered it since. -/
inductive Unheld (key : Key) : Session → Prop
  | made {session : Session} {operation : Operation} {value : Value} (reached : Reachable session)
      (absent : session.registry.entryAt? key = none)
      (wrote : session.HostWrites key value operation) : Unheld key (session.perform operation).2
  | kept {session : Session} {operation : Operation} (unheld : Unheld key session)
      (undropped : ¬ session.Drops key operation)
      (undelivered : (Move.operate operation).startsPass = true → session.owedAt? key = none) :
      Unheld key (session.perform operation).2
  | share {session : Session} (unheld : Unheld key session) (generation : Generation) :
      Unheld key { session with generation }

/-- An operation that makes a binding writes it from the host's side, or has found it in the guest. -/
theorem made_cases (absent : session.registry.entryAt? key = none)
    (stored : (session.perform operation).2.registry.entryAt? key = some entry) :
    (∃ value, session.HostWrites key value operation ∧ entry.binding.guestValue? = none) ∨
      entry.binding.FoundAt key := by
  have put {kind : Kind} {receiver : Scope} {name : String} {value : Value}
      (stored : (session.perform (.putKind kind receiver name value)).2.registry.entryAt? key =
        some entry) :
      kind.accepts name = true ∧ session.keyFor kind receiver name = key ∧
        entry.binding.guestValue? = none := by
    obtain ⟨_, accepted, itsKey⟩ := puts_of_made_putKind absent stored
    obtain ⟨registry, written, entries⟩ := session.putKind_of_accepts receiver value accepted
    simp only [perform, written, orRefuse, entries, itsKey, if_pos, putEntry, absent,
      Option.some.injEq] at stored
    exact ⟨accepted, itsKey, stored ▸ rfl⟩
  cases operation with
  | put receiver name value =>
      cases classified : session.classify name with
      | error problem =>
          rw [perform_put_of_error session classified] at stored
          cases absent.symm.trans stored
      | ok kind =>
          rw [perform_put_of_ok session classified] at stored
          obtain ⟨_, itsKey, unseen⟩ := put stored
          exact .inl ⟨value, ⟨rfl, kind, classified, itsKey⟩, unseen⟩
  | putKind kind receiver name value =>
      obtain ⟨accepted, itsKey, unseen⟩ := put stored
      exact .inl ⟨value, ⟨rfl, accepted, itsKey⟩, unseen⟩
  | get receiver name =>
      exact .inr ((session.onlyObserved_get receiver name).registry.found absent stored).2
  | handleAt receiver name =>
      exact .inr ((session.onlyObserved_handleAt receiver name).registry.found absent stored).2
  | refresh receiver name =>
      exact .inr ((session.onlyObserved_refresh receiver name).registry.found absent stored).2
  | remove receiver name =>
      cases classified : session.classify name with
      | error problem =>
          rw [perform_remove_of_error session classified] at stored
          cases absent.symm.trans stored
      | ok kind =>
          rw [perform_remove_of_ok session classified, registry_drop, Registry.entryAt?_remove,
            absent, ite_self] at stored
          contradiction
  | injectPending =>
      rw [perform_injectPending, entryAt?_injectPending, absent] at stored
      contradiction
  | resync receiver =>
      exact .inr ((session.onlyObserved_resync receiver).registry.found absent stored).2
  | runUnit receiver steps =>
      have missing : session.injectPending.2.registry.entryAt? key = none := by
        rw [entryAt?_injectPending, absent, Option.map_none]
      obtain ⟨_, _, observed⟩ := session.observed_runUnit receiver steps
      exact .inr (observed.found missing stored).2
  | touch step => cases absent.symm.trans stored
  | writeHeld handle value =>
      change (session.registry.changeHeld handle _).entryAt? key = _ at stored
      rw [Registry.entryAt?_changeHeld, absent] at stored
      contradiction

/-- The host alone has ever had a word in the binding. -/
theorem Unheld.exists_entry (unheld : Unheld key session) :
    ∃ entry, session.registry.entryAt? key = some entry ∧ entry.binding.isPending = true ∧
      entry.binding.guestValue? = none := by
  induction unheld with
  | made _ absent wrote =>
      obtain ⟨entry, stored, pending, _⟩ := entryAt?_of_hostWrites wrote
      refine ⟨entry, stored, pending, ?_⟩
      rcases made_cases absent stored with ⟨_, _, unseen⟩ | ⟨_, value, found⟩
      · exact unseen
      · rw [found] at pending
        contradiction
  | kept _ undropped undelivered ih =>
      obtain ⟨entry, stored, pending, unseen⟩ := ih
      obtain ⟨binding, kept, ⟨value, _, rfl⟩ | seen⟩ := exists_entry_perform stored undropped
      · exact ⟨_, kept, rfl, unseen⟩
      · have same : binding = entry.binding := by
          split at seen
          · rename_i starts
            rw [undelivered starts] at seen
            exact seen.eq_of_pending pending
          · exact seen.eq_of_pending pending
        exact ⟨_, kept, same ▸ pending, same ▸ unseen⟩
  | share _ _ ih => exact ih

/-- `Unheld` misses none of the bindings without a value of the guest. -/
theorem Reachable.unheld_iff (reached : Reachable session) :
    Unheld key session ↔ ∃ entry, session.registry.entryAt? key = some entry ∧
      entry.binding.guestValue? = none := by
  constructor
  · intro unheld
    obtain ⟨entry, stored, _, unseen⟩ := unheld.exists_entry
    exact ⟨entry, stored, unseen⟩
  · rintro ⟨entry, stored, unseen⟩
    induction reached generalizing entry with
    | start guest settings generation => contradiction
    | share _ generation ih => exact (ih entry stored unseen).share generation
    | @perform session reached operation ih =>
        cases before : session.registry.entryAt? key with
        | none =>
            rcases made_cases before stored with ⟨value, wrote, _⟩ | ⟨_, value, found⟩
            · exact .made reached before wrote
            · rw [found] at unseen
              contradiction
        | some earlier =>
            have undropped : ¬ session.Drops key operation := fun dropped =>
              nomatch (absent_of_drops dropped).symm.trans stored
            obtain ⟨binding, kept, change⟩ := exists_entry_perform before undropped
            obtain rfl : entry = ⟨earlier.handle, binding⟩ := Option.some.inj (stored.symm.trans kept)
            rcases change with ⟨value, wrote, rfl⟩ | seen
            · refine .kept (ih earlier before unseen) undropped fun starts => ?_
              rw [startsPass_of_hostWrites wrote] at starts
              contradiction
            · have same := seen.eq_of_unseen unseen
              split at same
              · rename_i starts
                cases owes : session.owedAt? key with
                | some delivery =>
                    have valued := value?_of_owedAt? (Registry.binding?_of_entryAt? before) owes
                    rw [owes, Binding.settledBy, Binding.delivered_of_valued valued] at same
                    rw [same] at unseen
                    contradiction
                | none =>
                    have unchanged : binding = earlier.binding := by rw [same, owes]; rfl
                    exact .kept (ih earlier before (unchanged ▸ unseen)) undropped fun _ => owes
              · rename_i silent
                refine .kept (ih earlier before (same ▸ unseen)) undropped fun starts => ?_
                exact absurd starts silent

theorem dropPath_of_unheld (unheld : Unheld key session) : session.dropPath kind key = [] := by
  obtain ⟨entry, stored, _, unseen⟩ := unheld.exists_entry
  simp only [dropPath, Registry.binding?_of_entryAt? stored, Binding.removalPath, unseen]

/-- Whatever is dropped, it is confined to its entry and to one cell; and what the guest never held has
no cell to lose. -/
theorem removal_confined (session : Session) (kind : Kind) (key : Key) :
    (∃ lost, Confined (session.droppedKind kind key) key lost session (session.drop kind key).2) ∧
      (Unheld key session →
        (session.drop kind key).2.guest = session.guest ∧
          (session.drop kind key).2.generation = session.generation) := by
  refine ⟨⟨_, session.confined_drop kind key⟩, fun unheld => ?_⟩
  rw [drop_eq, dropPath_of_unheld unheld]
  exact ⟨rfl, rfl⟩

/-- The scope above the top level has the name of a constant that waits under a reserved module. Its
removal would find that one, had the guest ever held the constant. -/
theorem waiting_constant_leaves_no_trace :
    let key : Key := ⟨⟨2⟩, "MAX"⟩
    let shown := Kind.constant.cell ⟨0⟩ "MAX"
    let begun : Session := start ((Guest.fresh.addModule "Foo" false).2.write shown (.int 8)) {}
    let session := ((begun.perform (.put ⟨2⟩ "MAX" (.int 7))).2.perform (.runUnit ⟨2⟩ [])).2
    Unheld key session ∧ shown ∈ session.guest.removalPath .constant ⟨2⟩ "MAX" none ∧
      (session.drop .constant key).1.isSome = true ∧
      (session.drop .constant key).2.guest = session.guest ∧
      (session.drop .constant key).2.generation = session.generation := by
  intro key shown begun session
  have wrote : begun.HostWrites key (.int 7) (.put ⟨2⟩ "MAX" (.int 7)) := by decide
  have made : Unheld key (begun.perform (.put ⟨2⟩ "MAX" (.int 7))).2 :=
    .made (.start _ {} .start) (by decide) wrote
  have unheld : Unheld key session := made.kept (by decide) fun _ => by decide
  exact ⟨unheld, by decide, by decide, (removal_confined session .constant key).2 unheld⟩

end Session

end SharedBindings
