import SharedBindings.Proofs.Resync.Sightings
import SharedBindings.Proofs.Session.Operations

/-!
# What happens to one binding

A host can write a binding, drop it, or put another one in its place. `Session.Spares` excludes
these three for one key. Of everything else that a session can do, only a delivery takes the word
from the host; all the rest does no more to the binding than a sighting does.
-/

namespace SharedBindings

namespace Registry

/-- The entry at a key stays, under its handle, and nothing but sightings happens to its binding. -/
structure Retains (key : Key) (before after : Registry) : Prop where
  held : ∀ {entry}, before.entryAt? key = some entry →
    ∃ binding, after.entryAt? key = some ⟨entry.handle, binding⟩ ∧ entry.binding.SeenAs binding

variable {key : Key} {before after : Registry}

theorem Retains.of_eq (same : after.entryAt? key = before.entryAt? key) :
    Retains key before after where
  held {entry} stored := ⟨entry.binding, same.trans stored, .refl _⟩

variable (registry : Registry)

theorem entryAt?_pull_other {guest : Guest} {receiver : Scope} {kind : Kind} {name : String}
    (different : key.name ≠ name) :
    (registry.pull guest receiver kind name).2.entryAt? key = registry.entryAt? key := by
  unfold pull
  split
  · split
    · rename_i isArguments
      exact registry.entryAt?_observeArguments_of_plain (isArguments ▸ different)
    · cases guest.readFirst (guest.searchPath kind receiver name) with
      | none => rfl
      | some value => exact registry.entryAt?_observe_other fun same => different (same ▸ rfl)
  · rfl

theorem retains_changeHeld {handle : Handle} (update : Binding → Binding)
    (other : registry.handle? key ≠ some handle) :
    Retains key registry (registry.changeHeld handle update) := by
  apply Retains.of_eq
  rw [entryAt?_changeHeld]
  cases stored : registry.entryAt? key with
  | none => rfl
  | some entry =>
      have apart : entry.handle ≠ handle := fun same =>
        other (by rw [handle?, stored, ← same]; rfl)
      simp [apart]

end Registry

namespace Session

/-- The operation would write a value to the binding at a key, from the host's side. -/
def HostWrites (session : Session) (key : Key) (value : Value) : Operation → Prop
  | .put receiver name written =>
      written = value ∧
        ∃ kind, session.classify name = .ok kind ∧ session.keyFor kind receiver name = key
  | .putKind kind receiver name written =>
      written = value ∧ kind.accepts name = true ∧ session.keyFor kind receiver name = key
  | .writeHeld handle written => written = value ∧ session.registry.handle? key = some handle
  | _ => False

def Drops (session : Session) (key : Key) : Operation → Prop
  | .remove receiver name =>
      ∃ kind, session.classify name = .ok kind ∧ session.keyFor kind receiver name = key
  | _ => False

instance (session : Session) (name : String) (fits : Kind → Prop) [DecidablePred fits] :
    Decidable (∃ kind, session.classify name = .ok kind ∧ fits kind) :=
  match classified : session.classify name with
  | .ok kind => decidable_of_iff (fits kind) (by simp)
  | .error _ => .isFalse (by simp)

instance (session : Session) (key : Key) (value : Value) :
    DecidablePred (session.HostWrites key value)
  | .put _ _ _ | .putKind _ _ _ _ | .writeHeld _ _ => inferInstanceAs (Decidable (_ ∧ _))
  | .get _ _ | .handleAt _ _ | .refresh _ _ | .remove _ _ | .injectPending | .resync _
  | .runUnit _ _ | .touch _ => inferInstanceAs (Decidable False)

instance (session : Session) (key : Key) : DecidablePred (session.Drops key)
  | .remove _ name =>
      inferInstanceAs (Decidable (∃ kind, session.classify name = .ok kind ∧ _))
  | .put _ _ _ | .putKind _ _ _ _ | .writeHeld _ _ | .get _ _ | .handleAt _ _ | .refresh _ _
  | .injectPending | .resync _ | .runUnit _ _ | .touch _ => inferInstanceAs (Decidable False)

/-- What can come between a host write and its delivery: operations, and bindings put as a whole in
place of others. -/
inductive Move where
  | operate (operation : Operation)
  | replaceHeld (handle : Handle) (binding : Binding)
deriving DecidableEq

def move (session : Session) : Move → Session
  | .operate operation => (session.perform operation).2
  | .replaceHeld handle binding => (session.performEdit (.replaceHeld handle binding)).2

def moveAll (session : Session) (moves : List Move) : Session :=
  moves.foldl move session

/-- Injection is a move of its own and the first thing that happens in a unit. -/
def Move.startsPass : Move → Bool
  | .operate .injectPending => true
  | .operate (.runUnit _ _) => true
  | _ => false

/-- The move neither writes the binding at a key from the host's side, nor drops or replaces it. -/
def Spares (session : Session) (key : Key) : Move → Prop
  | .operate operation =>
      (∀ value, ¬ session.HostWrites key value operation) ∧ ¬ session.Drops key operation
  | .replaceHeld handle _ => session.registry.handle? key ≠ some handle

def SparesAll (session : Session) (key : Key) : List Move → Prop
  | [] => True
  | first :: rest => session.Spares key first ∧ (session.move first).SparesAll key rest

/-- No operation of a run drops the binding at a key. -/
def Undropped (session : Session) (key : Key) : List Operation → Prop
  | [] => True
  | first :: rest => ¬ session.Drops key first ∧ (session.perform first).2.Undropped key rest

theorem undropped_append (session : Session) (key : Key) (operations : List Operation)
    (last : Operation) :
    session.Undropped key (operations ++ [last]) ↔
      session.Undropped key operations ∧ ¬ (session.performAll operations).Drops key last := by
  induction operations generalizing session with
  | nil => simp [Undropped, performAll]
  | cons first rest ih => exact (and_congr_right fun _ => ih _).trans and_assoc.symm

variable (session : Session) {key : Key} {name : String} {kind : Kind} {value : Value}

theorem exists_entry_putKind {session : Session} {entry : Entry} {receiver : Scope}
    (stored : session.registry.entryAt? key = some entry) (value : Value)
    (accepted : kind.accepts name = true) :
    ∃ binding, (session.perform (.putKind kind receiver name value)).2.registry.entryAt? key =
        some ⟨entry.handle, binding⟩ ∧
      (session.keyFor kind receiver name = key ∧ binding = entry.binding.hostWrite value ∨
        entry.binding.SeenAs binding) := by
  obtain ⟨registry, put, entries⟩ := session.putKind_of_accepts receiver value accepted
  simp only [perform, put, orRefuse, entries]
  by_cases here : key = session.keyFor kind receiver name
  · subst here
    refine ⟨entry.binding.hostWrite value, ?_, .inl ⟨rfl, rfl⟩⟩
    rw [if_pos rfl, putEntry, stored]
    rfl
  · exact ⟨entry.binding, by rw [if_neg here, stored], .inr (.refl _)⟩

/-- An entry that is not dropped keeps its handle, and its binding is written by the host, or else is
delivered if a pass owes it, and seen. -/
theorem exists_entry_perform {session : Session} {entry : Entry} {operation : Operation}
    (stored : session.registry.entryAt? key = some entry)
    (undropped : ¬ session.Drops key operation) :
    ∃ binding, (session.perform operation).2.registry.entryAt? key = some ⟨entry.handle, binding⟩ ∧
      ((∃ value, session.HostWrites key value operation ∧
          binding = entry.binding.hostWrite value) ∨
        (if (Move.operate operation).startsPass then
            entry.binding.settledBy (session.owedAt? key)
          else entry.binding).SeenAs binding) := by
  cases operation with
  | put receiver name value =>
      cases classified : session.classify name with
      | error problem =>
          rw [perform_put_of_error session classified]
          exact ⟨entry.binding, stored, .inr (.refl _)⟩
      | ok kind =>
          obtain ⟨binding, kept, ⟨here, written⟩ | seen⟩ :=
            exists_entry_putKind stored value (session.accepts_of_classify classified)
          · rw [perform_put_of_ok session classified]
            exact ⟨binding, kept, .inl ⟨value, ⟨rfl, kind, classified, here⟩, written⟩⟩
          · rw [perform_put_of_ok session classified]
            exact ⟨binding, kept, .inr seen⟩
  | putKind kind receiver name value =>
      by_cases accepted : kind.accepts name = true
      · obtain ⟨binding, kept, ⟨here, written⟩ | seen⟩ :=
          exists_entry_putKind stored value accepted
        · exact ⟨binding, kept, .inl ⟨value, ⟨rfl, accepted, here⟩, written⟩⟩
        · exact ⟨binding, kept, .inr seen⟩
      · rw [perform_putKind_of_not_accepts session receiver accepted]
        exact ⟨entry.binding, stored, .inr (.refl _)⟩
  | get receiver name =>
      obtain ⟨binding, kept, seen⟩ := (session.onlyObserved_get receiver name).registry.held stored
      exact ⟨binding, kept, .inr seen⟩
  | handleAt receiver name =>
      obtain ⟨binding, kept, seen⟩ :=
        (session.onlyObserved_handleAt receiver name).registry.held stored
      exact ⟨binding, kept, .inr seen⟩
  | refresh receiver name =>
      obtain ⟨binding, kept, seen⟩ :=
        (session.onlyObserved_refresh receiver name).registry.held stored
      exact ⟨binding, kept, .inr seen⟩
  | remove receiver name =>
      refine ⟨entry.binding, ?_, .inr (.refl _)⟩
      cases classified : session.classify name with
      | error problem =>
          rw [perform_remove_of_error session classified]
          exact stored
      | ok kind =>
          have different : key ≠ session.keyFor kind receiver name := fun same =>
            undropped ⟨kind, classified, same.symm⟩
          rw [perform_remove_of_ok session classified, registry_drop, Registry.entryAt?_remove,
            if_neg different]
          exact stored
  | injectPending =>
      refine ⟨entry.binding.settledBy (session.owedAt? key), ?_, .inr (.refl _)⟩
      rw [perform_injectPending, entryAt?_injectPending, stored]
      rfl
  | resync receiver =>
      obtain ⟨binding, kept, seen⟩ := (session.onlyObserved_resync receiver).registry.held stored
      exact ⟨binding, kept, .inr seen⟩
  | runUnit receiver steps =>
      have injected : session.injectPending.2.registry.entryAt? key =
          some ⟨entry.handle, entry.binding.settledBy (session.owedAt? key)⟩ := by
        rw [entryAt?_injectPending, stored]
        rfl
      obtain ⟨_, _, observed⟩ := session.observed_runUnit receiver steps
      obtain ⟨binding, kept, seen⟩ := observed.held injected
      exact ⟨binding, kept, .inr seen⟩
  | touch step => exact ⟨entry.binding, stored, .inr (.refl _)⟩
  | writeHeld handle value =>
      change ∃ binding, (session.registry.changeHeld handle _).entryAt? key = _ ∧ _
      rw [Registry.entryAt?_changeHeld, stored, Option.map_some]
      by_cases held : entry.handle = handle
      · refine ⟨entry.binding.hostWrite value, by rw [if_pos held]; rfl, .inl ⟨value, ⟨rfl, ?_⟩, rfl⟩⟩
        rw [Registry.handle?, stored, ← held]
        rfl
      · exact ⟨entry.binding, by rw [if_neg held], .inr (.refl _)⟩

/-- What is not dropped keeps its handle, its key and its kind. -/
theorem exists_sameKind_perform {session : Session} {entry : Entry} {operation : Operation}
    (stored : session.registry.entryAt? key = some entry)
    (undropped : ¬ session.Drops key operation) :
    ∃ binding, (session.perform operation).2.registry.entryAt? key = some ⟨entry.handle, binding⟩ ∧
      binding.key = entry.binding.key ∧ binding.kind = entry.binding.kind := by
  obtain ⟨binding, kept, ⟨value, _, rfl⟩ | seen⟩ := exists_entry_perform stored undropped
  · exact ⟨_, kept, rfl, rfl⟩
  · refine ⟨binding, kept, ?_, ?_⟩
    · rw [seen.key]
      split <;> simp
    · rw [seen.kind]
      split <;> simp

theorem absent_of_drops {session : Session} {operation : Operation}
    (dropped : session.Drops key operation) :
    (session.perform operation).2.registry.entryAt? key = none := by
  cases operation with
  | remove receiver name =>
      obtain ⟨kind, classified, rfl⟩ := dropped
      rw [perform_remove_of_ok session classified, registry_drop, Registry.entryAt?_remove,
        if_pos rfl]
  | put | putKind | get | handleAt | refresh | injectPending | resync | runUnit | touch
  | writeHeld => exact dropped.elim

theorem retains_move {move : Move} (spared : session.Spares key move)
    (undelivered : move.startsPass = true → key ∉ session.owed.map Delivery.key) :
    Registry.Retains key session.registry (session.move move).registry := by
  cases move with
  | replaceHeld handle binding =>
      exact session.registry.retains_changeHeld (fun _ => binding) spared
  | operate operation =>
      obtain ⟨unwritten, undropped⟩ := spared
      constructor
      intro entry stored
      obtain ⟨binding, kept, ⟨value, wrote, _⟩ | seen⟩ := exists_entry_perform stored undropped
      · exact absurd wrote (unwritten value)
      · refine ⟨binding, kept, ?_⟩
        split at seen
        · rename_i starts
          have nothing : session.owedAt? key = none := by
            have none := notMem_keys_owed_iff.mp (undelivered starts)
            rwa [owedTo_eq_toList_owedAt?, Option.toList_eq_nil_iff] at none
          rwa [nothing] at seen
        · exact seen

theorem registry_of_pulls {kind : Kind} {receiver : Scope} {name : String} {operation : Operation}
    (pulls : session.Pulls kind receiver name operation) :
    (session.perform operation).2.registry =
      (session.registry.pull session.guest receiver kind name).2 := by
  obtain ⟨classified, rfl | ⟨rfl | rfl, isLazy, missing⟩⟩ := pulls_cases pulls
  · simp [perform, refresh, classified, orRefuse, pull]
  · simp [perform, get, classified, orRefuse, locate, isLazy, missing, pull]
  · simp [perform, handleAt, classified, orRefuse, locate, isLazy, missing, pull]

theorem guest_of_pulls {kind : Kind} {receiver : Scope} {name : String} {operation : Operation}
    (pulls : session.Pulls kind receiver name operation) :
    (session.perform operation).2.guest = session.guest := by
  obtain ⟨_, rfl | ⟨rfl | rfl, _⟩⟩ := pulls_cases pulls
  · exact (session.onlyObserved_refresh receiver name).guest
  · exact (session.onlyObserved_get receiver name).guest
  · exact (session.onlyObserved_handleAt receiver name).guest

/-- The operation carries values between the registry and the guest for every name at once. -/
def Operation.isExchange : Operation → Bool
  | .injectPending | .resync _ | .runUnit _ _ => true
  | _ => false

theorem Operation.cases_of_isExchange {operation : Operation}
    (exchanges : operation.isExchange = true) :
    operation = .injectPending ∨ (∃ receiver, operation = .resync receiver) ∨
      ∃ receiver steps, operation = .runUnit receiver steps := by
  cases operation with
  | injectPending => exact .inl rfl
  | resync receiver => exact .inr (.inl ⟨receiver, rfl⟩)
  | runUnit receiver steps => exact .inr (.inr ⟨receiver, steps, rfl⟩)
  | put | putKind | get | handleAt | refresh | remove | touch | writeHeld => contradiction

variable {session}

theorem entryAt?_of_mayPull {receiver : Scope} {operation : Operation}
    (mayPull : session.MayPull receiver name operation)
    (unpulled : ∀ kind, ¬ session.Pulls kind receiver key.name operation) :
    (session.perform operation).2.registry.entryAt? key = session.registry.entryAt? key := by
  rcases mayPull with same | ⟨kind, pulls, pulled⟩
  · rw [same]
  · have different : key.name ≠ name := fun same => unpulled kind (same ▸ pulls)
    rw [pulled, Registry.entryAt?_pull_other _ different]

/-- An entry stays as it is, unless an operation writes, drops or pulls it, or exchanges every name. -/
theorem entryAt?_of_spared {operation : Operation} (spared : session.Spares key (.operate operation))
    (alone : operation.isExchange = false)
    (unpulled : ∀ kind receiver, ¬ session.Pulls kind receiver key.name operation) :
    (session.perform operation).2.registry.entryAt? key = session.registry.entryAt? key := by
  obtain ⟨unwritten, undropped⟩ := spared
  have ofPut (kind : Kind) (receiver : Scope) (name : String) (value : Value)
      (apart : kind.accepts name = true → session.keyFor kind receiver name ≠ key) :
      (session.perform (.putKind kind receiver name value)).2.registry.entryAt? key =
        session.registry.entryAt? key := by
    by_cases accepted : kind.accepts name = true
    · obtain ⟨entry, _, _, entries⟩ := session.entryAt?_putKind receiver value accepted
      rw [entries key, if_neg (apart accepted).symm]
    · rw [perform_putKind_of_not_accepts session receiver accepted]
  cases operation with
  | put receiver name value =>
      cases classified : session.classify name with
      | error problem => rw [perform_put_of_error session classified]
      | ok kind =>
          rw [perform_put_of_ok session classified]
          exact ofPut kind receiver name value fun _ same =>
            unwritten value ⟨rfl, kind, classified, same⟩
  | putKind kind receiver name value =>
      exact ofPut kind receiver name value fun accepted same =>
        unwritten value ⟨rfl, accepted, same⟩
  | get receiver name =>
      exact entryAt?_of_mayPull (session.mayPull_get receiver name) (unpulled · receiver)
  | handleAt receiver name =>
      exact entryAt?_of_mayPull (session.mayPull_handleAt receiver name) (unpulled · receiver)
  | refresh receiver name =>
      exact entryAt?_of_mayPull (session.mayPull_refresh receiver name) (unpulled · receiver)
  | remove receiver name =>
      cases classified : session.classify name with
      | error problem => rw [perform_remove_of_error session classified]
      | ok kind =>
          have different : key ≠ session.keyFor kind receiver name := fun same =>
            undropped ⟨kind, classified, same.symm⟩
          rw [perform_remove_of_ok session classified, registry_drop, Registry.entryAt?_remove,
            if_neg different]
  | touch step => rw [perform_touch]
  | writeHeld handle value =>
      change (session.registry.changeHeld handle _).entryAt? key = _
      rw [Registry.entryAt?_changeHeld]
      cases stored : session.registry.entryAt? key with
      | none => rfl
      | some entry =>
          have apart : entry.handle ≠ handle := fun same =>
            unwritten value ⟨rfl, by rw [Registry.handle?, stored, ← same]; rfl⟩
          rw [Option.map_some, if_neg apart]
  | injectPending | resync receiver | runUnit receiver steps => simp [Operation.isExchange] at alone

end Session

end SharedBindings
