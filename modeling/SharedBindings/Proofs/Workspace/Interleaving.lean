import SharedBindings.Workspace
import SharedBindings.Proofs.Session.Coherence

/-!
# Sessions that share a generation

Calls to several sessions come in any order. What each of them adds to a shared counter is known
from the session that it finds, so the counter tells how many constants all calls together have
injected and taken away.
-/

namespace SharedBindings

/-- An operation on the session that a link stands for. -/
structure Call where
  link : Link
  operation : Session.Operation
deriving DecidableEq

namespace Workspace

def performAll (workspace : Workspace) (calls : List Call) : Workspace :=
  calls.foldl (fun current call => (current.perform call.link call.operation).2) workspace

/-- What a call contributes to a measure of the operations that can advance a counter. -/
def share (measure : Session → Session.Operation → Nat) (counter : Nat) (workspace : Workspace)
    (call : Call) : Nat :=
  if call.link.generation = counter then
    ((workspace.session? call.link).map (measure · call.operation)).getD 0
  else 0

/-- The contributions of all calls, each in the workspace that it finds. -/
def total (measure : Session → Session.Operation → Nat) (counter : Nat) (workspace : Workspace) :
    List Call → Nat
  | [] => 0
  | call :: rest =>
      workspace.share measure counter call +
        total measure counter (workspace.perform call.link call.operation).2 rest

variable (workspace : Workspace) (counter : Nat)

theorem generations_of_session? {link : Link} {session : Session}
    (held : workspace.session? link = some session) :
    workspace.generations[link.generation]? = some session.generation := by
  unfold session? at held
  split at held
  · rename_i generation _ _ found
    obtain rfl : _ = session := Option.some.inj held
    exact found
  · contradiction

theorem generations_perform (call : Call) :
    (workspace.perform call.link call.operation).2.generations[counter]? =
      workspace.generations[counter]?.map (·.advance
        (workspace.share Session.injectedConstants counter call +
          workspace.share Session.undefinedConstants counter call)) := by
  unfold perform onSession share
  cases held : workspace.session? call.link with
  | none => simp
  | some session =>
      have pays := (session.paysForConstants_perform call.operation).generation
      have before := workspace.generations_of_session? held
      simp only [store, List.getElem?_set, pays]
      by_cases same : call.link.generation = counter
      · subst same
        obtain ⟨bound, stored⟩ := List.getElem?_eq_some_iff.mp before
        simp [bound, stored]
      · simp [same]

theorem generations_performAll (calls : List Call) :
    (workspace.performAll calls).generations[counter]? =
      workspace.generations[counter]?.map (·.advance
        (workspace.total Session.injectedConstants counter calls +
          workspace.total Session.undefinedConstants counter calls)) := by
  induction calls generalizing workspace with
  | nil => simp [performAll, total]
  | cons call rest ih =>
      have first := workspace.generations_perform counter call
      have later := ih (workspace.perform call.link call.operation).2
      rw [first, Option.map_map] at later
      simp only [Function.comp_def, Generation.advance_advance] at later
      simp only [total]
      rw [Nat.add_add_add_comm]
      exact later

/-- The counter tells exactly how many constants were injected and taken away, up to its width, and
no operation changes more of them than it tells. -/
theorem generation_accounts_for_constants (calls : List Call) :
    (workspace.performAll calls).generations[counter]?.map (·.count.toNat) =
        workspace.generations[counter]?.map (fun start =>
          (start.count.toNat + workspace.total Session.injectedConstants counter calls +
            workspace.total Session.undefinedConstants counter calls) % UInt64.size) ∧
      ∀ session operation, Session.PaysForConstants session operation := by
  refine ⟨?_, Session.paysForConstants_perform⟩
  rw [generations_performAll, Option.map_map]
  congr 1
  funext start
  simp only [Function.comp_apply, Generation.toNat_advance, Nat.add_assoc]

end Workspace

end SharedBindings
