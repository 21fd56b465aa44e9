import SharedBindings.Session.Host

/-!
# Operations

Everything that can be done to a session, as data. Operations are what a host does; edits are
the single passes and registry changes from which they are made.
-/

namespace SharedBindings.Session

inductive Operation where
  | put (receiver : Scope) (name : String) (value : Value)
  | putKind (kind : Kind) (receiver : Scope) (name : String) (value : Value)
  | get (receiver : Scope) (name : String)
  | handleAt (receiver : Scope) (name : String)
  | refresh (receiver : Scope) (name : String)
  | remove (receiver : Scope) (name : String)
  | injectPending
  | resync (receiver : Scope)
  | runUnit (receiver : Scope) (steps : List Guest.Step)
  | touch (step : Guest.Step)
  | writeHeld (handle : Handle) (value : Value)
deriving DecidableEq

inductive Edit where
  | upsert (binding : Binding)
  | discard (key : Key)
  | drop (kind : Kind) (key : Key)
  | inject (kind : Kind)
  | resyncKind (receiver : Scope) (kind : Kind)
  | pull (receiver : Scope) (kind : Kind) (name : String)
  | bump
  /-- Puts a whole binding in place of the one that a handle leads to. The key stays. -/
  | replaceHeld (handle : Handle) (binding : Binding)
deriving DecidableEq

inductive Outcome where
  | done
  | refused (problem : HostError)
  | handle (handle : Option Handle)
  | value (value : Option Value)
  | count (count : Nat)
  | generation (generation : Generation)
  | reply (reply : Guest.Reply)
  | replies (replies : List Guest.Reply)
deriving DecidableEq

/-- An operation that is refused leaves the session as it was. -/
def orRefuse {α : Type} (session : Session) (report : α → Outcome) :
    Except HostError (α × Session) → Outcome × Session
  | .ok (result, after) => (report result, after)
  | .error problem => (.refused problem, session)

def perform (session : Session) : Operation → Outcome × Session
  | .put receiver name value =>
      session.orRefuse (fun handle => .handle (some handle)) (session.put receiver name value)
  | .putKind kind receiver name value =>
      session.orRefuse (fun handle => .handle (some handle))
        (session.putKind kind receiver name value)
  | .get receiver name => session.orRefuse .value (session.get receiver name)
  | .handleAt receiver name => session.orRefuse .handle (session.handleAt receiver name)
  | .refresh receiver name => session.orRefuse .handle (session.refresh receiver name)
  | .remove receiver name => session.orRefuse .handle (session.remove receiver name)
  | .injectPending =>
      let (count, after) := session.injectPending
      (.count count, after)
  | .resync receiver => (.done, session.resync receiver)
  | .runUnit receiver steps =>
      let (replies, after) := session.runUnit receiver (·.performAll steps)
      (.replies replies, after)
  | .touch step =>
      let (reply, guest) := session.guest.perform step
      (.reply reply, { session with guest })
  | .writeHeld handle value => (.done, session.writeHeld handle value)

def performEdit (session : Session) : Edit → Outcome × Session
  | .upsert binding =>
      let (handle, registry) := session.registry.upsert binding
      (.handle (some handle), { session with registry })
  | .discard key =>
      let (entry, registry) := session.registry.remove key
      (.handle (entry.map Entry.handle), { session with registry })
  | .drop kind key =>
      let (handle, after) := session.drop kind key
      (.handle handle, after)
  | .inject kind =>
      let (count, after) := session.inject kind
      (.count count, after)
  | .resyncKind receiver kind =>
      (.done,
        { session with registry := session.registry.resyncKind session.guest receiver kind })
  | .pull receiver kind name =>
      let (key, after) := session.pull receiver kind name
      (.handle (key.bind after.registry.handle?), after)
  | .bump =>
      (.generation session.generation.bump, { session with generation := session.generation.bump })
  | .replaceHeld handle binding =>
      (.done, { session with registry := session.registry.changeHeld handle fun _ => binding })

def performAll (session : Session) (operations : List Operation) : Session :=
  operations.foldl (fun current operation => (current.perform operation).2) session

end SharedBindings.Session
