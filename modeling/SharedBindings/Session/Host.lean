import SharedBindings.Exchange.Injection
import SharedBindings.Exchange.Removal
import SharedBindings.Exchange.Resync

/-!
# The host's interface

A host writes, reads, refreshes and drops bindings by name, under a receiver, and runs units of
guest code. The spelling of a name tells its kind. Host values reach the guest at the start of
the next unit.
-/

namespace SharedBindings.Session

def classify (session : Session) (name : String) : Except HostError Kind :=
  match session.settings.localPolicy.classify name with
  | some kind => .ok kind
  | none => .error (.invalidName none name)

def keyFor (session : Session) (kind : Kind) (receiver : Scope) (name : String) : Key :=
  ⟨session.guest.anchorFor kind receiver name, name⟩

/-- Writes a name of a given kind. A name that is registered already is overwritten in place. The
name is checked first, and a binding that is made checks it again. -/
def putKind (session : Session) (kind : Kind) (receiver : Scope) (name : String) (value : Value) :
    Except HostError (Handle × Session) :=
  if kind.accepts name then
    let key := session.keyFor kind receiver name
    match session.registry.handle? key with
    | some handle =>
        .ok (handle, { session with registry := session.registry.changeAt key (·.hostWrite value) })
    | none =>
        match Binding.ofHost? kind key value with
        | none => .error (.invalidName (some kind) name)
        | some binding =>
            let (handle, registry) := session.registry.upsert binding
            .ok (handle, { session with registry })
  else .error (.invalidName (some kind) name)

def put (session : Session) (receiver : Scope) (name : String) (value : Value) :
    Except HostError (Handle × Session) :=
  match session.classify name with
  | .error problem => .error problem
  | .ok kind => session.putKind kind receiver name value

def pull (session : Session) (receiver : Scope) (kind : Kind) (name : String) :
    Option Key × Session :=
  let (key, registry) := session.registry.pull session.guest receiver kind name
  (key, { session with registry })

/-- Where a name is registered. A lazy session asks the guest for a name that is not registered;
an eager one knows what the last resync saw, and finds a constant in any scope in which guest
code would find it. -/
def locate (session : Session) (kind : Kind) (receiver : Scope) (name : String) :
    Option Key × Session :=
  let key := session.keyFor kind receiver name
  if (session.registry.entryAt? key).isSome then (some key, session)
  else if session.settings.lazy then session.pull receiver kind name
  else if kind = .constant then
    (((session.guest.lookupScopes receiver).map (Key.mk · name)).find? fun candidate =>
      (session.registry.entryAt? candidate).isSome, session)
  else (none, session)

def handleAt (session : Session) (receiver : Scope) (name : String) :
    Except HostError (Option Handle × Session) :=
  match session.classify name with
  | .error problem => .error problem
  | .ok kind =>
      let (key, after) := session.locate kind receiver name
      .ok (key.bind after.registry.handle?, after)

def get (session : Session) (receiver : Scope) (name : String) :
    Except HostError (Option Value × Session) :=
  match session.classify name with
  | .error problem => .error problem
  | .ok kind =>
      let (key, after) := session.locate kind receiver name
      .ok ((key.bind after.registry.binding?).bind Binding.value?, after)

def refresh (session : Session) (receiver : Scope) (name : String) :
    Except HostError (Option Handle × Session) :=
  match session.classify name with
  | .error problem => .error problem
  | .ok kind =>
      let (key, after) := session.pull receiver kind name
      .ok (key.bind after.registry.handle?, after)

def remove (session : Session) (receiver : Scope) (name : String) :
    Except HostError (Option Handle × Session) :=
  match session.classify name with
  | .error problem => .error problem
  | .ok kind => .ok (session.drop kind (session.keyFor kind receiver name))

def resync (session : Session) (receiver : Scope) : Session :=
  { session with registry := session.registry.resync session.guest receiver }

/-- Runs one unit of guest code: what is due is injected before it, and an eager session is
brought up to date after it. -/
def runUnit {α : Type} (session : Session) (receiver : Scope) (unit : Guest → α × Guest) :
    α × Session :=
  let ready := session.injectPending.2
  let (result, guest) := unit ready.guest
  (result, { ready with guest }.resync receiver)

def writeHeld (session : Session) (handle : Handle) (value : Value) : Session :=
  { session with registry := session.registry.changeHeld handle (·.hostWrite value) }

end SharedBindings.Session
