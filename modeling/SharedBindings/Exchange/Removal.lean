import SharedBindings.Session.Basic

/-!
# Removal

Dropping a binding takes it out of the registry and undefines its name in the guest. A delivered
binding is undefined where it was delivered; one that came from the guest, or was never
registered, where a lookup finds it; one that the guest never held, nowhere.
-/

namespace SharedBindings

namespace Guest

def removalPath (guest : Guest) (kind : Kind) (anchor : Scope) (name : String)
    (storedIn : Option Scope) : List Cell :=
  let scopes :=
    match storedIn, kind with
    | some scope, _ => [scope]
    | none, .constant => guest.lookupScopes anchor
    | none, _ => [anchor]
  scopes.map (kind.cell · name)

end Guest

namespace Binding

/-- The cells to look in when the binding is dropped. What the guest never held is not looked
for. -/
def removalPath (binding : Binding) (guest : Guest) (name : String) : List Cell :=
  match binding.guestValue? with
  | some _ => guest.removalPath binding.kind binding.anchor name binding.storedIn
  | none => []

end Binding

namespace Session

/-- Erases the first cell of a path that holds anything. Guest code has to look constants up
again if one went. -/
def undefine (session : Session) (kind : Kind) (path : List Cell) : Session :=
  let (erased, guest) := session.guest.eraseFirst path
  { session with
    guest
    generation := session.generation.bumpIf (erased.isSome && kind.isCached) }

/-- Drops the name at a key. The kind of the registered binding counts; the given kind only when
there is none. Returns the handle of the released binding. -/
def drop (session : Session) (kind : Kind) (key : Key) : Option Handle × Session :=
  let (removed, registry) := session.registry.remove key
  match removed with
  | some entry =>
      (some entry.handle,
        { session with registry }.undefine entry.binding.kind
          (entry.binding.removalPath session.guest key.name))
  | none =>
      (none, session.undefine kind (session.guest.removalPath kind key.anchor key.name none))

end Session

end SharedBindings
