import SharedBindings.Binding.Registry
import SharedBindings.Generation
import SharedBindings.Guest.Step

/-!
# Sessions

The host's side of one guest: the guest, the registry of shared bindings, and the generation
that guest code watches.
-/

namespace SharedBindings

structure Session where
  guest : Guest
  registry : Registry
  generation : Generation
deriving DecidableEq

namespace Session

def start (guest : Guest) (settings : Settings) : Session where
  guest := guest
  registry := .empty settings
  generation := .start

instance : Inhabited Session := ⟨start default default⟩

def settings (session : Session) : Settings :=
  session.registry.settings

end Session

end SharedBindings
