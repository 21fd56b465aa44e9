import SharedBindings.Session.Operation

/-!
# Workspaces

Several sessions at once. A workspace holds guests, registries and generation counters; a link
names one of each and is seen as a session. Links that name the same part share it: what one of
them does to the part, the others see.
-/

namespace SharedBindings

structure Link where
  guest : Nat
  registry : Nat
  generation : Nat
deriving DecidableEq

structure Workspace where
  guests : List Guest
  registries : List Registry
  generations : List Generation
deriving DecidableEq

namespace Workspace

def empty : Workspace :=
  ⟨[], [], []⟩

instance : Inhabited Workspace := ⟨empty⟩

def addGuest (workspace : Workspace) (guest : Guest) : Nat × Workspace :=
  (workspace.guests.length, { workspace with guests := workspace.guests ++ [guest] })

def addRegistry (workspace : Workspace) (settings : Settings) : Nat × Workspace :=
  (workspace.registries.length,
    { workspace with registries := workspace.registries ++ [.empty settings] })

def addGeneration (workspace : Workspace) : Nat × Workspace :=
  (workspace.generations.length,
    { workspace with generations := workspace.generations ++ [.start] })

def session? (workspace : Workspace) (link : Link) : Option Session :=
  match workspace.guests[link.guest]?, workspace.registries[link.registry]?,
    workspace.generations[link.generation]? with
  | some guest, some registry, some generation => some { guest, registry, generation }
  | _, _, _ => none

def store (workspace : Workspace) (link : Link) (session : Session) : Workspace where
  guests := workspace.guests.set link.guest session.guest
  registries := workspace.registries.set link.registry session.registry
  generations := workspace.generations.set link.generation session.generation

def onSession {α : Type} (workspace : Workspace) (link : Link) (work : Session → α × Session) :
    Option α × Workspace :=
  match workspace.session? link with
  | none => (none, workspace)
  | some session =>
      let (result, after) := work session
      (some result, workspace.store link after)

def bump (workspace : Workspace) (counter : Nat) : Option Generation × Workspace :=
  match workspace.generations[counter]? with
  | none => (none, workspace)
  | some generation =>
      (some generation.bump,
        { workspace with generations := workspace.generations.set counter generation.bump })

def perform (workspace : Workspace) (link : Link) (operation : Session.Operation) :
    Option Session.Outcome × Workspace :=
  workspace.onSession link (·.perform operation)

def performEdit (workspace : Workspace) (link : Link) (edit : Session.Edit) :
    Option Session.Outcome × Workspace :=
  workspace.onSession link (·.performEdit edit)

end Workspace

end SharedBindings
