import SharedBindings.Binding.Registry
import SharedBindings.Guest.Topology

/-!
# Resync

Guest values come back to the registry after a unit. Every kind has a pass over the part of the
guest that is tracked under a receiver; what a pass sees there is a list of sightings. Resync
only observes: the guest stays as it is, and a pending host value is never overwritten.
-/

namespace SharedBindings

/-- A value seen in the guest, under the key that it has in a registry. -/
structure Sighting where
  key : Key
  value : Value
deriving DecidableEq

namespace Guest

def sight? (guest : Guest) (key : Key) (cell : Cell) : Option Sighting :=
  (guest.read cell).map fun value => ⟨key, value⟩

def sightPlace (guest : Guest) (anchor : Scope) (place : Place) : List Sighting :=
  (guest.names place).filterMap fun name => guest.sight? ⟨anchor, name⟩ ⟨place, name⟩

def sharedGlobals (guest : Guest) : List String :=
  (guest.names .globals).filter fun name => !guest.isPredefined name

/-- The scopes whose constants are tracked: the receiver, if it is defined, and the top level. -/
def constantScopes (guest : Guest) (receiver : Scope) : List Scope :=
  (guest.receiver? receiver).toList ++ if receiver = guest.top then [] else [guest.top]

/-- Sees the constants of one scope. The argument list is not among them. -/
def sightConstants (guest : Guest) (scope : Scope) : List Sighting :=
  (guest.sightPlace scope (.within scope .constants)).filter fun sighting =>
    sighting.key.name ≠ argumentsName

def sightings (guest : Guest) (receiver : Scope) : Kind → List Sighting
  | .constant => (guest.constantScopes receiver).flatMap guest.sightConstants
  | .instanceVariable =>
      (guest.receiver? receiver).toList.flatMap fun scope =>
        guest.sightPlace scope (.within scope .instanceVariables)
  | .classVariable =>
      (guest.receiver? receiver).toList.flatMap fun scope =>
        guest.sightPlace scope (.within scope .classVariables)
  | .globalVariable =>
      guest.sharedGlobals.filterMap fun name => guest.sight? ⟨guest.top, name⟩ ⟨.globals, name⟩
  | .localGlobal =>
      guest.sharedGlobals.filterMap fun global =>
        (Kind.localNameOfGlobal? global).bind fun name =>
          guest.sight? ⟨guest.top, name⟩ ⟨.globals, global⟩
  | .localVariable => guest.sightPlace guest.top .locals

/-- The argument list, from the top level or else from the scope above it. One that is nil
counts as missing. -/
def arguments? (guest : Guest) : Option Value :=
  (guest.readFirst
    ((guest.top :: (guest.superclass? guest.top).toList).map
      (Kind.constant.cell · argumentsName))).filter (!·.isNil)

end Guest

namespace Registry

def observeAll (registry : Registry) (kind : Kind) (sightings : List Sighting) : Registry :=
  sightings.foldl (fun known sighting => known.observe kind sighting.key sighting.value) registry

/-- Brings the one binding of the argument list up to date, and makes it at the top level if no
anchor has it. Tells the key, unless the guest has no arguments. -/
def observeArguments (registry : Registry) (guest : Guest) : Option Key × Registry :=
  match guest.arguments? with
  | none => (none, registry)
  | some value =>
      let key := (registry.firstNamed? argumentsName).getD ⟨guest.top, argumentsName⟩
      (some key, registry.observe .constant key value)

/-- Gives every constant, under whatever anchor, the value that the scope above the top level
has for its name, if it has one. That scope holds all top-level constants of the process, so it
is asked for the known names and never listed. -/
def observeAbove (registry : Registry) (guest : Guest) : Registry :=
  match guest.superclass? guest.top with
  | none => registry
  | some parent =>
      registry.changeAll fun binding =>
        if binding.kind = .constant ∧ binding.name ≠ argumentsName then
          match guest.read (Kind.constant.cell parent binding.name) with
          | some value => binding.observe value
          | none => binding
        else binding

/-- The resync pass of one kind. For constants the scopes under their own anchors come last, so
that they have the last word. -/
def resyncKind (registry : Registry) (guest : Guest) (receiver : Scope) (kind : Kind) : Registry :=
  match kind with
  | .constant =>
      ((registry.observeArguments guest).2.observeAbove guest).observeAll .constant
        (guest.sightings receiver .constant)
  | _ => registry.observeAll kind (guest.sightings receiver kind)

/-- Brings an eager registry up to date; a lazy one waits until it is asked. -/
def resync (registry : Registry) (guest : Guest) (receiver : Scope) : Registry :=
  if registry.settings.lazy then registry
  else
    registry.settings.localPolicy.resyncOrder.foldl
      (fun known kind => known.resyncKind guest receiver kind) registry

/-- Asks the guest for one name. If a cell on the search path answers, its value is observed
under the anchor of the name, whichever cell it was. Tells the key under which the name is
registered then. -/
def pull (registry : Registry) (guest : Guest) (receiver : Scope) (kind : Kind) (name : String) :
    Option Key × Registry :=
  if kind.accepts name then
    if name = argumentsName then registry.observeArguments guest
    else
      match guest.readFirst (guest.searchPath kind receiver name) with
      | none => (none, registry)
      | some value =>
          let key : Key := ⟨guest.anchorFor kind receiver name, name⟩
          (some key, registry.observe kind key value)
  else (none, registry)

@[simp] theorem settings_observeAll (registry : Registry) (kind : Kind)
    (sightings : List Sighting) :
    (registry.observeAll kind sightings).settings = registry.settings := by
  induction sightings generalizing registry with
  | nil => rfl
  | cons sighting rest ih => exact (ih _).trans (registry.settings_observe _ _ _)

@[simp] theorem settings_observeArguments (registry : Registry) (guest : Guest) :
    (registry.observeArguments guest).2.settings = registry.settings := by
  unfold observeArguments
  split
  · rfl
  · exact registry.settings_observe _ _ _

@[simp] theorem settings_observeAbove (registry : Registry) (guest : Guest) :
    (registry.observeAbove guest).settings = registry.settings := by
  unfold observeAbove
  split <;> rfl

@[simp] theorem settings_resyncKind (registry : Registry) (guest : Guest) (receiver : Scope)
    (kind : Kind) :
    (registry.resyncKind guest receiver kind).settings = registry.settings := by
  cases kind <;> simp [resyncKind]

@[simp] theorem settings_resync (registry : Registry) (guest : Guest) (receiver : Scope) :
    (registry.resync guest receiver).settings = registry.settings := by
  unfold resync
  split
  · rfl
  · have kept (kinds : List Kind) (known : Registry) :
        (kinds.foldl (fun known kind => known.resyncKind guest receiver kind) known).settings =
          known.settings := by
      induction kinds generalizing known with
      | nil => rfl
      | cons kind rest ih => exact (ih _).trans (known.settings_resyncKind guest receiver kind)
    exact kept _ _

end Registry

end SharedBindings
