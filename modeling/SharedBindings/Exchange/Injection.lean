import SharedBindings.Session.Basic

/-!
# Injection

Host values go to the guest. A binding is due when its host value is pending; a local is always
due, because every unit has a fresh frame. A due binding is delivered to its cell, or waits for
a later pass when the scope that should receive it is not there yet. A binding without a value is
passed over.
-/

namespace SharedBindings

namespace Guest

def deliveryScope? (guest : Guest) (kind : Kind) (anchor : Scope) : Option Scope :=
  match kind with
  | .constant => guest.storeScope? anchor
  | .instanceVariable | .classVariable => guest.receiver? anchor
  | .globalVariable | .localGlobal | .localVariable => some guest.top

def deliveryCell? (guest : Guest) (binding : Binding) : Option Cell :=
  (guest.deliveryScope? binding.kind binding.anchor).map fun scope =>
    binding.kind.cell scope binding.name

@[simp] theorem deliveryCell?_write (guest : Guest) (binding : Binding) (cell : Cell)
    (value : Value) :
    (guest.write cell value).deliveryCell? binding = guest.deliveryCell? binding := by
  simp only [deliveryCell?, deliveryScope?, write, storeScope?_changeTable, receiver?_changeTable,
    top_changeTable]

end Guest

namespace Session

/-- Writes the value of a binding into a cell. Guest code has to look constants up again. -/
def deliver (session : Session) (key : Key) (binding : Binding) (value : Value) (cell : Cell) :
    Session where
  guest := session.guest.write cell value
  registry := session.registry.changeAt key (·.delivered cell.place.scope?)
  generation := session.generation.bumpIf binding.kind.isCached

def deliver? (session : Session) (key : Key) : Option Session :=
  match session.registry.binding? key with
  | none => none
  | some binding =>
      if binding.isDue then
        match binding.value? with
        | none => none
        | some value => (session.guest.deliveryCell? binding).map (session.deliver key binding value)
      else none

theorem deliver?_eq_some_iff {session after : Session} {key : Key} :
    session.deliver? key = some after ↔
      ∃ binding value cell, session.registry.binding? key = some binding ∧ binding.isDue = true ∧
        binding.value? = some value ∧ session.guest.deliveryCell? binding = some cell ∧
        session.deliver key binding value cell = after := by
  unfold deliver?
  cases found : session.registry.binding? key with
  | none => simp
  | some binding =>
      by_cases due : binding.isDue = true
      · cases valued : binding.value? with
        | none => simp [due, valued]
        | some value => simp [due, valued, Option.map_eq_some_iff]
      · simp [due]

def deliverAll (session : Session) : List Key → Nat × Session
  | [] => (0, session)
  | key :: rest =>
      match session.deliver? key with
      | none => session.deliverAll rest
      | some next =>
          let (count, last) := next.deliverAll rest
          (count + 1, last)

def inject (session : Session) (kind : Kind) : Nat × Session :=
  session.deliverAll (session.registry.keysOf kind)

def injectEach (session : Session) : List Kind → Nat × Session
  | [] => (0, session)
  | kind :: rest =>
      let (early, next) := session.inject kind
      let (late, last) := next.injectEach rest
      (early + late, last)

/-- Injects everything that is due, kind by kind, and counts it. -/
def injectPending (session : Session) : Nat × Session :=
  session.injectEach Kind.all

/-- What no pass touches: how the guest's scopes hang together, which keys are registered in
which order, and what kind each of them has. -/
structure SameShape (before after : Session) : Prop where
  frame : Guest.SameFrame before.guest after.guest
  current : after.guest.current = before.guest.current
  isDefined : ∀ scope, after.guest.isDefined scope = before.guest.isDefined scope
  settings : after.settings = before.settings
  keys : after.registry.entries.keys = before.registry.entries.keys
  handles : ∀ key, after.registry.handle? key = before.registry.handle? key
  kinds : ∀ key,
    (after.registry.binding? key).map Binding.kind = (before.registry.binding? key).map Binding.kind

theorem SameShape.refl (session : Session) : SameShape session session :=
  ⟨Guest.SameFrame.refl _, rfl, fun _ => rfl, rfl, rfl, fun _ => rfl, fun _ => rfl⟩

theorem SameShape.trans {first second third : Session} (early : SameShape first second)
    (late : SameShape second third) : SameShape first third where
  frame := early.frame.trans late.frame
  current := late.current.trans early.current
  isDefined scope := (late.isDefined scope).trans (early.isDefined scope)
  settings := late.settings.trans early.settings
  keys := late.keys.trans early.keys
  handles key := (late.handles key).trans (early.handles key)
  kinds key := (late.kinds key).trans (early.kinds key)

theorem sameShape_deliver (session : Session) (key : Key) (binding : Binding) (value : Value)
    (cell : Cell) : SameShape session (session.deliver key binding value cell) where
  frame := Guest.sameFrame_write session.guest cell value
  current := by simp [deliver, Guest.write]
  isDefined scope := by simp [deliver, Guest.write]
  settings := rfl
  keys := Registry.keys_changeAt _ _ _
  handles other := Registry.handle?_changeAt _ _ _ _
  kinds other := by
    simp only [deliver, Registry.binding?_changeAt]
    split <;> simp [Function.comp_def]

theorem sameShape_deliverAll (session : Session) (keys : List Key) :
    SameShape session (session.deliverAll keys).2 := by
  induction keys generalizing session with
  | nil => exact SameShape.refl session
  | cons key rest ih =>
      unfold deliverAll
      cases delivered : session.deliver? key with
      | none => exact ih session
      | some next =>
          obtain ⟨binding, value, cell, _, _, _, _, rfl⟩ := deliver?_eq_some_iff.mp delivered
          exact (sameShape_deliver session key binding value cell).trans (ih _)

theorem sameShape_injectEach (session : Session) (kinds : List Kind) :
    SameShape session (session.injectEach kinds).2 := by
  induction kinds generalizing session with
  | nil => exact SameShape.refl session
  | cons kind rest ih => exact (sameShape_deliverAll session _).trans (ih _)

theorem sameShape_injectPending (session : Session) :
    SameShape session session.injectPending.2 :=
  sameShape_injectEach session Kind.all

end Session

end SharedBindings
