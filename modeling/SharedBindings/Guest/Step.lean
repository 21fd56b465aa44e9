import SharedBindings.Guest.Topology

/-!
# Guest steps

What guest code, or a host with direct access to the guest, can do to it: commands change the
guest, queries only look. No step moves the top level or changes an overlay.
-/

namespace SharedBindings.Guest

inductive Command where
  | defineModule (name : String)
  | reserveModule (name : String)
  | define (scope : Scope)
  /-- Enters the body of a module, or leaves all of them. -/
  | execute (scope : Option Scope)
  | setArguments (arguments : List String)
  | clearLocals
  | write (cell : Cell) (value : Value)
  | erase (cell : Cell)
deriving DecidableEq

inductive Query where
  | object
  | top
  | moduleName (scope : Scope)
  | superclass (scope : Scope)
  | current
  | isDefined (scope : Scope)
  | isNil (value : Value)
  | names (place : Place)
  | read (cell : Cell)
  | isPredefined (global : String)
  | receiver (scope : Scope)
  | storeScope (scope : Scope)
  | lookupScopes (scope : Scope)
  | picture
deriving DecidableEq

inductive Step where
  | command (command : Command)
  | query (query : Query)
deriving DecidableEq

inductive Reply where
  | done
  | flag (answer : Bool)
  | scope (scope : Scope)
  | maybeScope (scope : Option Scope)
  | scopes (scopes : List Scope)
  | maybeText (text : Option String)
  | names (names : List String)
  | maybeValue (value : Option Value)
  | picture (guest : Guest)
deriving DecidableEq

def obey (guest : Guest) : Command → Reply × Guest
  | .defineModule name =>
      let (scope, after) := guest.addModule name true
      (.scope scope, after)
  | .reserveModule name =>
      let (scope, after) := guest.addModule name false
      (.scope scope, after)
  | .define scope =>
      let (known, after) := guest.define scope
      (.flag known, after)
  | .execute scope => (.done, { guest with current := scope })
  | .setArguments arguments => (.done, guest.setArguments arguments)
  | .clearLocals => (.done, guest.clearLocals)
  | .write cell value => (.done, guest.write cell value)
  | .erase cell => (.maybeValue (guest.content cell), guest.erase cell)

def answer (guest : Guest) : Query → Reply
  | .object => .scope guest.object
  | .top => .scope guest.top
  | .moduleName scope => .maybeText (guest.moduleName? scope)
  | .superclass scope => .maybeScope (guest.superclass? scope)
  | .current => .maybeScope guest.current
  | .isDefined scope => .flag (guest.isDefined scope)
  | .isNil value => .flag value.isNil
  | .names place => .names (guest.names place)
  | .read cell => .maybeValue (guest.read cell)
  | .isPredefined global => .flag (guest.isPredefined global)
  | .receiver scope => .maybeScope (guest.receiver? scope)
  | .storeScope scope => .maybeScope (guest.storeScope? scope)
  | .lookupScopes scope => .scopes (guest.lookupScopes scope)
  | .picture => .picture guest

def perform (guest : Guest) : Step → Reply × Guest
  | .command command => guest.obey command
  | .query query => (guest.answer query, guest)

def performAll (guest : Guest) : List Step → List Reply × Guest
  | [] => ([], guest)
  | step :: rest =>
      let (reply, next) := guest.perform step
      let (replies, last) := next.performAll rest
      (reply :: replies, last)

variable (guest : Guest)

structure SameFrame (before after : Guest) : Prop where
  object : after.object = before.object
  top : after.top = before.top
  predefined : after.predefined = before.predefined
  adoptions : after.adoptions = before.adoptions
  hidden : after.hidden = before.hidden

theorem SameFrame.refl : SameFrame guest guest :=
  ⟨rfl, rfl, rfl, rfl, rfl⟩

theorem SameFrame.trans {first second third : Guest} (early : SameFrame first second)
    (late : SameFrame second third) : SameFrame first third :=
  ⟨late.object.trans early.object, late.top.trans early.top,
    late.predefined.trans early.predefined, late.adoptions.trans early.adoptions,
    late.hidden.trans early.hidden⟩

theorem sameFrame_changeTable (place : Place) (change : Table → Table) :
    SameFrame guest (guest.changeTable place change) :=
  ⟨by simp, by simp, by simp, by simp, by simp⟩

theorem sameFrame_write (cell : Cell) (value : Value) : SameFrame guest (guest.write cell value) :=
  sameFrame_changeTable guest _ _

theorem sameFrame_erase (cell : Cell) : SameFrame guest (guest.erase cell) :=
  sameFrame_changeTable guest _ _

theorem sameFrame_eraseFirst (path : List Cell) : SameFrame guest (guest.eraseFirst path).2 := by
  unfold eraseFirst
  split
  · exact sameFrame_erase guest _
  · exact SameFrame.refl guest

theorem sameFrame_perform (step : Step) : SameFrame guest (guest.perform step).2 := by
  cases step with
  | query query => exact SameFrame.refl guest
  | command command =>
      cases command with
      | write cell value => exact sameFrame_write guest cell value
      | erase cell => exact sameFrame_erase guest cell
      | setArguments arguments => exact sameFrame_write guest (Kind.constant.cell guest.object argumentsName) _
      | _ => exact ⟨rfl, rfl, rfl, rfl, rfl⟩

theorem sameFrame_performAll (steps : List Step) :
    SameFrame guest (guest.performAll steps).2 := by
  induction steps generalizing guest with
  | nil => exact SameFrame.refl guest
  | cons step rest ih => exact (sameFrame_perform guest step).trans (ih _)

end SharedBindings.Guest
