import SharedBindings.Binding.Basic

/-!
# Descriptions of bindings

The one-line text that shows everything a handle leads to.
-/

namespace SharedBindings

def Authority.label : Authority → String
  | .host => "HostAuthored"
  | .guest => "GuestObserved"

namespace Binding

def describeOption {α : Type} (describe : α → String) : Option α → String
  | none => "None"
  | some held => "Some(" ++ describe held ++ ")"

def describedFields (binding : Binding) : List (String × String) :=
  [("name", Text.quoted binding.name),
    ("kind", binding.kind.tag),
    ("anchor", binding.anchor.describe),
    ("host_value", describeOption Value.describe binding.hostValue?),
    ("guest_value", describeOption Value.describe binding.guestValue?),
    ("provenance", binding.authority.label),
    ("materialized", if binding.materialized then "true" else "false"),
    ("stored_in", describeOption Scope.describe binding.storedIn)]

def describe (binding : Binding) : String :=
  "BindingRecord \x7b " ++
    ", ".intercalate (binding.describedFields.map fun field => field.1 ++ ": " ++ field.2) ++
    " \x7d"

def describeHandle (binding : Binding) : String :=
  "BindingHandle(RefCell \x7b value: " ++ binding.describe ++ " \x7d)"

end Binding

end SharedBindings
