import SharedBindings.Names.Kind

/-!
# Errors

The mistakes of a host. A scope or a name that the guest does not have yet is none of them: it
is left for a later pass.
-/

namespace SharedBindings

inductive Setting where
  | laziness
  | localPolicy
deriving DecidableEq

def Setting.variable : Setting → String
  | .laziness => "ORI_EMBED_LAZY"
  | .localPolicy => "ORI_EMBED_LOCAL_BEHAVIOR"

inductive HostError where
  /-- The name is not in the grammar of the kind, or of any kind if none is given. -/
  | invalidName (kind : Option Kind) (name : String)
  | invalidSetting (setting : Setting) (text : String)
deriving DecidableEq

def HostError.message : HostError → String
  | .invalidName (some kind) name => "`" ++ name ++ "` is not a valid " ++ kind.label ++ " name"
  | .invalidName none name => "`" ++ name ++ "` is not a valid binding name"
  | .invalidSetting setting text => "invalid value `" ++ text ++ "` for " ++ setting.variable

end SharedBindings
