import SharedBindings.Collections.OrderedMap
import SharedBindings.Host.Error
import SharedBindings.Names.LocalPolicy
import SharedBindings.Text.WhiteSpace

/-!
# Settings

The two choices that are fixed when a registry is made, and how they are read from text. The
spelled word counts; padding and letter case around it do not.
-/

namespace SharedBindings

structure Settings where
  /-- Names are pulled from the guest when they are asked for, not after every unit. -/
  lazy : Bool := true
  localPolicy : LocalPolicy := .transient
deriving DecidableEq

instance : Inhabited Settings := ⟨{}⟩

namespace Settings

def lazinessWords : List (String × Bool) :=
  [("1", true), ("true", true), ("yes", true), ("0", false), ("false", false), ("no", false)]

def localPolicyWords : List (String × LocalPolicy) :=
  [("transient", .transient), ("persistent", .persistent), ("global", .globalBacked)]

/-- Reads one setting: a missing text leaves the default, an unknown word is an error that
carries the text as it was given. -/
def readWord {α : Type} (words : List (String × α)) (setting : Setting) (default : α) :
    Option String → Except HostError α
  | none => .ok default
  | some text =>
      match Entries.lookup (Text.bareWord text) words with
      | some chosen => .ok chosen
      | none => .error (.invalidSetting setting text)

/-- Reads both settings. If both texts are bad, the error is about laziness. -/
def parse (text? : Setting → Option String) : Except HostError Settings :=
  match readWord lazinessWords .laziness true (text? .laziness) with
  | .error problem => .error problem
  | .ok lazy =>
      match readWord localPolicyWords .localPolicy .transient (text? .localPolicy) with
      | .error problem => .error problem
      | .ok localPolicy => .ok { lazy, localPolicy }

/-- Reads the settings from an environment. A variable whose bytes are not UTF-8 counts as
missing. -/
def ofEnvironment (bytes? : String → Option ByteArray) : Except HostError Settings :=
  parse fun setting => (bytes? setting.variable).bind String.fromUTF8?

end Settings

end SharedBindings
