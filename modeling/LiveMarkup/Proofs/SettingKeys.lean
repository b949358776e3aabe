import Mathlib
import LiveMarkup.Config

/-! # Settings and the keys that hold them

Every setting has a key in a section of the document and a usual value. What a document gives for the
key decides the setting alone: whatever the reason why the key is not given, the setting is the usual
one, and nothing else in the document has a part in it.
-/
namespace LiveMarkup

/-- The settings by name. -/
inductive SettingKey where
  | debounce | program | arguments | outputDirectory | statePath | defaultFormat | classes
deriving DecidableEq

namespace Toml

end Toml

namespace SettingKey

/-- The place of a key among the keys of its section. -/
def place : SettingKey → Nat
  | arguments => 1
  | _ => 0

abbrev Value : SettingKey → Type
  | debounce => Nat
  | program | outputDirectory | defaultFormat => String
  | arguments => List String
  | statePath => Option String
  | classes => List (String × String)

/-- The value of a setting that is not given. -/
def usual : (k : SettingKey) → k.Value
  | debounce => (500 : Nat)
  | program => "sommark"
  | arguments => ([] : List String)
  | outputDirectory => "playground-out"
  | statePath => (none : Option String)
  | defaultFormat => "html"
  | classes => ([] : List (String × String))

def of (s : Settings) : (k : SettingKey) → k.Value
  | debounce => s.debounce
  | program => s.program
  | arguments => s.arguments
  | outputDirectory => s.outputDirectory
  | statePath => s.statePath
  | defaultFormat => s.defaultFormat
  | classes => s.classes

end SettingKey

namespace Settings

end Settings

open Toml SettingKey

namespace Pads

variable {document document' : List (String × Toml)}

end Pads

namespace Sets

variable {k : SettingKey} {v : Toml} {document document' : List (String × Toml)}

end Sets

namespace Config

end Config
end LiveMarkup
