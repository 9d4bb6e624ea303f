/-
**Where settings come from.**

Settings are those of a file with those of the environment over them. The settings there are without any are
what a first file is written with.

* `Settings.load`: the settings of a text and of the environment, when nothing is wrong with them.
-/

import StreamWatch.Settings.Environment
import StreamWatch.Settings.Service

namespace StreamWatch

/-- Why there are no settings. -/
inductive LoadError where
  /-- the text is no settings file -/
  | malformed
  | undecodable (error : DecodeError)
  | refused (failure : Failure)
deriving DecidableEq, Repr

/-- What is wrong, in words. -/
def LoadError.message : LoadError → String
  | malformed => "the settings file cannot be read"
  | undecodable error => error.message
  | refused failure => failure.message

namespace Settings

/-- The text a first settings file is written with. -/
def standardText : String := Toml.write ({} : Settings).entries

/-- The settings of a text. -/
def ofText (text : String) : Except LoadError Settings :=
  match Toml.read? text with
  | none => .error .malformed
  | some value => (decode value).mapError .undecodable

/-- The settings of a text with those of the environment over them, when nothing is wrong with them. -/
def load (text : String) (bindings : List (String × String)) : Except LoadError Settings :=
  match Toml.read? text with
  | none => .error .malformed
  | some value => do
    let settings ← (decode (Environment.apply value bindings)).mapError .undecodable
    settings.check.mapError .refused
    pure settings

end Settings
end StreamWatch
