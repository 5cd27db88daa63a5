import Transplant.Config
import Transplant.Json.Decode

/-!
Settings as JSON documents.
-/

namespace Transplant

open Json.Decoder in
/-- Aliases come in pairs. -/
def Aliases.record : Json.Decoder.Record (Option Text × Option Text) Aliases where
  wanted := "struct Aliases"
  fields := [
    field "components" text fun s t => (some t, s.2),
    field "lib" text fun s t => (s.1, some t)]
  start := (none, none)
  finish
    | (some components, some lib) => .ok ⟨components, lib⟩
    | (none, _) => .error (.missingField "components")
    | (some _, none) => .error (.missingField "lib")
  mayStopEarly := false

open Json.Decoder in
/-- All settings can be left out. -/
def Config.record : Json.Decoder.Record Config Config where
  wanted := "struct Config"
  fields := [
    field "model" text fun c t => { c with model := t },
    field "tsx" bool fun c b => { c with tsx := b },
    field "srcDir" bool fun c b => { c with srcDir := b },
    field "aliases" (Json.Decoder.record Aliases.record) fun c a => { c with aliases := a },
    field "installedLib" names fun c s => { c with installedLib := s },
    field "installedComponents" names fun c s => { c with installedComponents := s }]
  start := .standard
  finish := .ok
  mayStopEarly := true

/-- Why a text gives no settings. -/
inductive ConfigError where
  | json (e : Json.DecodeError)
  | alias (e : AliasError)
deriving DecidableEq, Repr

/-- The wording of an error. -/
def ConfigError.message : ConfigError → String
  | .json e => "JSON parse error: " ++ e.message
  | .alias e => "Invalid config: " ++ e.message

/-- Reads settings, and then checks their aliases. -/
def Config.ofJson (t : Text) : Except ConfigError Config := do
  let c ← (Json.Decoder.document (Json.Decoder.record Config.record) t).mapError .json
  c.validate.mapError .alias

end Transplant
