import Scaffold.Config.Basic
import Scaffold.Config.Setting
import Scaffold.Toml.Document

/-!
# Configurations from settings

A configuration is read from settings in layers: those of a file, and over them those of the environment. In both
a key is a path, so that one key may set a part of a section.

## Main Definitions

* `Setting.ofText?` — the settings of a file
* `Setting.override` — environment variables over other settings
* `Config.ofSettings` — the valid configuration of settings
* `Config.load` — the valid configuration of a file and environment variables
-/

namespace Scaffold

open Text

namespace Setting

/-- Settings with one of them put where its key leads. -/
def set (settings : Setting) (key : String) (value : Setting) : Setting :=
  settings.assign (KeyPath.ofText key) value

/-- The settings of the entries of a table. -/
def ofEntries (entries : List (String × Setting)) : Setting :=
  entries.foldl (fun settings entry => settings.set entry.1 entry.2) empty

/-- The settings of a TOML text; none if the text breaks the grammar. -/
def ofText? (text : String) : Option Setting := do
  match ← Toml.ofText? text with
  | .table fields => return ofEntries (ofTomlFields fields)
  | _ => none

/-- What the names of environment variables start with. -/
def variablePrefix : String := "appgen_"

/-- The key that an environment variable sets. -/
def variableKey? (name : String) : Option String :=
  let name := (lowerCase name).toList
  let start := variablePrefix.toList
  if start.isPrefixOf name then some (String.ofList (name.drop start.length)) else none

/-- Settings with those of environment variables over them. -/
def override (settings : Setting) (environment : List (String × String)) : Setting :=
  environment.foldl
    (fun settings (name, value) =>
      match variableKey? name with
      | some key => settings.set key (.text value)
      | none => settings)
    settings

end Setting

/-- A section from its setting. -/
def SectionConfig.ofSetting? (value : Setting) : Option SectionConfig := do
  let fields ← value.record? ["name", "indent", "begin", "end", "template", "keep_markers"]
  return {
    name := ← fields.required "name" Setting.toText?
    indent := ← fields.optional "indent" Setting.toText? ""
    opening := ← fields.optional "begin" Setting.toOptionalText? none
    closing := ← fields.optional "end" Setting.toOptionalText? none
    template := ← fields.optional "template" Setting.toText? ""
    keepMarkers := ← fields.optional "keep_markers" Setting.toFlag? true }

namespace Config

/-- A configuration from settings; whether it is valid is left open. -/
def ofSettings? (settings : Setting) : Option Config := do
  let fields : Fields Setting := fun name => settings.field? name
  let default : Config := {}
  return {
    notice := ← fields.optional "notice" Setting.toText? default.notice
    commentPrefix := ← fields.optional "comment_prefix" Setting.toText? default.commentPrefix
    sections := ← fields.optional "sections"
      (fun value => do (← value.items?).mapM SectionConfig.ofSetting?) default.sections }

/-- Why settings give no configuration. -/
inductive LoadError where
  /-- A text breaks the grammar, or a value is not of the kind that is wanted. -/
  | unreadable
  /-- The configuration does not tell its sections apart. -/
  | invalid (problem : ConfigProblem)
  deriving DecidableEq, Repr

/-- The valid configuration of settings. -/
def ofSettings (settings : Setting) : Except LoadError Config :=
  match ofSettings? settings with
  | none => .error .unreadable
  | some config =>
    match config.validate with
    | .error problem => .error (.invalid problem)
    | .ok () => .ok config

/-- The valid configuration of a file, which may be missing, and of environment variables. -/
def load (file : Option String) (environment : List (String × String)) : Except LoadError Config :=
  match file with
  | none => ofSettings (Setting.empty.override environment)
  | some text =>
    match Setting.ofText? text with
    | none => .error .unreadable
    | some settings => ofSettings (settings.override environment)

end Config

end Scaffold
