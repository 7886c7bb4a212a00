import Scaffold.Config.Basic
import Scaffold.Json.Record

/-!
# The JSON form of a configuration

Every field but the name of a section has a default. Nothing beyond the kinds of the values is checked.

## Main Definitions

* `SectionConfig.ofJson?`, `SectionConfig.toJson`
* `Config.ofJson?`, `Config.toJson`
-/

namespace Scaffold

namespace SectionConfig

/-- The field names of the JSON form, in the order of the list form. -/
def fieldNames : List String :=
  ["name", "indent", "begin", "end", "template", "keep_markers"]

/-- Decodes a section. -/
def ofJson? (value : Json) : Option SectionConfig := do
  let fields ← value.record? fieldNames
  return {
    name := ← fields.required "name" Json.text?
    indent := ← fields.optional "indent" Json.text? ""
    opening := ← fields.optional "begin" Json.nullableText? none
    closing := ← fields.optional "end" Json.nullableText? none
    template := ← fields.optional "template" Json.text? ""
    keepMarkers := ← fields.optional "keep_markers" Json.flag? true }

/-- The values of the fields, in the order of `fieldNames`. -/
def fieldValues (config : SectionConfig) : List Json :=
  [.string config.name, .string config.indent, .ofOption config.opening,
    .ofOption config.closing, .string config.template, .bool config.keepMarkers]

/-- Encodes a section as an object. -/
def toJson (config : SectionConfig) : Json :=
  .ofFields (fieldNames.zip config.fieldValues)

end SectionConfig

namespace Config

/-- The field names of the JSON form, in the order of the list form. -/
def fieldNames : List String :=
  ["notice", "comment_prefix", "sections"]

/-- The configuration for what is left unset. -/
def default : Config := {}

/-- Decodes a configuration. -/
def ofJson? (value : Json) : Option Config := do
  let fields ← value.record? fieldNames
  return {
    notice := ← fields.optional "notice" Json.text? default.notice
    commentPrefix := ← fields.optional "comment_prefix" Json.text? default.commentPrefix
    sections :=
      ← fields.optional "sections" (Json.listOf? SectionConfig.ofJson?) default.sections }

/-- The values of the fields, in the order of `fieldNames`. -/
def fieldValues (config : Config) : List Json :=
  [.string config.notice, .string config.commentPrefix,
    .array (config.sections.map SectionConfig.toJson)]

/-- Encodes a configuration as an object. -/
def toJson (config : Config) : Json :=
  .ofFields (fieldNames.zip config.fieldValues)

end Config

end Scaffold
