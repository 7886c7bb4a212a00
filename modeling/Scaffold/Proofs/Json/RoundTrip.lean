import Scaffold.Config.Encoding
import Scaffold.FeatureSet.Basic
import Scaffold.Ordering.Encoding
import Scaffold.Proofs.Json.Record

/-!
# Decoding undoes encoding

What a feature set, a dependency map or a configuration is encoded as is decoded to the same value.  So is every other
way in which a feature set, a section or a configuration may be written: with fields left out that have their defaults,
with fields that are not known, or as a list.  In a configuration this holds for the sections one by one.

The defaults are not listed again here.  They are what a feature set or a section has of which only the name is given,
and what the default configuration has.

## Main Definitions

* `FeatureSet.schema`, `SectionConfig.schema`, `Config.schema` — the fields of these records
* `FeatureSet.Writes`, `SectionConfig.Writes`, `Config.Writes` — the JSON values that they may be written as

## Main Statements

* `FeatureSet.ofJson?_of_writes`, `SectionConfig.ofJson?_of_writes`, `Config.ofJson?_of_writes` — in whichever way a
  record was written, it is read
* `Ordering.DependencyMap.ofJson?_toJson` — a dependency map is read as it was
* `ofJson?_undoes` — decoding undoes encoding
-/

namespace Scaffold

open Json

/-! ### Feature sets -/

namespace FeatureSet

/-- The fields of a feature set: but for the name they have the defaults of a feature set with nothing but a name. -/
def schema : Schema where
  names := fieldNames
  required := ["name"]
  defaults := fieldValues { name := "" }
  nodup := by decide

/-- The JSON values that a feature set may be written as. -/
def Writes (featureSet : FeatureSet) : Json → Prop :=
  schema.Writes featureSet.fieldValues

/-- In whichever way a feature set was written, it is read. -/
theorem ofJson?_of_writes {featureSet : FeatureSet} {json : Json} (h : featureSet.Writes json) :
    ofJson? json = some featureSet := by
  obtain ⟨fields, hfields, hgiven⟩ := Schema.Writes.exists_given h rfl
  have hrecord : json.record? fieldNames = some fields := hfields
  change ∀ field ∈ fieldNames.zip featureSet.fieldValues, schema.Given fields field at hgiven
  simp only [fieldNames, fieldValues, List.zip_cons_cons, List.forall_mem_cons] at hgiven
  obtain ⟨hname, hsubsystem, hdependencies, hsoft, hallow, hpackage, -⟩ := hgiven
  have hname' : fields.required "name" text? = some featureSet.name :=
    hname.required (List.mem_singleton_self _) rfl
  have hsubsystem' : fields.optional "has_app_subsystem" flag? false = some featureSet.hasSubsystem :=
    hsubsystem.optional rfl rfl
  have hdependencies' : fields.optional "subsystem_dependencies" nameSet? ∅ = some featureSet.dependencies :=
    hdependencies.optional rfl (nameSet?_ofStrings _)
  have hsoft' : fields.optional "soft_requirements" nameSet? ∅ = some featureSet.softRequirements :=
    hsoft.optional rfl (nameSet?_ofStrings _)
  have hallow' : fields.optional "allow_as_soft_requirement" flag? false = some featureSet.allowAsSoftRequirement :=
    hallow.optional rfl rfl
  have hpackage' : fields.optional "package_name" nullableText? none = some featureSet.packageName :=
    hpackage.optional rfl (nullableText?_ofOption _)
  rw [ofJson?, hrecord]
  simp only [Option.bind_eq_bind, Option.bind_some, hname', hsubsystem', hdependencies', hsoft', hallow', hpackage']
  rfl

end FeatureSet

/-! ### Dependency maps -/

namespace Ordering

/-- Declarations that were written are read. -/
theorem declarations?_map (declarations : List (String × NameSet)) :
    declarations? (declarations.map fun declaration => (declaration.1, ofStrings declaration.2.toList)) =
      some declarations := by
  induction declarations with
  | nil => rfl
  | cons first rest ih =>
    rw [List.map_cons, declarations?, nameSet?_ofStrings, ih]
    rfl

/-- A dependency map is read as it was. -/
theorem DependencyMap.ofJson?_toJson (map : DependencyMap) : ofJson? map.toJson = some map := by
  show (declarations? _ >>= fun declarations => pure (⟨NameMap.ofList declarations⟩ : DependencyMap)) = some map
  rw [NameMap.map, declarations?_map]
  exact congrArg (fun components => some (⟨components⟩ : DependencyMap)) (NameMap.ofList_toList map.components)

end Ordering

/-! ### Configurations -/

namespace SectionConfig

/-- The fields of a section: but for the name they have the defaults of a section with nothing but a name. -/
def schema : Schema where
  names := fieldNames
  required := ["name"]
  defaults := fieldValues { name := "" }
  nodup := by decide

/-- The JSON values that a section may be written as. -/
def Writes (config : SectionConfig) : Json → Prop :=
  schema.Writes config.fieldValues

/-- In whichever way a section was written, it is read. -/
theorem ofJson?_of_writes {config : SectionConfig} {json : Json} (h : config.Writes json) :
    ofJson? json = some config := by
  obtain ⟨fields, hfields, hgiven⟩ := Schema.Writes.exists_given h rfl
  have hrecord : json.record? fieldNames = some fields := hfields
  change ∀ field ∈ fieldNames.zip config.fieldValues, schema.Given fields field at hgiven
  simp only [fieldNames, fieldValues, List.zip_cons_cons, List.forall_mem_cons] at hgiven
  obtain ⟨hname, hindent, hopening, hclosing, htemplate, hkeep, -⟩ := hgiven
  have hname' : fields.required "name" text? = some config.name :=
    hname.required (List.mem_singleton_self _) rfl
  have hindent' : fields.optional "indent" text? "" = some config.indent := hindent.optional rfl rfl
  have hopening' : fields.optional "begin" nullableText? none = some config.opening :=
    hopening.optional rfl (nullableText?_ofOption _)
  have hclosing' : fields.optional "end" nullableText? none = some config.closing :=
    hclosing.optional rfl (nullableText?_ofOption _)
  have htemplate' : fields.optional "template" text? "" = some config.template := htemplate.optional rfl rfl
  have hkeep' : fields.optional "keep_markers" flag? true = some config.keepMarkers := hkeep.optional rfl rfl
  rw [ofJson?, hrecord]
  simp only [Option.bind_eq_bind, Option.bind_some, hname', hindent', hopening', hclosing', htemplate', hkeep']
  rfl

/-- A section is written as the object that it is encoded as. -/
theorem writes_toJson (config : SectionConfig) : config.Writes config.toJson :=
  Schema.writes_ofFields rfl

end SectionConfig

namespace Config

/-- The fields of a configuration: they have the defaults of the default configuration. -/
def schema : Schema where
  names := fieldNames
  required := []
  defaults := default.fieldValues
  nodup := by decide

/-- The JSON values that a configuration may be written as: each section may be written in its own way. -/
def Writes (config : Config) (json : Json) : Prop :=
  ∃ items, List.Forall₂ SectionConfig.Writes config.sections items ∧
    schema.Writes [.string config.notice, .string config.commentPrefix, .array items] json

theorem forall₂_writes_toJson (sections : List SectionConfig) :
    List.Forall₂ SectionConfig.Writes sections (sections.map SectionConfig.toJson) := by
  rw [List.forall₂_map_right_iff]
  exact List.forall₂_same.2 fun config _ => config.writes_toJson

/-- Sections are read one by one. -/
theorem listOf?_of_writes {sections : List SectionConfig} {items : List Json}
    (h : List.Forall₂ SectionConfig.Writes sections items) :
    listOf? SectionConfig.ofJson? (.array items) = some sections :=
  listOf?_array (h.imp fun _ _ => SectionConfig.ofJson?_of_writes)

/-- In whichever way a configuration was written, it is read. -/
theorem ofJson?_of_writes {config : Config} {json : Json} (h : config.Writes json) : ofJson? json = some config := by
  obtain ⟨items, hitems, hwrites⟩ := h
  obtain ⟨fields, hfields, hgiven⟩ := hwrites.exists_given rfl
  have hrecord : json.record? fieldNames = some fields := hfields
  change ∀ field ∈ fieldNames.zip _, schema.Given fields field at hgiven
  simp only [fieldNames, List.zip_cons_cons, List.forall_mem_cons] at hgiven
  obtain ⟨hnotice, hprefix, hsections, -⟩ := hgiven
  have hnotice' : fields.optional "notice" text? default.notice = some config.notice := hnotice.optional rfl rfl
  have hprefix' : fields.optional "comment_prefix" text? default.commentPrefix = some config.commentPrefix :=
    hprefix.optional rfl rfl
  have hsections' : fields.optional "sections" (listOf? SectionConfig.ofJson?) default.sections =
      some config.sections := by
    refine hsections.optional ?_ (listOf?_of_writes hitems)
    exact listOf?_of_writes (forall₂_writes_toJson default.sections)
  rw [ofJson?, hrecord]
  simp only [Option.bind_eq_bind, Option.bind_some, hnotice', hprefix', hsections']
  rfl

end Config

/-! ### Round trips -/

/-- What is encoded is decoded to the same value: as the object that it is encoded as, as the list of all its fields,
and however else it may be written, without fields that have their defaults and with fields that are not known. -/
theorem ofJson?_undoes :
    (∀ featureSet : FeatureSet,
      FeatureSet.ofJson? featureSet.toJson = some featureSet ∧
      FeatureSet.ofJson? (.array featureSet.fieldValues) = some featureSet ∧
      ∀ json, featureSet.Writes json → FeatureSet.ofJson? json = some featureSet) ∧
    (∀ map : Ordering.DependencyMap, Ordering.DependencyMap.ofJson? map.toJson = some map) ∧
    (∀ config : SectionConfig,
      SectionConfig.ofJson? config.toJson = some config ∧
      SectionConfig.ofJson? (.array config.fieldValues) = some config ∧
      ∀ json, config.Writes json → SectionConfig.ofJson? json = some config) ∧
    ∀ config : Config,
      Config.ofJson? config.toJson = some config ∧
      Config.ofJson? (.array config.fieldValues) = some config ∧
      ∀ json, config.Writes json → Config.ofJson? json = some config := by
  refine ⟨fun featureSet => ⟨?_, ?_, fun json h => FeatureSet.ofJson?_of_writes h⟩,
    Ordering.DependencyMap.ofJson?_toJson,
    fun config => ⟨?_, ?_, fun json h => SectionConfig.ofJson?_of_writes h⟩,
    fun config => ⟨?_, ?_, fun json h => Config.ofJson?_of_writes h⟩⟩
  · exact FeatureSet.ofJson?_of_writes (Schema.writes_ofFields rfl)
  · exact FeatureSet.ofJson?_of_writes Schema.writes_array
  · exact SectionConfig.ofJson?_of_writes config.writes_toJson
  · exact SectionConfig.ofJson?_of_writes Schema.writes_array
  · exact Config.ofJson?_of_writes ⟨_, Config.forall₂_writes_toJson _, Schema.writes_ofFields rfl⟩
  · exact Config.ofJson?_of_writes ⟨_, Config.forall₂_writes_toJson _, Schema.writes_array⟩

/-- A section that is written as a list up to the last field that has not its default, a section that is written as an
object with an empty marker and a field that is not known, and the two in a configuration without a notice. -/
theorem ofJson?_undoes_sparse :
    Config.ofJson? (.ofFields
      [("sections", .array
        [.array [.string "first", .string "  "],
          .ofFields [("name", .string "second"), ("begin", .string ""), ("weight", .null)]]),
        ("version", .string "1")]) =
      some { sections := [{ name := "first", indent := "  " }, { name := "second", opening := some "" }] } := by
  have hfirst : SectionConfig.Writes { name := "first", indent := "  " } (.array [.string "first", .string "  "]) := by
    refine Schema.Writes.list 2 ?_
    show ∀ field ∈ [("begin", ofOption none), ("end", ofOption none), ("template", .string ""),
      ("keep_markers", .bool true)], SectionConfig.schema.MayOmit field
    simp only [List.forall_mem_cons]
    exact ⟨⟨by decide, rfl⟩, ⟨by decide, rfl⟩, ⟨by decide, rfl⟩, ⟨by decide, rfl⟩, by simp⟩
  have hsecond : SectionConfig.Writes { name := "second", opening := some "" }
      (.ofFields [("name", .string "second"), ("begin", .string ""), ("weight", .null)]) := by
    refine Schema.Writes.object _ ?_
    simp only [SectionConfig.fieldValues, SectionConfig.schema, SectionConfig.fieldNames, List.zip_cons_cons,
      List.forall_mem_cons]
    exact ⟨.inl rfl, .inr ⟨rfl, by decide, rfl⟩, .inl rfl, .inr ⟨rfl, by decide, rfl⟩, .inr ⟨rfl, by decide, rfl⟩,
      .inr ⟨rfl, by decide, rfl⟩, by simp⟩
  refine (ofJson?_undoes.2.2.2 _).2.2 _ ⟨_, .cons hfirst (.cons hsecond .nil), .object _ ?_⟩
  simp only [Config.schema, Config.fieldNames, List.zip_cons_cons, List.forall_mem_cons]
  exact ⟨.inr ⟨rfl, by decide, rfl⟩, .inr ⟨rfl, by decide, rfl⟩, .inl rfl, by simp⟩

end Scaffold
