import Scaffold.Section.Markers
import Scaffold.Text.Quoted

/-!
# Generator configuration

Which sections of a document are regenerated, the markers around them, and the templates of their content.

## Main Definitions

* `SectionConfig` — one section
* `Config` — the sections with what they share
* `Config.validate` — whether names and markers tell the sections apart
* `Config.setTemplate` — gives a section another template
-/

namespace Scaffold

open Text Section

/-- One regenerated section. -/
structure SectionConfig where
  /-- The name of the section and of its template. -/
  name : String
  /-- What stands before its markers and its generated lines. -/
  indent : String := ""
  /-- The opening marker line, if it is not the conventional one. -/
  opening : Option String := none
  /-- The closing marker line, if it is not the conventional one. -/
  closing : Option String := none
  /-- The template of its content. -/
  template : String := ""
  /-- Whether the marker lines stay when it is regenerated. -/
  keepMarkers : Bool := true
  deriving DecidableEq, Repr

/-- The markers around a section: the given ones, or the conventional ones for its name. -/
def SectionConfig.markers (section' : SectionConfig) (commentPrefix : String) : Markers :=
  let conventional := Markers.ofSection section'.name section'.indent commentPrefix
  { opening := section'.opening.getD conventional.opening
    closing := section'.closing.getD conventional.closing }

/-- What a generator works by. -/
structure Config where
  /-- The line that comes first in every generated block. -/
  notice : String := "# This section generated by appgen; do not edit."
  /-- What starts a comment, in conventional markers. -/
  commentPrefix : String := "#"
  /-- The sections, in the order in which they are regenerated. -/
  sections : List SectionConfig := [
    { name := "featureset_app_subsystem_imports", indent := "    " },
    { name := "featureset_app_subsystem_properties", indent := "    " },
    { name := "featureset_app_subsystem_create", indent := "        " },
    { name := "default_app_mode_selection", indent := "            " }]
  deriving DecidableEq, Repr

/-- What is wrong with a configuration. -/
inductive ConfigProblem where
  /-- A section has a blank name. -/
  | blankName
  /-- Two sections have one name. -/
  | repeatedName (name : String)
  /-- A marker of a section is blank. -/
  | blankMarker (name : String)
  /-- A marker of a section is one of an earlier section, or the section's other one. -/
  | repeatedMarker (name marker : String)
  deriving DecidableEq, Repr

/-- The wording of a problem. -/
def ConfigProblem.reason : ConfigProblem → String
  | blankName => "Section name must not be empty"
  | repeatedName name => "Section '" ++ name ++ "' is defined more than once"
  | blankMarker name => "Section '" ++ name ++ "' has an empty marker"
  | repeatedMarker name marker => "Section '" ++ name ++ "' reuses marker " ++ quote marker

/-- A marker without the line terminators at its end, however many there are. -/
def markerKey (marker : String) : String :=
  String.ofList (marker.toList.reverse.dropWhile fun c => c == '\r' || c == '\n').reverse

namespace Config

/-- The first section of a name. -/
def section? (config : Config) (name : String) : Option SectionConfig :=
  config.sections.find? (·.name == name)

/-- Puts a template into the first section of a name in a list. -/
def setTemplateIn (name template : String) : List SectionConfig → Option (List SectionConfig)
  | [] => none
  | first :: rest =>
    if first.name = name then some ({ first with template } :: rest)
    else (setTemplateIn name template rest).map (first :: ·)

/-- Gives the first section of a name another template; none if no section has the name. -/
def setTemplate (config : Config) (name template : String) : Option Config :=
  (setTemplateIn name template config.sections).map fun sections => { config with sections }

/-- The configuration with one more section at its end. -/
def push (config : Config) (added : SectionConfig) : Config :=
  { config with sections := config.sections ++ [added] }

/-- Checks the markers of a section against the keys of those before it, and adds their keys. -/
def checkMarkers (name : String) (keys : List String) :
    List String → Except ConfigProblem (List String)
  | [] => .ok keys
  | marker :: rest =>
    let key := markerKey marker
    if isBlank key then .error (.blankMarker name)
    else if key ∈ keys then .error (.repeatedMarker name marker)
    else checkMarkers name (key :: keys) rest

/-- Checks sections against the names and the marker keys of those before them. -/
def checkSections (commentPrefix : String) (names keys : List String) :
    List SectionConfig → Except ConfigProblem Unit
  | [] => .ok ()
  | first :: rest => do
    if isBlank first.name then throw .blankName
    if first.name ∈ names then throw (.repeatedName first.name)
    let markers := first.markers commentPrefix
    let keys ← checkMarkers first.name keys [markers.opening, markers.closing]
    checkSections commentPrefix (first.name :: names) keys rest

/-- Whether every section has a name of its own and markers of its own, none of them blank. -/
def validate (config : Config) : Except ConfigProblem Unit :=
  checkSections config.commentPrefix [] [] config.sections

end Config

end Scaffold
