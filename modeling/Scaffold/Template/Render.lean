import Scaffold.Template.Helper
import Scaffold.Template.Parser

/-!
# Rendering

## Main Definitions

* `Scope.print` — a printed text with an indent after its line breaks
* `renderElements` — the text of elements
* `Templates` — templates by name
* `Templates.render` — the text of a template for a context

## Design Notes

The lines of an included template take the indent of the innermost inclusion alone, and what a helper gives
takes none.

A template must not include itself directly. Which template is being rendered is known until a block has been
rendered in it; after that an inclusion is not compared with it any more. Inclusions are bounded by
`maxInclusions`, so that templates that include each other without an end are an error.
-/

namespace Scaffold.Template

/-- Text with an indent after each line break but a final one. -/
def indentChars (indent : List Char) : List Char → List Char
  | [] => []
  | ['\n'] => ['\n']
  | '\n' :: rest => '\n' :: indent ++ indentChars indent rest
  | c :: rest => c :: indentChars indent rest

/-- A printed text, with the indent of the place after its line breaks. -/
def Scope.print (scope : Scope) (text : String) : String :=
  match scope.indent with
  | none => text
  | some indent => String.ofList (indentChars indent.toList text.toList)

/-- Rendering: a text, or an error; on the way the name of the current template may be forgotten. -/
abbrev Rendering := StateT (Option String) (Except RenderError)

/-- How another template is rendered in a scope, by its name. -/
abbrev Include := String → Scope → Except RenderError String

/-- The frame of one turn of a loop over a value. -/
def turnFrame (value : Located) (name : String) (item label : Json) (labelName : String)
    (first last : Bool) (parameters : List String) : Frame :=
  let frame : Frame :=
    match value.keys? with
    | some keys => { keys := keys ++ [name] }
    | none => { value := some item }
  let itself : Binding :=
    match value.keys? with
    | some _ => .blockValue
    | none => .constant item
  { frame with
    locals := [("first", .bool first), ("last", .bool last), (labelName, label)]
    bindings :=
      match parameters with
      | [] => []
      | [itemName] => [(itemName, itself)]
      | itemName :: indexName :: _ =>
        if indexName = itemName then [(itemName, .constant label)]
        else [(itemName, itself), (indexName, .constant label)] }

/-- The frames of the turns of a loop over a value; none if it is no list and no object. -/
def turnFrames (value : Located) (parameters : List String) : Option (List Frame) :=
  match value.value with
  | .array items =>
    some <| items.zipIdx.map fun (item, index) =>
      turnFrame value (toString index) item (.ofNat index) "index" (index == 0)
        (index + 1 == items.length) parameters
  | .object fields =>
    some <| fields.zipIdx.map fun ((name, item), index) =>
      turnFrame value name item (.string name) "key" (index == 0)
        (index + 1 == fields.length) parameters
  | _ => none

/-- The frame of a block inside a value. -/
def withinFrame (value : Located) (parameters : List String) : Frame :=
  { Frame.ofLocated value with
    bindings :=
      match parameters with
      | [name] =>
        match value.keys? with
        | some _ => [(name, .blockValue)]
        | none => [(name, .constant value.value)]
      | _ => [] }

/-- The fields of an object with others put over them; a value that is no object has none. -/
def merged (base : Json) (named : List (String × Located)) : Json :=
  let fields := match base with
    | .object fields => fields
    | _ => []
  .ofFields (fields ++ named.map fun (name, value) => (name, value.value))

/-- The scope of an included template: a value given to it becomes its current value, and values by
name are put over the fields of the current value. The indent of the inclusion is the only one. -/
def Scope.forInclusion (scope : Scope) (call : Call) (indent : String) :
    Except RenderError Scope := do
  let scope := { scope with indent := if indent.isEmpty then none else some indent }
  let scope := match call.positional.head?.bind Located.keys? with
    | some keys => { scope with frames := [{ keys }] }
    | none => scope
  if call.named.isEmpty then return scope
  else
    let frame := scope.innermost
    let scope := { scope with frames := [frame] }
    let current ← scope.fromFrame frame []
    return { scope with frames := [{ frame with value := some (merged current.value call.named) }] }

/-- The name that an argument stands for in front of a tag. -/
def Scope.nameOf (scope : Scope) : Argument → Except RenderError String
  | .path path => .ok path.source
  | argument => do return display (← scope.evaluate argument).value

/-- The text of a value: of the helper of that name, which is not indented, or of the value itself, which
has to be there. -/
def renderValue (scope : Scope) (value : Argument) : Except RenderError String := do
  let name ← scope.nameOf value
  if (Helper.ofName? name).isSome then
    return display (← Call.result { name })
  else
    let located ← scope.evaluate value
    if located.isMissing then throw (.missingValue name)
    else return scope.print (display located.value)

mutual

/-- The text of an element. -/
def renderElement (including : Include) (scope : Scope) : Element → Rendering String
  | .text text => return scope.print text
  | .value value => renderValue scope value
  | .call name arguments => do
    let call ← scope.call name arguments
    return display (← call.result)
  | .block head body otherwise => do
    let call ← scope.call head.name head.arguments
    match Helper.ofName? head.name with
    | none => throw (.unknownHelper head.name)
    | some (.function function) =>
      return display (← function.apply call.name call.positional)
    | some (.condition positive) =>
      if ← call.holds positive then renderNested including scope body
      else
        match otherwise with
        | some branch => renderNested including scope branch
        | none => return ""
    | some .each => do
      let value ← anyArgument call.name call.positional 0
      match turnFrames value head.parameters, otherwise with
      | some [], some branch => renderNested including scope branch
      | some frames, _ =>
        let texts ← frames.mapM fun frame => renderNested including (scope.push frame) body
        return String.join texts
      | none, some branch => renderNested including scope branch
      | none, none => throw (.missingValue head.name)
    | some .within => do
      let value ← anyArgument call.name call.positional 0
      if isTruthy false value.value then
        renderNested including (scope.push (withinFrame value head.parameters)) body
      else
        match otherwise with
        | some branch => renderNested including scope branch
        | none => throw (.missingValue head.name)
    | some .plain => renderNested including scope body
    | some .log => do
      call.checkLevel
      return ""
  | .inclusion name arguments indent => do
    let name ← scope.nameOf name
    let call ← scope.call name arguments
    if (← get) = some name then throw (.selfInclusion name)
    else including name (← scope.forInclusion call indent)

/-- The text of the elements of a block. -/
def renderNested (including : Include) (scope : Scope) (elements : List Element) :
    Rendering String := do
  set (none : Option String)
  renderElements including scope elements

/-- The text of elements. -/
def renderElements (including : Include) (scope : Scope) : List Element → Rendering String
  | [] => return ""
  | element :: rest => do
    let text ← renderElement including scope element
    return text ++ (← renderElements including scope rest)

end

end Template

/-- Templates by name. -/
abbrev Templates := NameMap Template

namespace Templates

/-- How deeply templates may include each other. -/
def maxInclusions : Nat := 1000

/-- The text of a template in a scope, with inclusions nested at most as deeply as `fuel`. -/
def renderIn (templates : Templates) : (fuel : Nat) → Template.Include
  | 0, _, _ => .error .endlessInclusion
  | fuel + 1, name, scope =>
    match templates.get? name with
    | none => .error (.unknownTemplate name)
    | some template => do
      let (text, _) ← Template.renderElements (renderIn templates fuel) scope template (some name)
      return text

/-- The text of a template for a context. -/
def render (templates : Templates) (name : String) (context : Json) :
    Except Template.RenderError String :=
  templates.renderIn maxInclusions name { context }

end Templates

end Scaffold
