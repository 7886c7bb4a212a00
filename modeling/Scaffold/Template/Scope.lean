import Scaffold.Template.Syntax

/-!
# Scopes

Where the paths of a template lead: the whole context, and the blocks around a place, each with a value of its own,
names for its values, and variables.

## Main Definitions

* `RenderError` — why a template does not render
* `RenderError.message` — the wording
* `Located` — a value with the place where it was found
* `Frame` — what a block adds
* `Scope` — the context with the blocks around a place
* `Scope.find` — the value of a path
-/

namespace Scaffold.Template

/-- Why a template does not render. -/
inductive RenderError where
  /-- A value that has to be there is not. -/
  | missingValue (source : String)
  /-- A step into a list is no index. -/
  | badIndex (name : String)
  /-- No helper has the name. -/
  | unknownHelper (name : String)
  /-- A helper lacks an argument. -/
  | missingArgument (helper : String)
  /-- A helper does not take such an argument. -/
  | wrongArgument (helper : String)
  /-- No template has the name. -/
  | unknownTemplate (name : String)
  /-- A template includes itself. -/
  | selfInclusion (name : String)
  /-- Templates include each other without an end. -/
  | endlessInclusion
  deriving DecidableEq, Repr

/-- The wording of an error. -/
def RenderError.message : RenderError → String
  | missingValue source => "No value: " ++ source
  | badIndex name => "Not an index: " ++ name
  | unknownHelper name => "Unknown helper: " ++ name
  | missingArgument helper => "Missing argument of helper: " ++ helper
  | wrongArgument helper => "Wrong argument of helper: " ++ helper
  | unknownTemplate name => "Unknown template: " ++ name
  | selfInclusion name => "Template includes itself: " ++ name
  | endlessInclusion => "Templates include each other without an end"

/-- A value that a path or a helper leads to. -/
inductive Located where
  /-- A value of the context, with the keys that lead to it. -/
  | inContext (keys : List String) (value : Json)
  /-- A value from elsewhere. -/
  | elsewhere (value : Json)
  /-- There is no value. -/
  | missing
  deriving Repr

namespace Located

/-- The value; `null` if there is none. -/
def value : Located → Json
  | inContext _ value => value
  | elsewhere value => value
  | missing => .null

/-- Whether there is no value. -/
def isMissing : Located → Bool
  | missing => true
  | _ => false

/-- The keys that lead to a value of the context. -/
def keys? : Located → Option (List String)
  | inContext keys _ => some keys
  | _ => none

end Located

/-- What a name that a block gives stands for. -/
inductive Binding where
  /-- The value of the block. -/
  | blockValue
  /-- A value. -/
  | constant (value : Json)
  deriving Repr

/-- What a block adds to its place. -/
structure Frame where
  /-- The keys in the context that lead to its value, unless it has a value from elsewhere. -/
  keys : List String := []
  /-- Its value, if it is from elsewhere. -/
  value : Option Json := none
  /-- The names that it gives. -/
  bindings : List (String × Binding) := []
  /-- Its variables. -/
  locals : List (String × Json) := []
  deriving Repr

/-- The frame of a block around a value. -/
def Frame.ofLocated (located : Located) : Frame :=
  match located.keys? with
  | some keys => { keys }
  | none => { value := some located.value }

/-- The context with the blocks around a place. -/
structure Scope where
  /-- The whole context. -/
  context : Json
  /-- The blocks around the place, innermost first; the whole template is the outermost one. -/
  frames : List Frame := [{}]
  /-- The indent for the lines of included templates. -/
  indent : Option String := none
  deriving Repr

/-- An index into a list: digits, possibly after a plus sign, below 2^64. -/
def index? (name : String) : Option Nat :=
  let digits := match name.toList with
    | '+' :: rest => rest
    | cs => cs
  if digits.isEmpty || !digits.all Char.isDigit then none
  else
    let n := digits.foldl (fun n c => n * 10 + (c.toNat - '0'.toNat)) 0
    if n < Nat.pow 2 64 then some n else none

/-- One step into a value. -/
def step (name : String) : Option Json → Except RenderError (Option Json)
  | some (.array items) =>
    match index? name with
    | some index => .ok items[index]?
    | none => .error (.badIndex name)
  | some (.object fields) => .ok (NameMap.lookup name fields)
  | _ => .ok none

/-- The value that keys lead to. -/
def follow (keys : List String) (start : Json) : Except RenderError (Option Json) :=
  keys.foldlM (fun current name => step name current) (some start)

/-- The names of the keys of a path. -/
def keyNames (segments : List Segment) : List String :=
  segments.filterMap fun
    | .key name => some name
    | _ => none

namespace Scope

/-- The frame of the innermost block. -/
def innermost (scope : Scope) : Frame :=
  scope.frames.head?.getD {}

/-- The scope inside one more block. -/
def push (scope : Scope) (frame : Frame) : Scope :=
  { scope with frames := frame :: scope.frames }

/-- The innermost block that gives a name, with what the name stands for. -/
def binding? (scope : Scope) (name : String) : Option (Frame × Binding) :=
  scope.frames.findSome? fun frame => (NameMap.lookup name frame.bindings).map (frame, ·)

/-- The value that keys of the context lead to. -/
def inContext (scope : Scope) (keys : List String) : Except RenderError Located := do
  match ← follow keys scope.context with
  | some value => return .inContext keys value
  | none => return .missing

/-- The value that keys lead to from a value elsewhere. -/
def fromValue (value : Json) (keys : List String) : Except RenderError Located := do
  match ← follow keys value with
  | some value => return .elsewhere value
  | none => return .missing

/-- The value that keys lead to from the value of a block. -/
def fromFrame (scope : Scope) (frame : Frame) (keys : List String) : Except RenderError Located :=
  match frame.value with
  | some value => fromValue value keys
  | none => scope.inContext (frame.keys ++ keys)

/-- The value of a path that is no variable. A name that a block gives counts before the fields of the
current value; after steps outwards it stands for the value and is a step into it as well. Steps outwards
beyond the outermost block lead to the innermost one. -/
def findFields (scope : Scope) (segments : List Segment) : Except RenderError Located :=
  let ups := (segments.takeWhile (· == .up)).length
  let keys := keyNames segments
  let fields :=
    match segments.drop ups with
    | .root :: _ => if ups = 0 then scope.inContext keys else outwards ups keys
    | _ => outwards ups keys
  match segments.drop ups with
  | .key name :: _ =>
    let behind := keyNames (segments.drop 1)
    match scope.binding? name with
    | some (_, .constant value) => fromValue value behind
    | some (frame, .blockValue) => scope.inContext (frame.keys ++ behind)
    | none => fields
  | _ => fields
where
  /-- The value that keys lead to from a block further outwards. -/
  outwards (ups : Nat) (keys : List String) : Except RenderError Located :=
    scope.fromFrame (scope.frames[ups]?.getD scope.innermost) keys

/-- The variable of a path that starts with a mark: how many blocks outwards it is, and its name. -/
def variableOf? : List Segment → Option (Nat × String)
  | .variableMark :: rest =>
    match rest.drop (rest.takeWhile (· == .up)).length with
    | .key name :: _ => some ((rest.takeWhile (· == .up)).length, name)
    | _ => none
  | _ => none

/-- The value of a path. -/
def find (scope : Scope) (path : Path) : Except RenderError Located :=
  match variableOf? path.segments with
  | some (level, name) =>
    match scope.frames[level]?.bind fun frame => NameMap.lookup name frame.locals with
    | some value => .ok (.elsewhere value)
    | none => .ok .missing
  | none => scope.findFields path.segments

end Scope

end Scaffold.Template
