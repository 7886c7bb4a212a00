import Scaffold.Template.Scope

/-!
# Helpers

## Main Definitions

* `isTruthy`, `display` — what a value counts as in a condition, and how it is printed
* `Function` — a helper that computes a value
* `Helper` — a function, or a helper that renders a block
* `Helper.ofName?` — the helper of a name
-/

namespace Scaffold.Template

/-- Whether a value counts as true: `false`, `null`, zero and what is empty do not. -/
def isTruthy (zeroCounts : Bool) : Json → Bool
  | .null => false
  | .bool value => value
  | .number (.whole value) => zeroCounts || value != 0
  | .number (.float value) => if zeroCounts then value != .nan else value.isNormal
  | .string value => !value.isEmpty
  | .array items => !items.isEmpty
  | .object fields => !fields.isEmpty

mutual

/-- How a value is printed. -/
def display : Json → String
  | .null => ""
  | .bool value => if value then "true" else "false"
  | .number value => value.toText
  | .string value => value
  | .array items => "[" ++ ", ".intercalate (displayItems items) ++ "]"
  | .object _ => "[object]"

/-- How the items of a list are printed. -/
def displayItems : List Json → List String
  | [] => []
  | item :: rest => display item :: displayItems rest

end

/-- A comparison of whole numbers. -/
inductive Comparison where
  /-- The first number is greater. -/
  | greater
  /-- The first number is greater, or both are equal. -/
  | greaterOrEqual
  /-- The first number is less. -/
  | less
  /-- The first number is less, or both are equal. -/
  | lessOrEqual
  deriving DecidableEq, Repr

/-- Whether a comparison holds. -/
def Comparison.holds : Comparison → Int → Int → Bool
  | greater, a, b => b < a
  | greaterOrEqual, a, b => b ≤ a
  | less, a, b => a < b
  | lessOrEqual, a, b => a ≤ b

/-- A helper that computes a value. -/
inductive Function where
  /-- Whether two values are equal. -/
  | equal
  /-- Whether two values differ. -/
  | different
  /-- How two whole numbers compare. -/
  | compare (comparison : Comparison)
  /-- Whether two values both count as true. -/
  | both
  /-- Whether one of two values counts as true. -/
  | either
  /-- Whether a value does not count as true. -/
  | negation
  /-- The number of items, of fields, or of bytes of a text. -/
  | size
  /-- An item of a list or a field of an object. -/
  | item
  deriving DecidableEq, Repr

/-- The size of a value. -/
def sizeOf : Json → Nat
  | .string value => value.utf8ByteSize
  | .array items => items.length
  | .object fields => fields.length
  | _ => 0

/-- An item of a list by its index, or a field of an object by its name. -/
def itemOf (collection key : Json) : Option Json :=
  match collection, key with
  | .array items, .number index => index.toNat?.bind fun index => items[index]?
  | .object fields, .string name => NameMap.lookup name fields
  | _, _ => none

/-- A whole number of 64 bits, and nothing else. -/
def wholeOf (helper : String) : Json → Except RenderError Int
  | .number value =>
    match value.toInt64? with
    | some value => .ok value
    | none => .error (.wrongArgument helper)
  | _ => .error (.wrongArgument helper)

/-- The argument at a position, if it has a value. -/
def argument (helper : String) (arguments : List Located) (position : Nat) :
    Except RenderError Json :=
  match arguments[position]? with
  | some located =>
    if located.isMissing then .error (.missingArgument helper) else .ok located.value
  | none => .error (.missingArgument helper)

/-- The argument at a position, whether or not it has a value. -/
def anyArgument (helper : String) (arguments : List Located) (position : Nat) :
    Except RenderError Located :=
  match arguments[position]? with
  | some located => .ok located
  | none => .error (.missingArgument helper)

/-- The value that a function computes. -/
def Function.apply (name : String) (function : Function) (arguments : List Located) :
    Except RenderError Json := do
  match function with
  | equal => do
    let a ← argument name arguments 0
    let b ← argument name arguments 1
    return .bool (a.equals b)
  | different => do
    let a ← argument name arguments 0
    let b ← argument name arguments 1
    return .bool (!a.equals b)
  | compare comparison => do
    let a ← wholeOf name (← argument name arguments 0)
    let b ← wholeOf name (← argument name arguments 1)
    return .bool (comparison.holds a b)
  | both => do
    let a ← argument name arguments 0
    let b ← argument name arguments 1
    return .bool (isTruthy false a && isTruthy false b)
  | either => do
    let a ← argument name arguments 0
    let b ← argument name arguments 1
    return .bool (isTruthy false a || isTruthy false b)
  | negation => return .bool (!isTruthy false (← argument name arguments 0))
  | size => return .ofNat (sizeOf (← argument name arguments 0))
  | item => do
    let collection ← anyArgument name arguments 0
    let key ← anyArgument name arguments 1
    match itemOf collection.value key.value with
    | some value => return value
    | none => throw (.missingValue name)

/-- What a name in front of arguments stands for. -/
inductive Helper where
  /-- Computes a value. -/
  | function (function : Function)
  /-- Renders its block if a value counts as true, or if it does not. -/
  | condition (positive : Bool)
  /-- Renders its block for each item of a list or field of an object. -/
  | each
  /-- Renders its block inside a value. -/
  | within
  /-- Renders its block. -/
  | plain
  /-- Prints nothing. -/
  | log
  deriving DecidableEq, Repr

/-- The helper of a name. -/
def Helper.ofName? : String → Option Helper
  | "if" => some (.condition true)
  | "unless" => some (.condition false)
  | "each" => some .each
  | "with" => some .within
  | "raw" => some .plain
  | "log" => some .log
  | "lookup" => some (.function .item)
  | "eq" => some (.function .equal)
  | "ne" => some (.function .different)
  | "gt" => some (.function (.compare .greater))
  | "gte" => some (.function (.compare .greaterOrEqual))
  | "lt" => some (.function (.compare .less))
  | "lte" => some (.function (.compare .lessOrEqual))
  | "and" => some (.function .both)
  | "or" => some (.function .either)
  | "not" => some (.function .negation)
  | "len" => some (.function .size)
  | _ => none

/-- The arguments of a helper, with their values. -/
structure Call where
  /-- The name of the helper. -/
  name : String
  /-- The arguments by position. -/
  positional : List Located := []
  /-- The arguments by name. -/
  named : List (String × Located) := []
  deriving Repr

/-- Whether a condition holds; it may ask for zero to count as true. -/
def Call.holds (call : Call) (positive : Bool) : Except RenderError Bool := do
  let value ← anyArgument call.name call.positional 0
  let zeroCounts :=
    match (NameMap.lookup "includeZero" call.named).map Located.value with
    | some (.bool zeroCounts) => zeroCounts
    | _ => false
  return isTruthy zeroCounts value.value == positive

/-- The words for how important a message is. -/
def logLevels : List String :=
  ["error", "warn", "info", "debug", "trace"]

/-- Whether the call of a log has a known level, if it has one. -/
def Call.checkLevel (call : Call) : Except RenderError Unit :=
  match (NameMap.lookup "level" call.named).map Located.value with
  | some (.string level) =>
    if logLevels.contains (String.ofList (level.toList.map Char.toLower)) then .ok ()
    else .error (.wrongArgument call.name)
  | _ => .ok ()

/-- The result of a helper without a block. A helper that renders a block gives the empty text. -/
def Call.result (call : Call) : Except RenderError Json := do
  match Helper.ofName? call.name with
  | none => throw (.unknownHelper call.name)
  | some (.function function) => function.apply call.name call.positional
  | some (.condition _) => do
    let _ ← anyArgument call.name call.positional 0
    return .string ""
  | some .each => do
    let _ ← anyArgument call.name call.positional 0
    return .string ""
  | some .within => do
    let value ← anyArgument call.name call.positional 0
    if isTruthy false value.value then return .string "" else throw (.missingValue call.name)
  | some .plain => return .string ""
  | some .log => do
    call.checkLevel
    return .string ""

mutual

/-- The value of an argument. -/
def Scope.evaluate (scope : Scope) : Argument → Except RenderError Located
  | .literal value => .ok (.elsewhere value)
  | .path path => scope.find path
  | .call name positional named => do
    let positional ← scope.evaluateAll positional
    let named ← scope.evaluateNamed named
    return .elsewhere (← Call.result { name, positional, named })

/-- The values of arguments by position. -/
def Scope.evaluateAll (scope : Scope) : List Argument → Except RenderError (List Located)
  | [] => .ok []
  | argument :: rest => do
    let value ← scope.evaluate argument
    return value :: (← scope.evaluateAll rest)

/-- The values of arguments by name. -/
def Scope.evaluateNamed (scope : Scope) :
    List (String × Argument) → Except RenderError (List (String × Located))
  | [] => .ok []
  | (name, argument) :: rest => do
    let value ← scope.evaluate argument
    return (name, value) :: (← scope.evaluateNamed rest)

end

/-- A helper with the values of its arguments. -/
def Scope.call (scope : Scope) (name : String) (arguments : Arguments) :
    Except RenderError Call := do
  return {
    name
    positional := ← scope.evaluateAll arguments.positional
    named := ← scope.evaluateNamed arguments.named }

end Scaffold.Template
