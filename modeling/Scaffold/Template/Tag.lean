import Scaffold.Json.Reader
import Scaffold.Template.Syntax
import Scaffold.Text.Reader

/-!
# Tags

The grammar of what stands between double braces. White space may stand between the parts of a tag.

## Main Definitions

* `readPath` — a path
* `readArgument` — a literal, a path, or a call
* `Tag` — the kinds of tags
* `readTag` — a tag, with its marks for trimming

## Design Notes

A name may hold ASCII letters and digits, `_`, `-`, `$` and every character beyond ASCII. Where two readings of a
tag are possible the first one listed counts, and is not taken back when the tag turns out to go on
differently. A literal that the grammar admits and JSON does not is an error, not another reading.
-/

namespace Scaffold.Template

open Text Text.Reader

/-- Whether a character may stand in a name. -/
def isSymbolChar (c : Char) : Bool :=
  c.isAlphanum || c == '_' || c == '-' || c == '$' || 0x80 ≤ c.toNat

/-- Skips white space. -/
def space : Reader Unit :=
  modify Json.skipSpace

/-- Fixed text after white space. -/
def symbol (text : String) : Reader Unit := do
  space
  exact text

/-- A name. -/
def readName : Reader String := do
  return String.ofList (← takeWhile1 isSymbolChar)

/-- The characters that a reader takes. -/
def taken {α : Type} (reader : Reader α) : Reader (List Char) := do
  let before ← get
  let _ ← reader
  let after ← get
  return before.take (before.length - after.length)

/-! ### Literals -/

/-- One character of a quoted text, or an escape. -/
def readQuotedChar (quote : Char) : Reader Unit := do
  let c ← one (· != quote)
  if c = '\\' then
    let escape ← one fun c => c == quote || "\\/bfnrtu".toList.contains c
    if escape = 'u' then
      for _ in [1, 2, 3, 4] do
        let _ ← one fun c => (Json.hexValue? c).isSome

/-- A quoted text. -/
def readQuoted (quote : Char) : Reader Unit := do
  let _ ← one (· == quote)
  let _ ← many (readQuotedChar quote) (← remaining)
  let _ ← one (· == quote)

/-- A number that no name goes on with. -/
def readNumeral : Reader Unit := do
  let _ ← found (exact "-")
  let _ ← takeWhile1 Char.isDigit
  let _ ← found (exact ".")
  let _ ← takeWhile Char.isDigit
  let _ ← found do
    exact "E"
    let _ ← found (exact "-")
    let _ ← takeWhile1 Char.isDigit
  notBefore (one isSymbolChar)

/-- A word that no name goes on with. -/
def readWord (word : String) : Reader Unit := do
  exact word
  notBefore (one isSymbolChar)

/-- A literal of the grammar; lists and objects are nested at most as deeply as `fuel`. -/
def readLiteral : (fuel : Nat) → Reader Unit
  | 0 => absent
  | fuel + 1 =>
    firstOf [
      readQuoted '"',
      readQuoted '\'',
      do
        exact "["
        let _ ← found do space; readLiteral fuel
        let _ ← many (do symbol ","; space; readLiteral fuel) (← remaining)
        symbol "]",
      do
        exact "\x7b"
        let _ ← found (readMember fuel)
        let _ ← many (do symbol ","; readMember fuel) (← remaining)
        symbol "\x7d",
      readNumeral,
      readWord "null",
      readWord "true",
      readWord "false"]
where
  /-- A field of an object. -/
  readMember (fuel : Nat) : Reader Unit := do
    space
    orElse (readQuoted '"') (readQuoted '\'')
    symbol ":"
    space
    readLiteral fuel

/-- Text in single quotes as text in double quotes. -/
def doubleQuoted : List Char → List Char
  | '\\' :: '\'' :: rest => '\'' :: doubleQuoted rest
  | '\\' :: c :: rest => '\\' :: c :: doubleQuoted rest
  | '"' :: rest => '\\' :: '"' :: doubleQuoted rest
  | c :: rest => c :: doubleQuoted rest
  | [] => []

/-- The text of a literal as JSON text. -/
def literalText (cs : List Char) : List Char :=
  match cs with
  | '\'' :: rest => '"' :: doubleQuoted rest.dropLast ++ ['"']
  | _ => cs

/-- The value of a literal. -/
def readLiteralValue : Reader Json := do
  let cs ← taken (readLiteral (← remaining))
  match Json.ofText? (String.ofList (literalText cs)) with
  | some value => pure value
  | none => refuse

/-! ### Paths -/

/-- What stands between the steps of a path. -/
def readSeparator : Reader Unit :=
  orElse (exact "/") (exact ".")

/-- A step of a path: a name, or any text in brackets. -/
def readItem : Reader String :=
  orElse readName do
    exact "["
    let name ← takeWhile (· != ']')
    exact "]"
    return String.ofList name

/-- The step of a name; the name `this` stays where it is. -/
def keySegment (name : String) : List Segment :=
  if name = "this" then [] else [.key name]

/-- A path. -/
def readPath : Reader Path := do
  let before ← get
  let _ ← found (orElse (do exact "this"; readSeparator) (exact "./"))
  let root ← found (do exact "@root"; readSeparator)
  let variableMark ← found (exact "@")
  let ups ← many (do exact ".."; readSeparator) (← remaining)
  let first ← readItem
  let more ← many (do readSeparator; readItem) (← remaining)
  let after ← get
  return {
    source := String.ofList (before.take (before.length - after.length))
    segments :=
      (if root then [.root] else []) ++ (if variableMark then [.variableMark] else []) ++
        ups.map (fun _ => .up) ++ (first :: more).flatMap keySegment }

/-! ### Arguments -/

/-- The words `as` and `else`, where no name goes on behind them. -/
def readKeyword : Reader Unit := do
  orElse (exact "as") (exact "else")
  space
  notBefore (one isSymbolChar)

/-- Sorts arguments into those by position and those by name; the last one of a name counts. -/
def gather (arguments : List (Option String × Argument)) : Arguments where
  positional := (arguments.filter (·.1.isNone)).map (·.2)
  named :=
    (NameMap.ofList (arguments.filterMap fun (name, argument) => name.map (·, argument))).toList

mutual

/-- An argument; calls are nested at most as deeply as `fuel`. -/
def readArgument : (fuel : Nat) → Reader Argument
  | 0 => absent
  | fuel + 1 => do
    notBefore readKeyword
    firstOf [.literal <$> readLiteralValue, .path <$> readPath, readCall fuel]

/-- A call in parentheses: a helper with arguments, or a path that names one. -/
def readCall : (fuel : Nat) → Reader Argument
  | 0 => absent
  | fuel + 1 => do
    exact "("
    space
    let call ← orElse
      (do
        let name ← readName
        let arguments ← readArguments fuel
        if arguments.isEmpty then absent
        else
          let arguments := gather arguments
          return .call name arguments.positional arguments.named)
      (do
        let path ← readPath
        return .call path.source [] [])
    symbol ")"
    return call

/-- The arguments of a tag, each by position or by name. -/
def readArguments : (fuel : Nat) → Reader (List (Option String × Argument))
  | 0 => absent
  | fuel + 1 => do
    many
      (do
        space
        orElse
          (do
            let name ← readName
            symbol "="
            space
            return (some name, ← readArgument fuel))
          (do return (none, ← readArgument fuel)))
      (← remaining)

end

/-- The arguments of a tag. -/
def readAllArguments : Reader (List (Option String × Argument)) := do
  readArguments (3 * (← remaining) + 3)

/-- A path or a call. -/
def readValue : Reader Argument := do
  orElse (readCall (3 * (← remaining) + 3)) (.path <$> readPath)

/-! ### Tags -/

/-- What a tag does. -/
inductive Tag where
  /-- Prints a value. -/
  | value (value : Argument)
  /-- Prints the result of a helper. -/
  | call (name : String) (arguments : Arguments)
  /-- Opens a block. -/
  | openBlock (head : Head)
  /-- Closes the block of a helper. -/
  | closeBlock (name : String)
  /-- Starts the other branch of a block. -/
  | otherwise
  /-- Starts the other branch of a block, which is a block itself. -/
  | otherwiseBlock (head : Head)
  /-- Opens a block whose text is not read. -/
  | openRaw (head : Head)
  /-- Closes such a block. -/
  | closeRaw (name : String)
  /-- Includes another template. -/
  | inclusion (name : Argument) (arguments : Arguments)
  /-- Does nothing. -/
  | comment
  deriving Repr

/-- A tag with its marks for trimming. -/
structure MarkedTag where
  /-- What the tag does. -/
  tag : Tag
  /-- Whether white space before it goes. -/
  trimBefore : Bool := false
  /-- Whether white space after it goes. -/
  trimAfter : Bool := false
  deriving Repr

/-- A mark for trimming. -/
def readMark : Reader Bool := do
  found (symbol "~")

/-- What stands between two texts, with its marks. -/
def enclosed (opening closing : String) (body : Reader Tag) : Reader MarkedTag := do
  exact opening
  let trimBefore ← readMark
  space
  let tag ← body
  let trimAfter ← readMark
  symbol closing
  return { tag, trimBefore, trimAfter }

/-- What a tag of two braces holds, with its marks. -/
def braced (body : Reader Tag) : Reader MarkedTag :=
  enclosed "\x7b\x7b" "\x7d\x7d" body

/-- A helper with arguments, or a value. -/
def readExpression : Reader Tag :=
  orElse
    (do
      let name ← readName
      let arguments ← readAllArguments
      if arguments.isEmpty then absent else return .call name (gather arguments))
    (.value <$> readValue)

/-- The names that a block gives to its values: one or two. -/
def readParameters : Reader (List String) := do
  symbol "as"
  symbol "|"
  space
  let first ← readName
  let second ← optional (do space; readName)
  symbol "|"
  return first :: second.toList

/-- The start of a block after its first sign. -/
def readHead : Reader Head := do
  space
  let name ← readName
  let arguments ← readAllArguments
  let parameters ← optional readParameters
  return { name, arguments := gather arguments, parameters := parameters.getD [] }

/-- The sign of another branch. -/
def readOtherwise : Reader Unit :=
  orElse (exact "else") (exact "^")

/-- The start of another branch that is a block itself. -/
def readOtherwiseBlock : Reader MarkedTag :=
  braced do
    readOtherwise
    return .otherwiseBlock (← readHead)

/-- The start of another branch. -/
def readOtherwiseTag : Reader MarkedTag :=
  braced do
    readOtherwise
    return .otherwise

/-- A value in three braces, the third ones inside or outside of the marks, or in two with `&`. -/
def readUnescaped : Reader MarkedTag :=
  firstOf [
    braced do
      exact "\x7b"
      space
      let tag ← readExpression
      symbol "\x7d"
      return tag,
    enclosed "\x7b\x7b\x7b" "\x7d\x7d\x7d" readExpression,
    braced do
      exact "&"
      space
      return .value (← readValue)]

/-- A tag of four braces: the start or the end of a block whose text is not read. -/
def readRaw : Reader MarkedTag :=
  enclosed "\x7b\x7b\x7b\x7b" "\x7d\x7d\x7d\x7d" <|
    orElse
      (do
        exact "/"
        space
        return Tag.closeRaw (← readName))
      (.openRaw <$> readHead)

/-- The rest of a list of characters after a given text in it. -/
def dropThrough (text : List Char) : List Char → Option (List Char)
  | [] => none
  | c :: rest =>
    match dropExact text (c :: rest) with
    | some after => some after
    | none => dropThrough text rest

/-- Everything up to a given text, and the text itself. -/
def readThrough (text : String) : Reader Unit :=
  fun cs => (dropThrough text.toList cs).map fun rest => .ok ((), rest)

/-- A comment; one that starts with two dashes may hold braces. -/
def readComment : Reader MarkedTag := do
  exact "\x7b\x7b!"
  orElse
    (do
      symbol "--"
      readThrough "--\x7d\x7d")
    (readThrough "\x7d\x7d")
  return { tag := .comment }

/-- The name of another template: plain, or any text in single quotes, which belong to the name. -/
def readTemplateName : Reader String := do
  String.ofList <$> firstOf [
    takeWhile1 fun c => isSymbolChar c || c == '/' || c == '.',
    taken do
      exact "'"
      let body ← many
        (do
          notBefore (exact "'")
          orElse (exact "\\'") (do let _ ← one fun _ => true))
        (← remaining)
      if body.isEmpty then absent
      exact "'"]

/-- The inclusion of another template. -/
def readInclusion : Reader MarkedTag :=
  braced do
    exact ">"
    space
    let name ← orElse
      (do return Argument.path ⟨← readTemplateName, []⟩)
      readValue
    let arguments ← readAllArguments
    return .inclusion name (gather arguments)

/-- A tag at the front of a text. -/
def readTag : Reader MarkedTag :=
  firstOf [
    readOtherwiseBlock,
    readOtherwiseTag,
    braced readExpression,
    readUnescaped,
    braced (do exact "#"; return .openBlock (← readHead)),
    readRaw,
    readComment,
    readInclusion,
    braced (do exact "/"; space; return .closeBlock (← readName))]

end Scaffold.Template
