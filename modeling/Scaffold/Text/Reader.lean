/-!
# Readers

A reader takes something off the front of a text. It finds it and keeps the rest, or it does not find it, and then
another reader may try; or it refuses the text, and then the whole reading fails.

## Main Definitions

* `Reader` — takes a value off the front of a list of characters
* `Reader.absent`, `Reader.refuse` — the two ways to fail
* `Reader.orElse` — a second reader for what the first does not find
* `Reader.exact`, `Reader.many` — fixed text, repetition
-/

namespace Scaffold.Text

/-- Takes a value off the front of a list of characters. -/
abbrev Reader := StateT (List Char) (ExceptT Unit Option)

namespace Reader

variable {α β : Type}

/-- Finds nothing. -/
def absent : Reader α :=
  fun _ => none

/-- Fails for good. -/
def refuse : Reader α :=
  fun _ => some (.error ())

/-- What a reader finds at the front of a list of characters. -/
def result? (reader : Reader α) (cs : List Char) : Option (α × List Char) :=
  match reader cs with
  | some (.ok found) => some found
  | _ => none

/-- The second reader where the first finds nothing. -/
def orElse (first second : Reader α) : Reader α :=
  fun cs =>
    match first cs with
    | none => second cs
    | found => found

/-- A value, if it is found; otherwise nothing is taken. -/
def optional (reader : Reader α) : Reader (Option α) :=
  orElse (some <$> reader) (pure none)

/-- Whether something is found; if so, it is taken. -/
def found (reader : Reader α) : Reader Bool :=
  Option.isSome <$> optional reader

/-- Finds nothing where a reader finds something, and takes nothing where it does not. -/
def notBefore (reader : Reader α) : Reader Unit :=
  fun cs =>
    match reader cs with
    | none => some (.ok ((), cs))
    | some (.ok _) => none
    | some (.error e) => some (.error e)

/-- The rest of a list of characters after a given beginning. -/
def dropExact : List Char → List Char → Option (List Char)
  | [], cs => some cs
  | _ :: _, [] => none
  | c :: expected, d :: cs => if c = d then dropExact expected cs else none

/-- Fixed text. -/
def exact (text : String) : Reader Unit :=
  fun cs => (dropExact text.toList cs).map fun rest => .ok ((), rest)

/-- One character that passes a test. -/
def one (test : Char → Bool) : Reader Char
  | [] => none
  | c :: rest => if test c then some (.ok (c, rest)) else none

/-- All characters up to the first that fails a test. -/
def takeWhile (test : Char → Bool) : Reader (List Char) :=
  fun cs => some (.ok (cs.takeWhile test, cs.dropWhile test))

/-- At least one character, and all up to the first that fails a test. -/
def takeWhile1 (test : Char → Bool) : Reader (List Char) := do
  let taken ← takeWhile test
  if taken.isEmpty then absent else pure taken

/-- The values that a reader finds one after the other, at most as many as `fuel`. -/
def many (reader : Reader α) : (fuel : Nat) → Reader (List α)
  | 0 => pure []
  | fuel + 1 => do
    match ← optional reader with
    | none => pure []
    | some first => return first :: (← many reader fuel)

/-- The number of characters that are left, which bounds every repetition. -/
def remaining : Reader Nat :=
  List.length <$> get

/-- Exactly one of the readers, the first that finds something. -/
def firstOf : List (Reader α) → Reader α
  | [] => absent
  | reader :: more => orElse reader (firstOf more)

end Reader

end Scaffold.Text
