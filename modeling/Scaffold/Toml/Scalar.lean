import Scaffold.Json.Reader
import Scaffold.Text.Reader
import Scaffold.Toml.Basic

/-!
# TOML strings, numbers and dates

## Main Definitions

* `readString` — a text in one of the four kinds of quotes
* `readDatetime` — a date, a time, or both
* `readFloat`, `readInteger` — numbers

## Design Notes

A text over several lines has line feeds for its line breaks. A date and a time are kept as text: with a `T`
between them, with no more than nine digits after the second and no zeros at their end.
-/

namespace Scaffold.Toml

open Text Text.Reader Number

/-- Whether a character may stand in a comment or, but for quotes and backslashes, in a text. -/
def isPlainChar (c : Char) : Bool :=
  c == '\t' || (0x20 ≤ c.toNat && c.toNat != 0x7f)

/-- Whether a character is a space or a tab. -/
def isSpaceChar (c : Char) : Bool :=
  c == ' ' || c == '\t'

/-- Skips spaces and tabs. -/
def space : Reader Unit :=
  modify (List.dropWhile isSpaceChar)

/-- A line break. -/
def newline : Reader Unit :=
  orElse (exact "\n") (exact "\r\n")

/-! ### Strings -/

/-- A character by its code point in a number of hexadecimal digits. -/
def readCodePoint (digits : Nat) : Reader Char := do
  let cs ← get
  let taken := cs.take digits
  set (cs.drop digits)
  match taken.mapM Json.hexValue? with
  | none => absent
  | some values =>
    let point := values.foldl (fun n d => n * 16 + d) 0
    if taken.length = digits ∧ point.isValidChar then pure (Char.ofNat point) else absent

/-- An escape after its backslash. -/
def readEscape : Reader Char := do
  match ← one fun _ => true with
  | 'b' => pure '\x08'
  | 't' => pure '\t'
  | 'n' => pure '\n'
  | 'f' => pure '\x0c'
  | 'r' => pure '\r'
  | '"' => pure '"'
  | '\\' => pure '\\'
  | 'u' => readCodePoint 4
  | 'U' => readCodePoint 8
  | _ => absent

/-- A text in double quotes on one line. -/
def readBasicString : Reader String := do
  exact "\""
  let cs ← many
    (orElse (one fun c => isPlainChar c && c != '"' && c != '\\') (do exact "\\"; readEscape))
    (← remaining)
  exact "\""
  return String.ofList cs

/-- A text in single quotes on one line. -/
def readLiteralString : Reader String := do
  exact "'"
  let cs ← takeWhile fun c => isPlainChar c && c != '\''
  exact "'"
  return String.ofList cs

/-- A line break inside a text that is not part of it: a backslash at the end of a line, and all white
space that follows. -/
def readContinuation : Reader Unit := do
  exact "\\"
  space
  newline
  let _ ← many
    (orElse newline do
      let _ ← takeWhile1 isSpaceChar)
    (← remaining)

/-- One or two quotes that a third does not follow. -/
def readQuotes (quote : Char) : Reader (List Char) := do
  let quotes ← takeWhile1 (· == quote)
  if quotes.length < 3 then pure quotes else absent

/-- The quotes at the end of a text over several lines: three that end it, after at most two that are
part of it. -/
def readClosing (quote : Char) : Reader (List Char) := do
  let quotes ← takeWhile1 (· == quote)
  if 3 ≤ quotes.length ∧ quotes.length ≤ 5 then pure (quotes.drop 3) else absent

/-- A text in three quotes, from one kind of content. -/
def readMultiline (quote : Char) (content : Reader (List Char)) : Reader String := do
  exact (String.ofList [quote, quote, quote])
  let _ ← found newline
  let parts ← many
    (firstOf [content, (do newline; return ['\n']), readQuotes quote])
    (← remaining)
  let closing ← readClosing quote
  return String.ofList (parts.flatten ++ closing)

/-- A text in double quotes over several lines. -/
def readMultilineBasic : Reader String :=
  readMultiline '"' <|
    firstOf [
      takeWhile1 fun c => isPlainChar c && c != '"' && c != '\\',
      (do readContinuation; return []),
      (do exact "\\"; return [← readEscape])]

/-- A text in single quotes over several lines. -/
def readMultilineLiteral : Reader String :=
  readMultiline '\'' (takeWhile1 fun c => isPlainChar c && c != '\'')

/-- A text in one of the four kinds of quotes. -/
def readString : Reader String := do
  let cs ← get
  if ['"', '"', '"'].isPrefixOf cs then readMultilineBasic
  else if ['\'', '\'', '\''].isPrefixOf cs then readMultilineLiteral
  else orElse readBasicString readLiteralString

/-! ### Numbers -/

/-- The digits that a reader takes, without the underscores between them. -/
def readDigits (isDigit : Char → Bool) : Reader (List Char) := do
  let first ← one isDigit
  let more ← many
    (do
      let _ ← found (exact "_")
      one isDigit)
    (← remaining)
  return first :: more

/-- A sign; whether it is a minus. -/
def readSign : Reader Bool :=
  firstOf [(do exact "-"; return true), (do exact "+"; return false), pure false]

/-- The digits of a decimal number, with no zero in front of others. -/
def readDecimalDigits : Reader (List Char) :=
  orElse
    (do
      let c ← one (· == '0')
      return [c])
    (readDigits Char.isDigit)

/-- The number that digits of a base stand for. -/
def numberOf (base : Nat) (digits : List Char) : Nat :=
  digits.foldl (fun n c => n * base + (Json.hexValue? c).getD 0) 0

/-- A number that fits into 64 bits. -/
def checked (value : Int) : Reader Int :=
  if -Nat.pow 2 63 ≤ value ∧ value < Nat.pow 2 63 then pure value else absent

/-- A whole number after the sign of its base. -/
def readBased (sign : String) (base : Nat) (isDigit : Char → Bool) : Reader Int := do
  exact sign
  checked (numberOf base (← readDigits isDigit))

/-- A whole number. -/
def readInteger : Reader Int :=
  firstOf [
    readBased "0x" 16 fun c => (Json.hexValue? c).isSome,
    readBased "0o" 8 fun c => '0' ≤ c && c ≤ '7',
    readBased "0b" 2 fun c => c == '0' || c == '1',
    do
      let negative ← readSign
      let value := numberOf 10 (← readDecimalDigits)
      checked (if negative then -value else value)]

/-- The exponent of a floating-point number. -/
def readExponent : Reader Int := do
  let _ ← one fun c => c == 'e' || c == 'E'
  let negative ← readSign
  let value := numberOf 10 (← readDigits Char.isDigit)
  return if negative then -value else value

/-- A floating-point number in digits; too large a positive one is refused. -/
def readDigitFloat : Reader Binary64 := do
  let negative ← readSign
  let whole ← readDecimalDigits
  let (fraction, exponent) ← orElse
    (do
      let exponent ← readExponent
      return ([], exponent))
    (do
      exact "."
      let fraction ← readDigits Char.isDigit
      let exponent ← optional readExponent
      return (fraction, exponent.getD 0))
  let value := Binary64.ofScientific negative (numberOf 10 (whole ++ fraction))
    (exponent - fraction.length)
  if value = .infinite false then absent else pure value

/-- A floating-point number. -/
def readFloat : Reader Binary64 :=
  orElse readDigitFloat do
    let negative ← readSign
    orElse
      (do
        exact "inf"
        return .infinite negative)
      (do
        exact "nan"
        return .nan)

/-! ### Dates and times -/

/-- A number of exactly so many digits. -/
def readFixed (count : Nat) : Reader (Nat × List Char) := do
  let cs ← get
  let digits := cs.take count
  set (cs.drop count)
  if digits.length = count ∧ digits.all Char.isDigit then pure (numberOf 10 digits, digits)
  else absent

/-- Two digits of a number between bounds. -/
def readTwo (low high : Nat) : Reader (Nat × List Char) := do
  let (value, digits) ← readFixed 2
  if low ≤ value ∧ value ≤ high then pure (value, digits) else absent

/-- The number of days in a month. -/
def daysIn (year month : Nat) : Nat :=
  if month = 2 then
    if year % 4 = 0 ∧ (year % 100 ≠ 0 ∨ year % 400 = 0) then 29 else 28
  else if [4, 6, 9, 11].contains month then 30
  else 31

/-- A date. -/
def readDate : Reader (List Char) := do
  let (year, yearDigits) ← readFixed 4
  exact "-"
  let (month, monthDigits) ← readTwo 1 12
  exact "-"
  let (_, dayDigits) ← readTwo 1 (daysIn year month)
  return yearDigits ++ '-' :: monthDigits ++ '-' :: dayDigits

/-- The fraction of a second, without zeros at its end. -/
def fractionText (digits : List Char) : List Char :=
  match ((digits.take 9).reverse.dropWhile (· == '0')).reverse with
  | [] => []
  | digits => '.' :: digits

/-- A time of day. -/
def readTime : Reader (List Char) := do
  let (_, hour) ← readTwo 0 23
  exact ":"
  let (_, minute) ← readTwo 0 59
  exact ":"
  let (_, second) ← readTwo 0 60
  let fraction ← optional (do exact "."; takeWhile1 Char.isDigit)
  return hour ++ ':' :: minute ++ ':' :: second ++ fractionText (fraction.getD [])

/-- The difference of a time from universal time. -/
def readOffset : Reader (List Char) :=
  orElse
    (do
      let _ ← one fun c => c == 'Z' || c == 'z'
      return ['Z'])
    (do
      let sign ← one fun c => c == '+' || c == '-'
      let (hours, hour) ← readTwo 0 23
      exact ":"
      let (minutes, minute) ← readTwo 0 59
      let sign := if hours = 0 ∧ minutes = 0 then '+' else sign
      return sign :: hour ++ ':' :: minute)

/-- A date, a time, or both, in its normal form. -/
def readDatetime : Reader String :=
  orElse
    (do
      let date ← readDate
      let time ← optional do
        let _ ← one fun c => c == 'T' || c == 't' || c == ' '
        let time ← readTime
        let offset ← optional readOffset
        return 'T' :: time ++ offset.getD []
      return String.ofList (date ++ time.getD []))
    (String.ofList <$> readTime)

end Scaffold.Toml
