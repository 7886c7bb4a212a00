import Scaffold.Template.Layout

/-!
# Reading templates

The pieces of a template are put together to elements: a block runs from its start to the tag that closes it and
names the same helper, with at most one other branch.

## Main Definitions

* `readElements` — the elements up to a tag that ends them
* `ofText?` — the template of a text
-/

namespace Scaffold.Template

mutual

/-- The elements at the front of pieces, up to a tag that closes a block or starts its other
branch. -/
def readElements : (fuel : Nat) → List Piece → Option (List Element × List Piece)
  | 0, _ => none
  | _, [] => some ([], [])
  | fuel + 1, .text text :: rest => do
    let (more, rest) ← readElements fuel rest
    return (.text text :: more, rest)
  | fuel + 1, .tag tag indent :: rest =>
    match tag with
    | .value value => do
      let (more, rest) ← readElements fuel rest
      return (.value value :: more, rest)
    | .call name arguments => do
      let (more, rest) ← readElements fuel rest
      return (.call name arguments :: more, rest)
    | .inclusion name arguments => do
      let (more, rest) ← readElements fuel rest
      return (.inclusion name arguments indent :: more, rest)
    | .comment => readElements fuel rest
    | .openBlock head => do
      let (block, rest) ← readBlock fuel head.name head rest
      let (more, rest) ← readElements fuel rest
      return (block :: more, rest)
    | .openRaw head => do
      let (body, rest) ← readRawText rest
      match rest with
      | .tag (.closeRaw name) _ :: rest =>
        if name = head.name then
          let (more, rest) ← readElements fuel rest
          return (.block head body none :: more, rest)
        else none
      | _ => none
    | _ => some ([], .tag tag indent :: rest)

/-- A block after its start, up to the tag that closes it. -/
def readBlock : (fuel : Nat) → (name : String) → Head → List Piece → Option (Element × List Piece)
  | 0, _, _, _ => none
  | fuel + 1, name, head, pieces => do
    let (body, rest) ← readElements fuel pieces
    match rest with
    | .tag (.closeBlock closing) _ :: rest =>
      if closing = name then return (.block head body none, rest) else none
    | .tag .otherwise _ :: rest => do
      let (branch, rest) ← readElements fuel rest
      match rest with
      | .tag (.closeBlock closing) _ :: rest =>
        if closing = name then return (.block head body (some branch), rest) else none
      | _ => none
    | .tag (.otherwiseBlock next) _ :: rest => do
      let (branch, rest) ← readBlock fuel name next rest
      return (.block head body (some [branch]), rest)
    | _ => none

/-- The text of a block that is not read. -/
def readRawText : List Piece → Option (List Element × List Piece)
  | .text text :: rest => some ([.text text], rest)
  | rest => some ([], rest)

end

/-- The template of a text; none if the text breaks the grammar. -/
def ofText? (text : String) : Option Template := do
  let tokens ← scan text.toList
  let pieces := layOut {} tokens
  match ← readElements (2 * pieces.length + 1) pieces with
  | (elements, []) => some elements
  | _ => none

end Scaffold.Template
