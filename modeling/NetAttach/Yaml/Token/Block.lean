/-
  Scalars by indentation.

  A bar keeps the lines below it as they are, and a greater-than sign folds them.  The indentation is that of
  the first line that is not empty, or is stated by a digit.  A plus keeps the line ends after the last line, a
  minus drops them all, and without either one of them is kept.
-/
import NetAttach.Yaml.Cursor
import NetAttach.Yaml.Error

namespace NetAttach.Yaml

/-- What becomes of the line ends after the last line. -/
inductive Chomping where
  | strip
  | clip
  | keep
deriving DecidableEq

/-- What stands behind the mark of a block scalar. -/
structure BlockHeader where
  chomping : Chomping
  /-- How much further the lines are indented than what surrounds them. -/
  increment : Option Nat

namespace BlockHeader

/-- A sign that says what becomes of the last line ends. -/
def chomping? (cur : Cursor) : Option Chomping :=
  if cur.isAt '+' then some .keep else if cur.isAt '-' then some .strip else none

/-- A digit that says how far the lines are indented. -/
def increment? (cur : Cursor) : Option Nat :=
  cur.rest.head?.bind fun c => if c.isAsciiDigit then some (c.number - 0x30) else none

/-- The header at the cursor, with its two parts in any order, and the start of the next line. -/
def read (cur : Cursor) : Option (BlockHeader × Cursor) :=
  let first := chomping? cur
  let cur := if first.isSome then cur.advance 1 else cur
  let increment := increment? cur
  let cur := if increment.isSome then cur.advance 1 else cur
  let second := if first.isNone && increment.isSome then chomping? cur else none
  let cur := if second.isSome then cur.advance 1 else cur
  if increment = some 0 || !endsField cur.rest then none
  else cur.lineEnd?.map fun next => (⟨(first.or second).getD .clip, increment⟩, next)

end BlockHeader

/-- Pass over empty lines, and over indentation up to the given column; the ends of lines are kept. -/
def takeEmptyLines (column : Nat) : Place → Text → Text × Cursor
  | p, [] => ([], ⟨p, []⟩)
  | p, c :: rest =>
    if c = ' ' && decide (p.column < column) then takeEmptyLines column (p.behind c) rest
    else if isBreak c then
      let (breaks, cur) := takeEmptyLines column (p.behind c) rest
      (lineFeed c :: breaks, cur)
    else ([], ⟨p, c :: rest⟩)

/-- Pass over empty lines and all indentation, and give the widest indentation on the way. -/
def takeIndentation : (widest : Nat) → Place → Text → Text × Nat × Cursor
  | widest, p, [] => ([], widest, ⟨p, []⟩)
  | widest, p, c :: rest =>
    if c = ' ' then takeIndentation (max widest (p.column + 1)) (p.behind c) rest
    else if isBreak c then
      let (breaks, found, cur) := takeIndentation widest (p.behind c) rest
      (lineFeed c :: breaks, found, cur)
    else ([], widest, ⟨p, c :: rest⟩)

/-- The lines of a block scalar from the start of one of them on, with empty lines `breaks` before it: the
text up to the end of the last line, the end of that line, the empty lines behind it, and the cursor. -/
def linesFrom (folded : Bool) (column : Nat) : (fuel : Nat) → (breaks : Text) → Cursor →
    Text × Text × Text × Cursor
  | 0, breaks, cur => ([], [], breaks, cur)
  | fuel + 1, breaks, cur =>
    let isSet (cur : Cursor) : Bool := cur.place.column = column && !cur.rest.isEmpty
    let isIndented (cur : Cursor) : Bool := cur.isAt ' ' || cur.isAt '\t'
    if !isSet cur then ([], [], breaks, cur)
    else
      let (line, finish) := cur.span fun c => !isBreak c
      let lineEnd : Text := (finish.rest.head?.map lineFeed).toList
      let behind := finish.advance 1
      let (others, next) := takeEmptyLines column behind.place behind.rest
      if isSet next then
        let folds := folded && lineEnd = "\n" && !isIndented cur && !isIndented next
        let joint : Text := if folds then if others.isEmpty then " " else [] else lineEnd
        let (more, lastEnd, last, finish) := linesFrom folded column fuel others next
        (breaks ++ line ++ joint ++ more, lastEnd, last, finish)
      else (breaks ++ line, lineEnd, others, next)

/-- The block scalar at the cursor, where what surrounds it leaves columns from `least` on to it. -/
def blockAt (least : Nat) (cur : Cursor) : Except Error (Text × Cursor) :=
  match BlockHeader.read (cur.advance 1) with
  | none => .error .malformed
  | some (header, start) =>
    let least := max least 1
    let (column, breaks, first) :=
      match header.increment with
      | some increment =>
        let column := least + increment - 1
        (column, takeEmptyLines column start.place start.rest)
      | none =>
        let (breaks, widest, first) := takeIndentation 0 start.place start.rest
        (max least widest, breaks, first)
    let (t, lineEnd, breaks, finish) := linesFrom (cur.isAt '>') column (cur.rest.length + 1) breaks first
    match header.chomping with
    | .strip => .ok (t, finish)
    | .clip => .ok (t ++ lineEnd, finish)
    | .keep => .ok (t ++ lineEnd ++ breaks, finish)

example : ((blockAt 0 (.ofText "|\n  a\n   b\n\nc")).toOption.map (·.1)) = some ("a\n b\n" : Text) := by
  decide +kernel
example : ((blockAt 0 (.ofText ">-\n a\n b\n\n c")).toOption.map (·.1)) = some ("a b\nc" : Text) := by
  decide +kernel

end NetAttach.Yaml
