/-
  Places in a YAML text.

  Columns decide where a collection ends, and lines decide what may be the key of a mapping, so a cursor knows
  its place: the code points, the lines and the columns before it.  A byte order mark takes up no column.
-/
import NetAttach.Text.CodePoint

namespace NetAttach.Yaml

/-! ## Kinds of code points -/

/-- The ends of lines.  A carriage return is none, since texts are read with line feeds in its place. -/
def isBreak (c : CodePoint) : Bool :=
  c = '\n' || c.number = 0x85 || c.number = 0x2028 || c.number = 0x2029

/-- A space, a tab or the end of a line. -/
def isGap (c : CodePoint) : Bool := c = ' ' || c = '\t' || isBreak c

/-- A letter or digit of ASCII, a dash or an underscore. -/
def isNameLetter (c : CodePoint) : Bool :=
  c.isAsciiDigit || c.isAsciiLower || c.isAsciiUpper || c = '-' || c = '_'

/-- Nothing follows, or a code point of the given kind. -/
def isEmptyOr (kind : CodePoint → Bool) : Text → Bool
  | [] => true
  | c :: _ => kind c

/-- Nothing follows, or a gap. -/
def endsWord : Text → Bool := isEmptyOr isGap

/-- Nothing follows, or the end of the line. -/
def endsLine : Text → Bool := isEmptyOr isBreak

/-- Nothing follows, or a space or the end of the line. -/
def endsField : Text → Bool := isEmptyOr fun c => c = ' ' || isBreak c

/-- The text begins with three dashes or three dots that stand alone. -/
def startsMarker (t : Text) : Bool :=
  (t.take 3 = "---" || t.take 3 = "...") && endsWord (t.drop 3)

/-! ## Cursors -/

/-- A place in a text. -/
structure Place where
  index : Nat
  line : Nat
  column : Nat

/-- The place behind a code point. -/
def Place.behind (p : Place) (c : CodePoint) : Place :=
  if isBreak c then ⟨p.index + 1, p.line + 1, 0⟩
  else if c.number = 0xFEFF then ⟨p.index + 1, p.line, p.column⟩
  else ⟨p.index + 1, p.line, p.column + 1⟩

/-- A place and the text from there on. -/
structure Cursor where
  place : Place
  rest : Text

namespace Cursor

/-- The start of a text.  A byte order mark there is passed over. -/
def ofText (t : Text) : Cursor :=
  match t with
  | [] => ⟨⟨0, 0, 0⟩, []⟩
  | c :: rest => if c.number = 0xFEFF then ⟨⟨1, 0, 0⟩, rest⟩ else ⟨⟨0, 0, 0⟩, c :: rest⟩

/-- The cursor `n` code points further on. -/
def advance (n : Nat) (cur : Cursor) : Cursor :=
  match n, cur with
  | 0, cur => cur
  | _ + 1, ⟨p, []⟩ => ⟨p, []⟩
  | n + 1, ⟨p, c :: rest⟩ => advance n ⟨p.behind c, rest⟩

/-- The code points of one kind that follow, and the cursor behind them. -/
def span (kind : CodePoint → Bool) (cur : Cursor) : Text × Cursor :=
  let run := cur.rest.takeWhile kind
  (run, cur.advance run.length)

/-- The cursor behind the code points of one kind. -/
def dropWhile (kind : CodePoint → Bool) (cur : Cursor) : Cursor := (cur.span kind).2

/-- The code point at the cursor is the given one. -/
def isAt (cur : Cursor) (c : Char) : Bool := cur.rest.head? = some (CodePoint.ofChar c)

/-- The cursor stands at a mark between documents. -/
def atMarker (cur : Cursor) : Bool := cur.place.column = 0 && startsMarker cur.rest

end Cursor

/-! ## Between words -/

/-- Pass over spaces, comments and the ends of lines; the flag says whether a line has ended. -/
def skipFrom : (comment broken : Bool) → Place → Text → Cursor × Bool
  | _, broken, p, [] => (⟨p, []⟩, broken)
  | comment, broken, p, c :: rest =>
    if isBreak c then skipFrom false true (p.behind c) rest
    else if comment || c = ' ' then skipFrom comment broken (p.behind c) rest
    else if c = '#' then skipFrom true broken (p.behind c) rest
    else (⟨p, c :: rest⟩, broken)

namespace Cursor

/-- Go on to the next thing that is written, and say whether that is on another line. -/
def skip (cur : Cursor) : Cursor × Bool := skipFrom false false cur.place cur.rest

/-- The end of the line, before which there may be spaces and a comment; absent if there is anything else. -/
def lineEnd? (cur : Cursor) : Option Cursor :=
  let cur := cur.dropWhile fun c => c = ' '
  let cur := if cur.isAt '#' then cur.dropWhile fun c => !isBreak c else cur
  if endsLine cur.rest then some (cur.advance 1) else none

end Cursor

/-! ## Line ends inside scalars -/

/-- The end of a line as it is kept in a scalar. -/
def lineFeed (c : CodePoint) : CodePoint := if c.number = 0x85 then '\n' else c

/-- Pass over empty lines and indentation inside a scalar, up to a mark between documents; the ends of lines
are kept.  With `tabs`, tabs are indentation too. -/
def takeBreaks (tabs : Bool) : Place → Text → Text × Cursor
  | p, [] => ([], ⟨p, []⟩)
  | p, c :: rest =>
    if p.column = 0 && startsMarker (c :: rest) then ([], ⟨p, c :: rest⟩)
    else if c = ' ' || (tabs && c = '\t') then takeBreaks tabs (p.behind c) rest
    else if isBreak c then
      let (breaks, cur) := takeBreaks tabs (p.behind c) rest
      (lineFeed c :: breaks, cur)
    else ([], ⟨p, c :: rest⟩)

/-- What the end `c` of a line and the ends of the empty lines behind it become in a scalar: a single line
end is a space. -/
def fold (c : CodePoint) (breaks : Text) : Text :=
  if lineFeed c ≠ '\n' then lineFeed c :: breaks
  else if breaks.isEmpty then " "
  else breaks

example : (Cursor.skip (.ofText " # a\n  b")).1.place.column = 2 := by decide

end NetAttach.Yaml
