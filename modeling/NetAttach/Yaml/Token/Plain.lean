/-
  Scalars without quotes.

  A plain scalar is made of runs with gaps between them.  A run ends at white space and at a colon that ends a
  key; between brackets it ends at the marks of collections too.  A gap is spaces, or line ends with the
  indentation of the next line, and becomes spaces or folded lines.  A gap behind the last run belongs to the
  scalar in so far as the next word is looked for behind it.
-/
import NetAttach.Yaml.Cursor

namespace NetAttach.Yaml

/-- Code points that end a plain scalar between brackets. -/
def isFlowMark (c : CodePoint) : Bool :=
  c = ',' || c = '[' || c = ']' || c = '{' || c = '}'

/-- The code point `c` before `rest` does not belong to a plain scalar. -/
def endsPlain (flow : Bool) (c : CodePoint) (rest : Text) : Bool :=
  isGap c || (c = ':' && (endsWord rest || (flow && rest.head?.any isFlowMark))) ||
    (flow && (isFlowMark c || c = '?'))

/-- The run at the start of a text. -/
def runOf (flow : Bool) : Text → Text
  | [] => []
  | c :: rest => if endsPlain flow c rest then [] else c :: runOf flow rest

/-- Marks that no plain scalar begins with. -/
def isIndicator (c : CodePoint) : Bool :=
  isFlowMark c || c = '-' || c = '?' || c = ':' || c = '#' || c = '&' || c = '*' || c = '!' || c = '|' ||
    c = '>' || c = '\'' || c = '"' || c = '%' || c = '@' || c.number = 0x60

/-- A plain scalar may begin with `c` before `rest`. -/
def startsPlain (flow : Bool) (c : CodePoint) (rest : Text) : Bool :=
  (!isGap c && !isIndicator c) ||
    (!endsWord rest && (c = '-' || (!flow && (c = '?' || c = ':'))))

/-- A plain scalar that has been read: where the next word is looked for, and whether the line of the last run
has ended before that. -/
structure Plain where
  text : Text
  finish : Cursor
  broken : Bool

/-- The gap behind a run: what becomes of it, where it ends, and whether it holds the end of a line.  Before a
mark between documents nothing becomes of it. -/
def gapBehind (cur : Cursor) : Text × Cursor × Bool :=
  let (spaces, next) := cur.span fun c => c = ' '
  match next.rest with
  | [] => (spaces, next, false)
  | c :: rest =>
    if isBreak c then
      let (breaks, next) := takeBreaks false (next.place.behind c) rest
      (if next.atMarker then [] else fold c breaks, next, true)
    else (spaces, next, false)

/-- A plain scalar from the start of one of its runs on.  Lines that go on begin in column `least` or to the
right of it, unless between brackets. -/
def plainFrom (flow : Bool) (least : Nat) : (fuel : Nat) → Cursor → Plain
  | 0, cur => ⟨[], cur, false⟩
  | fuel + 1, cur =>
    let run := runOf flow cur.rest
    let (gap, next, broken) := gapBehind (cur.advance run.length)
    if gap.isEmpty || next.isAt '#' || (!flow && decide (next.place.column < least)) ||
        (runOf flow next.rest).isEmpty then
      ⟨run, next, broken⟩
    else
      let more := plainFrom flow least fuel next
      { more with text := run ++ gap ++ more.text }

/-- The plain scalar at the cursor. -/
def Plain.at (flow : Bool) (least : Nat) (cur : Cursor) : Plain :=
  plainFrom flow least (cur.rest.length + 1) cur

example : (Plain.at false 1 (.ofText "a b\n  c: d")).text = ("a b c" : Text) := by decide +kernel
example : (Plain.at false 1 (.ofText "a b\n\n c\nd: e")).text = ("a b\nc" : Text) := by decide +kernel
example : (Plain.at true 0 (.ofText "a:b]")).text = ("a:b" : Text) := by decide +kernel

end NetAttach.Yaml
