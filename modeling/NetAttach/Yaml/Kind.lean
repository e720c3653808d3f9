/-
  What a node of a YAML document can be.

  A node may state its type by name.  If it does not, a collection is what its form says, and the type of a
  scalar shows in its looks.  The rules are those of YAML 1.1, which sees numbers, truth values and days in many
  spellings: `yes`, `Off`, `~`, `017` for fifteen, `1:30` for ninety, `1_000`, `.inf`, `2001-12-14`.  What no
  rule claims is text.  A rule looks at the whole scalar, so `089` and `1e3` are texts; one line feed at the end
  does not count.
-/
import NetAttach.Yaml.Timestamp

namespace NetAttach.Yaml

/-- The types of nodes. -/
inductive Kind where
  | null
  | truth
  | integer
  | double
  | moment
  | bytes
  | text
  | sequence
  | mapping
  | set
  /-- A row of pairs. -/
  | pairs
  /-- A key that merges other mappings into its own. -/
  | merge
  /-- A key whose value may stand for the mapping. -/
  | standIn
  /-- A type that nothing is known of. -/
  | unknown
deriving DecidableEq

namespace Kind

/-! ## Names -/

/-- What the names of the common types begin with. -/
def commonStart : Text := "tag:yaml.org,2002:"

/-- The common types by name. -/
def common : List (Text × Kind) := [
  ("null", null), ("bool", truth), ("int", integer), ("float", double), ("timestamp", moment),
  ("binary", bytes), ("str", text), ("seq", sequence), ("map", mapping), ("set", set), ("omap", pairs),
  ("pairs", pairs), ("merge", merge), ("value", standIn)]

/-- The type of a name. -/
def ofName (name : Text) : Kind := ((Text.after? commonStart name).bind fun t => common.lookup t).getD unknown

/-! ## Words -/

/-- The words that look like truth values. -/
def truthWords : List Text := [
  "yes", "Yes", "YES", "no", "No", "NO", "true", "True", "TRUE", "false", "False", "FALSE",
  "on", "On", "ON", "off", "Off", "OFF"]

/-- The words that look like null. -/
def nullWords : List Text := ["~", "null", "Null", "NULL"]

/-- The words that look like something that no document can say. -/
def unknownWords : List Text := ["!", "&", "*"]

/-! ## Numbers -/

/-- The mark that may stand between digits. -/
def isUnderscore (c : CodePoint) : Bool := c = '_'

/-- Digits of a base with underscores anywhere among them. -/
def isDigitRow (base : Nat) (row : Text) : Bool :=
  row.all fun c => (c.asciiDigitValue? base).isSome || isUnderscore c

/-- A row of decimal digits that does not begin with an underscore. -/
def isDecimalRow (row : Text) : Bool := row.head?.any CodePoint.isAsciiDigit && isDigitRow 10 row

/-- A row of decimal digits that begins with one that is not zero. -/
def isWholeRow (row : Text) : Bool := row.head?.any (·.isWithin 0x31 0x39) && isDigitRow 10 row

/-- One or two digits for a number below sixty. -/
def isSixtieth (part : Text) : Bool :=
  match part with
  | [d] => d.isAsciiDigit
  | [t, d] => t.isWithin 0x30 0x35 && d.isAsciiDigit
  | _ => false

/-- The parts of a text between colons. -/
def partsOf (t : Text) : List Text := t.splitOn (CodePoint.ofChar ':')

/-- The looks of an integer without its sign. -/
def isIntegerSize (body : Text) : Bool :=
  match body with
  | [] => false
  | [d] => d.isAsciiDigit
  | zero :: mark :: row =>
    if zero = '0' then
      if mark = 'b' then !row.isEmpty && isDigitRow 2 row
      else if mark = 'x' then !row.isEmpty && isDigitRow 16 row
      else isDigitRow 8 (mark :: row)
    else
      match partsOf body with
      | [] => false
      | whole :: sixtieths => isWholeRow whole && sixtieths.all isSixtieth

/-- An exponent with its letter and its sign, or nothing. -/
def isExponent (t : Text) : Bool :=
  match t with
  | [] => true
  | [_] | [_, _] => false
  | e :: sign :: digits =>
    (e = 'e' || e = 'E') && (sign = '-' || sign = '+') && digits.all CodePoint.isAsciiDigit

/-- Digits behind the point, and an exponent. -/
def isFraction (t : Text) : Bool := isExponent (t.dropWhile fun c => c.isAsciiDigit || isUnderscore c)

/-- The looks of a double without its sign. -/
def isDoubleSize (signed : Bool) (body : Text) : Bool :=
  body = ".inf" || body = ".Inf" || body = ".INF" ||
    (!signed && (body = ".nan" || body = ".NaN" || body = ".NAN")) ||
    match Text.cutFirst '.' body with
    | (_, none) => false
    | (whole, some fraction) =>
      if whole.isEmpty then !signed && fraction.head?.any CodePoint.isAsciiDigit && isFraction fraction
      else
        (isDecimalRow whole && isFraction fraction) ||
          match partsOf whole with
          | [] => false
          | first :: sixtieths => isDecimalRow first && sixtieths.all isSixtieth && isDigitRow 10 fraction

/-! ## Everything -/

/-- A text without one line feed at its end. -/
def dropFinalBreak (t : Text) : Text := if t.getLast? = some (CodePoint.ofChar '\n') then t.dropLast else t

/-- The type that shows in the looks of a scalar. -/
def ofLooks (t : Text) : Kind :=
  let line := dropFinalBreak t
  let size := (Text.takeSign line).2
  if t.isEmpty || nullWords.contains line then null
  else if truthWords.contains line then truth
  else if isIntegerSize size then integer
  else if isDoubleSize (decide (size.length < line.length)) size then double
  else if (Timestamp.ofPlain? line).isSome then moment
  else if line = "<<" then merge
  else if line = "=" then standIn
  else if unknownWords.contains line then unknown
  else text

example : ofLooks "017" = integer := by decide +kernel
example : ofLooks "089" = text := by decide +kernel
example : ofLooks "-1_0:30" = integer := by decide +kernel
example : ofLooks "8.0e+3\n" = double := by decide +kernel
example : ofLooks "1e3" = text := by decide +kernel
example : ofLooks "\n" = text := by decide +kernel
example : ofName "tag:yaml.org,2002:int" = integer := by decide +kernel

end Kind

end NetAttach.Yaml
