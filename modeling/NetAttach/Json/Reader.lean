/-
  Reading JSON.

  The dialect is generous where values are concerned (`NaN`, `Infinity` and unpaired surrogates are read, a
  repeated name keeps its last value) and strict about everything else: white space is four characters, a
  comma is never the last thing in a list, a string holds no control character.

  A reader takes the text that is left and gives back a value and the text that is then left.  A refusal
  names the number of code points that were left at the place in question; only the outermost function turns
  that into a line and a column.  Two refusals are of another kind: an integer of more than 4300 digits is
  well-formed JSON and still is not read, and neither is what is nested deeper than there is room for.
-/
import NetAttach.Nesting
import NetAttach.Text.Encoding
import NetAttach.Value

namespace NetAttach.Json

/-! ## Refusals -/

/-- What is wrong at a place in a JSON text. -/
inductive Fault where
  | value
  | name
  | colon
  | comma
  | unterminated
  | control
  | escape
  | unicodeEscape
  | extraData
  | byteOrderMark
deriving DecidableEq

/-- What is said of the fault, without its place. -/
def Fault.text : Fault → Text
  | value => "Expecting value"
  | name => "Expecting property name enclosed in double quotes"
  | colon => "Expecting ':' delimiter"
  | comma => "Expecting ',' delimiter"
  | unterminated => "Unterminated string starting at"
  | control => "Invalid control character at"
  | escape => "Invalid \\escape"
  | unicodeEscape => "Invalid \\uXXXX escape"
  | extraData => "Extra data"
  | byteOrderMark => "Unexpected UTF-8 BOM (decode using utf-8-sig)"

/-- A refusal inside a text, with the number of code points that were left. -/
inductive Stop where
  | malformed (fault : Fault) (left : Nat)
  | longInteger (digits : Nat)
  | tooDeep (c : Collection)
deriving DecidableEq

/-- A refusal of a whole text, with the place counted from its start. -/
inductive Error where
  | malformed (fault : Fault) (line column index : Nat)
  | longInteger (digits : Nat)
  | tooDeep (c : Collection)
deriving DecidableEq

namespace Error

/-- Lines and columns count from one, code points from zero. -/
def message : Error → Text
  | malformed fault line column index =>
    fault.text ++ ": line " ++ Text.ofNat line ++ " column " ++ Text.ofNat column ++
      " (char " ++ Text.ofNat index ++ ")"
  | longInteger digits => IntegerFault.tooLongMessage digits
  | tooDeep c => (Descent.reading c).message

/-- A fault at place `index` of `text`. -/
def locate (text : Text) (fault : Fault) (index : Nat) : Error :=
  let before := text.take index
  let newline := CodePoint.ofChar '\n'
  .malformed fault (before.count newline + 1)
    ((before.reverse.takeWhile fun c => c ≠ newline).length + 1) index

/-- Turn what was left of `text` into a place in it. -/
def ofStop (text : Text) : Stop → Error
  | .malformed fault left => locate text fault (text.length - left)
  | .longInteger digits => .longInteger digits
  | .tooDeep c => .tooDeep c

end Error

/-- Refuse the text `rest` for a fault at its first code point. -/
def refuse {α : Type} (fault : Fault) (rest : Text) : Except Stop α :=
  .error (.malformed fault rest.length)

/-! ## White space -/

/-- The white space of JSON. -/
def isBlank (c : CodePoint) : Bool :=
  c.number = 0x20 || c.number = 0x09 || c.number = 0x0A || c.number = 0x0D

/-- The text behind its blanks. -/
def skipBlanks (text : Text) : Text := text.dropWhile isBlank

/-! ## Strings -/

/-- The value of a hexadecimal digit. -/
def hexValue? (c : CodePoint) : Option Nat :=
  if c.isAsciiDigit then some (c.number - 0x30)
  else if c.isWithin 0x61 0x66 then some (c.number - 0x61 + 10)
  else if c.isWithin 0x41 0x46 then some (c.number - 0x41 + 10)
  else none

/-- The number spelled by the four hexadecimal digits at the start of a text. -/
def unit? (text : Text) : Option Nat :=
  match text.take 4 |>.mapM hexValue? with
  | some [a, b, c, d] => some (((a * 16 + b) * 16 + c) * 16 + d)
  | _ => none

/-- The code point that an escape of one letter stands for. -/
def shortEscape? (c : CodePoint) : Option CodePoint :=
  if c = '"' ∨ c = '\\' ∨ c = '/' then some c
  else if c = 'b' then some '\x08'
  else if c = 'f' then some '\x0C'
  else if c = 'n' then some '\n'
  else if c = 'r' then some '\r'
  else if c = 't' then some '\t'
  else none

/-- A code point by a number that is known to be small enough. -/
def pointOfUnit (n : Nat) : CodePoint := (CodePoint.ofNat? n).getD default

/-- The code point of an escape in digits, and how many code points spell it; `digits` is what follows the
letter `u`.

Two escapes that spell a high and a low surrogate are one code point.  The digits must be followed by
something, and so must those of a second escape. -/
def unicodeEscape (digits : Text) : Except Stop (CodePoint × Nat) :=
  let tail := digits.drop 4
  match unit? digits with
  | none => .error (.malformed .unicodeEscape (digits.length + 1))
  | some n =>
    if tail.isEmpty then .error (.malformed .unicodeEscape (digits.length + 1))
    else if 0xD800 ≤ n ∧ n < 0xDC00 ∧ tail.take 2 = "\\u" ∧ 6 < tail.length then
      match unit? (tail.drop 2) with
      | none => .error (.malformed .unicodeEscape (tail.length - 1))
      | some low =>
        if 0xDC00 ≤ low ∧ low < 0xE000 then
          .ok (pointOfUnit (Encoding.joinSurrogates n low), 10)
        else .ok (pointOfUnit n, 4)
    else .ok (pointOfUnit n, 4)

/-- The code point that the text `c :: rest` inside a string begins with, and how many further code points
spell it. -/
def stringElement (opening : Nat) (c : CodePoint) (rest : Text) : Except Stop (CodePoint × Nat) :=
  if c = '\\' then
    match rest with
    | [] => .error (.malformed .unterminated opening)
    | e :: more =>
      if e = 'u' then (unicodeEscape more).map fun (x, count) => (x, count + 1)
      else
        match shortEscape? e with
        | none => refuse .escape (c :: rest)
        | some x => .ok (x, 1)
  else if c.number ≤ 0x1F then refuse .control (c :: rest)
  else .ok (c, 0)

/-- The string from behind its opening mark on, and what follows the closing one; `opening` is what was
left at the opening mark.  The first `skip` code points belong to an escape that has been read. -/
def stringBody (opening : Nat) : (skip : Nat) → Text → Except Stop (Text × Text)
  | _, [] => .error (.malformed .unterminated opening)
  | skip + 1, _ :: rest => stringBody opening skip rest
  | 0, c :: rest =>
    if c = '"' then .ok ([], rest)
    else
      match stringElement opening c rest with
      | .error stop => .error stop
      | .ok (x, count) => (stringBody opening count rest).map fun (t, left) => (x :: t, left)

/-! ## Numbers -/

/-- The ASCII digits at the start of a text, and what follows. -/
def takeDigits (text : Text) : List Nat × Text :=
  ((text.takeWhile CodePoint.isAsciiDigit).map fun c => c.number - 0x30,
    text.dropWhile CodePoint.isAsciiDigit)

/-- The whole part of a number: one zero, or digits that do not begin with a zero. -/
def takeWhole (text : Text) : List Nat × Text :=
  match text with
  | [] => ([], [])
  | c :: rest => if c = '0' then ([0], rest) else takeDigits text

/-- The digits behind a point; the point is left where it is when no digit follows. -/
def takeFraction (text : Text) : Option (List Nat × Text) :=
  match text with
  | [] => none
  | c :: rest =>
    if c = '.' then
      match takeDigits rest with
      | ([], _) => none
      | taken => some taken
    else none

/-- The exponent of a number; the letter is left where it is when no digit follows. -/
def takeExponent (text : Text) : Option (Int × Text) :=
  match text with
  | [] => none
  | c :: rest =>
    if c = 'e' ∨ c = 'E' then
      let (negative, unsigned) := Text.takeSign rest
      match takeDigits unsigned with
      | ([], _) => none
      | (digits, left) =>
        let size : Int := natOfDigits digits
        some (if negative then -size else size, left)
    else none

/-- A number.  With a fraction or an exponent it is a double, without them an integer. -/
def number (text : Text) : Except Stop (Value × Text) :=
  let (negative, unsigned) : Bool × Text :=
    match text with
    | [] => (false, [])
    | c :: rest => if c = '-' then (true, rest) else (false, text)
  match takeWhole unsigned with
  | ([], _) => refuse .value text
  | (whole, rest) =>
    match takeFraction rest, takeExponent ((takeFraction rest).elim rest (·.2)) with
    | none, none =>
      if integerDigitLimit < whole.length then .error (.longInteger whole.length)
      else
        let size : Int := natOfDigits whole
        .ok (.int (if negative then -size else size), rest)
    | fraction, exponent =>
      let digits := fraction.elim [] (·.1)
      let power := exponent.elim 0 (·.1)
      let left := exponent.elim (fraction.elim rest (·.2)) (·.2)
      .ok (.float (Double.ofDecimal negative (natOfDigits (whole ++ digits)) (power - digits.length)),
        left)

/-! ## Values -/

/-- The words that stand for values. -/
def words : List (Text × Value) := [
  ("null", .null), ("true", .bool true), ("false", .bool false), ("NaN", .float (0 / 0)),
  ("Infinity", .float (1 / 0)), ("-Infinity", .float (-(1 / 0)))]

/-- The word at the start of a text, and what follows. -/
def word? (text : Text) : Option (Value × Text) :=
  words.findSome? fun (w, v) => (Text.after? w text).map fun rest => (v, rest)

mutual

/-- A value, at the very start of the text; `room` is how many collections around each other can be entered. -/
def value : (fuel room : Nat) → Text → Except Stop (Value × Text)
  | 0, _, text => refuse .value text
  | fuel + 1, room, text =>
    match text with
    | [] => refuse .value text
    | c :: rest =>
      if c = '"' then
        (stringBody text.length 0 rest).map fun (t, left) => (.text t, left)
      else if c = '{' then
        match room with
        | 0 => .error (.tooDeep .object)
        | room + 1 =>
          match skipBlanks rest with
          | [] => refuse .name []
          | d :: more =>
            if d = '}' then .ok (.mapping [], more)
            else (members fuel room [] (d :: more)).map fun (entries, left) => (.mapping entries, left)
      else if c = '[' then
        match room with
        | 0 => .error (.tooDeep .list)
        | room + 1 =>
          match skipBlanks rest with
          | [] => refuse .value []
          | d :: more =>
            if d = ']' then .ok (.list [], more)
            else (elements fuel room (d :: more)).map fun (items, left) => (.list items, left)
      else
        match word? text with
        | some taken => .ok taken
        | none => number text

/-- The items of a list from one item on, to behind the closing bracket. -/
def elements : (fuel room : Nat) → Text → Except Stop (List Value × Text)
  | 0, _, text => refuse .value text
  | fuel + 1, room, text =>
    match value fuel room text with
    | .error stop => .error stop
    | .ok (v, rest) =>
      match skipBlanks rest with
      | [] => refuse .comma []
      | c :: more =>
        if c = ']' then .ok ([v], more)
        else if c = ',' then
          (elements fuel room (skipBlanks more)).map fun (items, left) => (v :: items, left)
        else refuse .comma (c :: more)

/-- The entries of a mapping from one name on, to behind the closing brace, added to `entries`. -/
def members : (fuel room : Nat) → Entries → Text → Except Stop (Entries × Text)
  | 0, _, _, text => refuse .name text
  | fuel + 1, room, entries, text =>
    match text with
    | [] => refuse .name []
    | q :: rest =>
      if q = '"' then
        match stringBody text.length 0 rest with
        | .error stop => .error stop
        | .ok (key, rest) =>
          match skipBlanks rest with
          | [] => refuse .colon []
          | c :: rest =>
            if c = ':' then
              match value fuel room (skipBlanks rest) with
              | .error stop => .error stop
              | .ok (v, rest) =>
                let entries := entries.put (.text key) v
                match skipBlanks rest with
                | [] => refuse .comma []
                | d :: more =>
                  if d = '}' then .ok (entries, more)
                  else if d = ',' then members fuel room entries (skipBlanks more)
                  else refuse .comma (d :: more)
            else refuse .colon (c :: rest)
      else refuse .name text

end

/-- A value with white space around it, and nothing else. -/
def document (room : Nat) (text : Text) : Except Stop Value :=
  match value (2 * text.length + 2) room (skipBlanks text) with
  | .error stop => .error stop
  | .ok (v, rest) =>
    match skipBlanks rest with
    | [] => .ok v
    | c :: more => refuse .extraData (c :: more)

/-- Read a JSON text with the given room.  A byte order mark is refused in a text, as it is only for bytes. -/
def readWithin (room : Nat) (text : Text) : Except Error Value :=
  if text.head? = some (CodePoint.ofChar '\uFEFF') then
    .error (.locate text .byteOrderMark 0)
  else (document room text).mapError (Error.ofStop text)

/-- Read a JSON text, with as much room as usual. -/
def read (text : Text) : Except Error Value := readWithin Nesting.usualRoom text

/-! ## Bytes -/

/-- Why bytes are not read as JSON. -/
inductive BytesError where
  | encoding (e : Encoding.Error)
  | json (e : Error)
deriving DecidableEq

/-- What is said of bytes that hold no document. -/
def BytesError.message : BytesError → Text
  | encoding e => e.message
  | json e => e.message

/-- Read JSON in UTF-8, UTF-16 or UTF-32.  A byte order mark says which of them it is; a second one is an
ordinary code point, with which no value begins. -/
def readBytes (room : Nat) (bytes : Bytes) : Except BytesError Value :=
  match Encoding.decode bytes with
  | .error e => .error (.encoding e)
  | .ok text => (document room text).mapError fun stop => .json (.ofStop text stop)

example : (read "[1, \"a\\u00e9\", null]").toOption =
    some (.list [.int 1, .text "aé", .null]) := by decide +kernel
example : (read "[1,]").toOption = none := by decide +kernel
example : (readWithin 3 "[[[]]]").toOption = some (.list [.list [.list []]]) := by decide +kernel
example : (readWithin 2 "[[[]]]").toOption = none := by decide +kernel

end NetAttach.Json
