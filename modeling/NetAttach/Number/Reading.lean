/-
  Numbers read from text a person wrote.

  The readers are generous: white space may stand around the number, digits may come from any script, and
  single underscores may part the digits.  A decimal integer of more than 4300 digits is refused, since
  turning that many digits into a number takes quadratic time; a double has no such limit, it just becomes
  infinite.  Bytes are read as numbers too, as far as they are ASCII.
-/
import NetAttach.Bytes
import NetAttach.Text.Blank
import NetAttach.Text.Digit
import NetAttach.Text.Quoted

namespace NetAttach

/-- No integer of more digits than this is read or written. -/
def integerDigitLimit : Nat := 4300

/-- The natural number that a row of digits stands for in a base. -/
def natOfDigitsIn (base : Nat) (digits : List Nat) : Nat := digits.foldl (fun n d => base * n + d) 0

/-- The natural number that a row of decimal digits stands for. -/
def natOfDigits (digits : List Nat) : Nat := natOfDigitsIn 10 digits

/-- The double nearest to `digits · 10 ^ exponent`, with a sign. -/
def Double.ofDecimal (negative : Bool) (digits : Nat) (exponent : Int) : Float :=
  let size := Float.ofScientific digits (exponent < 0) exponent.natAbs
  if negative then -size else size

namespace Text

/-- White space that may stand around a number. -/
def isNumberBlank (c : CodePoint) : Bool := c.isPlainBlank || c.isWideBlank

/-- The digits of a base at the start of a text, with single underscores between them, and what follows. -/
def takeDigits (base : Nat) : Text → List Nat × Text
  | [] => ([], [])
  | c :: rest =>
    match c.digitValue? base with
    | none => ([], c :: rest)
    | some d =>
      match rest with
      | [] => ([d], [])
      | u :: more =>
        if u = '_' then
          match takeDigits base more with
          | ([], _) => ([d], u :: more)
          | (digits, left) => (d :: digits, left)
        else
          let (digits, left) := takeDigits base (u :: more)
          (d :: digits, left)

/-- A leading sign: whether it is a minus, and what follows. -/
def takeSign : Text → Bool × Text
  | [] => (false, [])
  | c :: rest =>
    if c = '-' then (true, rest) else if c = '+' then (false, rest) else (false, c :: rest)

end Text

/-- Why a text is not read as an integer. -/
inductive IntegerFault where
  /-- There is no integer of that base in what was to be read, which is given as messages repeat it. -/
  | malformed (base : Nat) (given : Text)
  | tooLong (digits : Nat)
deriving DecidableEq

namespace IntegerFault

/-- What is said of an integer with too many digits to be read. -/
def tooLongMessage (digits : Nat) : Text :=
  "Exceeds the limit (4300 digits) for integer string conversion: value has " ++ Text.ofNat digits ++
    " digits; use sys.set_int_max_str_digits() to increase the limit"

/-- What is said of an integer with too many digits to be written. -/
def unwritableMessage : Text :=
  "Exceeds the limit (4300 digits) for integer string conversion; " ++
    "use sys.set_int_max_str_digits() to increase the limit"

/-- What is said of a fault.  What is no integer is repeated as far as its first two hundred characters. -/
def message : IntegerFault → Text
  | malformed base given =>
    "invalid literal for int() with base " ++ Text.ofNat base ++ ": " ++ given.take 200
  | tooLong digits => tooLongMessage digits

end IntegerFault

namespace Text

/-- The letter that marks a number of the given base behind a zero. -/
def baseMark? (base : Nat) : Option CodePoint :=
  if base = 2 then some 'b' else if base = 8 then some 'o' else if base = 16 then some 'x' else none

/-- A text without the mark of its base, such as `0x`, and one underscore behind that. -/
def dropBaseMark (base : Nat) (t : Text) : Text :=
  match t with
  | zero :: letter :: rest =>
    if zero = '0' && (baseMark? base).any (toLowerAscii [letter] = [·]) then
      if rest.head? = some (CodePoint.ofChar '_') then rest.tail else rest
    else t
  | _ => t

/-- The integer written in `text` to the given base. -/
def toIntegerIn (base : Nat) (text : Text) : Except IntegerFault Int :=
  let (negative, unsigned) := takeSign (text.dropWhile isNumberBlank)
  let (digits, rest) := takeDigits base (dropBaseMark base unsigned)
  if digits.isEmpty || rest.head? = some (CodePoint.ofChar '_') then .error (.malformed base text.quoted)
  else if base = 10 && decide (integerDigitLimit < digits.length) then .error (.tooLong digits.length)
  else if rest.all isNumberBlank then
    let size : Int := natOfDigitsIn base digits
    .ok (if negative then -size else size)
  else .error (.malformed base text.quoted)

/-- The integer written in `text`. -/
def toInteger (text : Text) : Except IntegerFault Int := toIntegerIn 10 text

/-- The exponent at the start of a text, zero when there is none, and what follows it. -/
def takeExponent (text : Text) : Int × Text :=
  match text with
  | [] => (0, [])
  | e :: rest =>
    if e = 'e' || e = 'E' then
      let (negative, unsigned) := takeSign rest
      match takeDigits 10 unsigned with
      | ([], _) => (0, text)
      | (digits, left) =>
        let size : Int := natOfDigits digits
        (if negative then -size else size, left)
    else (0, text)

/-- The double written without a sign in `text`. -/
def toUnsignedDouble? (negative : Bool) (text : Text) : Option Float :=
  let word := text.toLowerAscii
  if word = "inf" || word = "infinity" then some (if negative then -(1 / 0) else 1 / 0)
  else if word = "nan" then some (0 / 0)
  else
    let (whole, rest) := takeDigits 10 text
    let (fraction, rest) :=
      match rest with
      | [] => ([], [])
      | p :: more => if p = '.' then takeDigits 10 more else ([], rest)
    if whole.isEmpty && fraction.isEmpty then none
    else
      let (exponent, rest) := takeExponent rest
      if rest.isEmpty then
        some (Double.ofDecimal negative (natOfDigits (whole ++ fraction)) (exponent - fraction.length))
      else none

/-- The double written in `text`. -/
def toDouble? (text : Text) : Option Float :=
  let (negative, unsigned) := takeSign (text.trim isNumberBlank)
  toUnsignedDouble? negative unsigned

example : Text.toInteger " -1_000 " = .ok (-1000) := rfl
example : Text.toInteger "5__0" = .error (.malformed 10 "'5__0'") := rfl
example : Text.toInteger "٣٤" = .ok 34 := rfl
example : Text.toIntegerIn 16 "0x_1F" = .ok 31 := rfl
example : Text.toDouble? "1._5" = none := by decide +kernel
example : Text.toDouble? " .5e1 " = some 5 := by decide +kernel

end Text

namespace Bytes

/-- Bytes as the characters of a number. -/
def numberText (bytes : Bytes) : Text := bytes.map CodePoint.ofAsciiByte

/-- The integer written in bytes.  Only the first two hundred of bytes that are no integer are repeated. -/
def toInteger (bytes : Bytes) : Except IntegerFault Int :=
  (Text.toInteger bytes.numberText).mapError fun
    | .malformed base _ => .malformed base (Bytes.quoted (bytes.take 200))
    | fault => fault

/-- The double written in bytes. -/
def toDouble? (bytes : Bytes) : Option Float := Text.toDouble? bytes.numberText

end Bytes

end NetAttach
