/-
  What ends the reading of a YAML text.

  Most faults are faults of form and go by one name.  The others come from values that are well written but
  do not exist: an integer without digits, a code point beyond the last one, the thirtieth of February.
-/
import NetAttach.ErrorKind
import NetAttach.Moment
import NetAttach.Number.Reading

namespace NetAttach.Yaml

/-- Why a YAML text is not read. -/
inductive Error where
  | malformed
  /-- An integer has too many digits, or is none although it is said to be one. -/
  | integer (fault : IntegerFault)
  /-- A text that is said to be a number is none. -/
  | notNumber (text : Text)
  /-- A text that is said to be a number ends before the number begins. -/
  | noDigit
  /-- A number in parts has so many that the first of them counts more than a double can hold. -/
  | tooManyParts
  /-- A text that is said to be a truth value is none. -/
  | notTruth (text : Text)
  /-- A text that is said to be a moment is none. -/
  | notMoment
  /-- A mapping is said to be a moment. -/
  | momentOfMapping
  | moment (fault : MomentFault)
  /-- An escape spells a number that no code point has. -/
  | noCodePoint
  /-- An escape spells a number of more than 31 bits. -/
  | wideCodePoint
deriving DecidableEq

namespace Error

/-- The family of a fault. -/
def kind : Error → ErrorKind
  | noDigit => .index
  | notTruth _ => .key
  | notMoment => .attribute
  | momentOfMapping => .type
  | tooManyParts | wideCodePoint => .range
  | _ => .value

/-- What is said of a fault. -/
def message : Error → Text
  | malformed => "malformed YAML"
  | integer fault => fault.message
  | notNumber text => "could not convert string to float: " ++ text.quoted
  | noDigit => "string index out of range"
  | tooManyParts => "int too large to convert to float"
  | notTruth text => text.quoted
  | notMoment => "'NoneType' object has no attribute 'groupdict'"
  | momentOfMapping => "expected string or bytes-like object, got 'list'"
  | moment fault => fault.message
  | noCodePoint => "chr() arg not in range(0x110000)"
  | wideCodePoint => "Python int too large to convert to C int"

end Error

end NetAttach.Yaml
