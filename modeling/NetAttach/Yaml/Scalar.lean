/-
  The scalars that YAML texts stand for.

  A text is read by the rules of its type, whether the type was stated or showed in the looks of the text.  The
  rules are wider than the looks: a number that is said to be one may use digits of any script, and parts
  between colons may be of any size.  A text that the rules do not fit is a fault.
-/
import NetAttach.Scalar
import NetAttach.Text.Case
import NetAttach.Yaml.Error
import NetAttach.Yaml.Kind

namespace NetAttach.Yaml

/-! ## Numbers -/

/-- A number without underscores and without its sign, and whether that is a minus. -/
def unsigned (t : Text) : Except Error (Bool × Text) :=
  match t.filter fun c => !Kind.isUnderscore c with
  | [] => .error .noDigit
  | size => .ok (Text.takeSign size)

/-- The integer in a text of a given base. -/
def integerIn (base : Nat) (t : Text) : Except Error Int := (t.toIntegerIn base).mapError .integer

/-- An integer without its sign.  Parts between colons count sixty times as much as the next. -/
def integerSize (size : Text) : Except Error Int :=
  match Text.after? "0b" size, Text.after? "0x" size with
  | some row, _ => integerIn 2 row
  | none, some row => integerIn 16 row
  | none, none =>
    match size with
    | [] => .error .noDigit
    | c :: rest =>
      if c = '0' then if rest.isEmpty then .ok 0 else integerIn 8 size
      else
        ((Kind.partsOf size).mapM (integerIn 10)).map fun parts => parts.foldl (fun n part => 60 * n + part) 0

/-- The integer that a text stands for. -/
def integerOf (t : Text) : Except Error Int := do
  let (negative, size) ← unsigned t
  let n ← integerSize size
  return if negative then -n else n

/-- A double in a text. -/
def doubleIn (t : Text) : Except Error Float := (t.toDouble?.map .ok).getD (.error (.notNumber t))

/-- A double of more parts than this is too large, however small the parts are. -/
def partLimit : Nat := 174

/-- The sum of parts, each of which counts sixty times as much as the next. -/
def ofSixtieths (parts : List Float) : Except Error Float :=
  if partLimit < parts.length then .error .tooManyParts
  else
    .ok <| (parts.reverse.zip (List.range parts.length)).foldl
      (fun sum (x, place) => sum + x * Float.ofNat (Nat.pow 60 place)) 0

/-- A double without its sign. -/
def doubleSize (size : Text) : Except Error Float :=
  if size = ".inf" then .ok (1 / 0)
  else if size = ".nan" then .ok (0 / 0)
  else
    match Kind.partsOf size with
    | [_] => doubleIn size
    | parts => (parts.mapM doubleIn).bind ofSixtieths

/-- The double that a text stands for. -/
def doubleOf (t : Text) : Except Error Float := do
  let (negative, size) ← unsigned t
  let x ← doubleSize size.lower
  return if negative then -x else x

/-- The text is the word for a double that is no number. -/
def isNoNumber (t : Text) : Bool :=
  match unsigned t with
  | .ok (_, size) => size.lower = ".nan"
  | .error _ => false

/-! ## Words, moments and bytes -/

/-- The words for truth values, in small letters. -/
def truths : List (Text × Bool) := [
  ("yes", true), ("true", true), ("on", true), ("no", false), ("false", false), ("off", false)]

/-- The truth value that a text stands for. -/
def truthOf (t : Text) : Except Error Bool :=
  match truths.lookup t.lower with
  | some b => .ok b
  | none => .error (.notTruth t.lower)

/-- The moment that a text stands for. -/
def momentOf (t : Text) : Except Error Moment :=
  match Timestamp.ofText? (Kind.dropFinalBreak t) with
  | some stamp => stamp.toMoment.mapError .moment
  | none => .error .notMoment

/-- The bytes that a text of ASCII characters stands for. -/
def bytesOf (t : Text) : Except Error Bytes :=
  if t.all fun c => c.number < 0x80 then ((Bytes.ofBase64? t).map .ok).getD (.error .malformed)
  else .error .malformed

/-! ## Everything -/

/-- The scalar of a type that a text stands for. -/
def Kind.read (kind : Kind) (t : Text) : Except Error Scalar :=
  match kind with
  | null => .ok .null
  | truth => (truthOf t).map .bool
  | integer => (integerOf t).map .int
  | double => (doubleOf t).map .float
  | moment => (momentOf t).map .moment
  | bytes => (bytesOf t).map .bytes
  | text => .ok (.text t)
  | _ => .error .malformed

example : (Kind.read .integer "017").toOption = some (.int 15) := by decide +kernel
example : (Kind.read .integer "-1_0:30").toOption = some (.int (-630)) := by decide +kernel
example : (Kind.read .integer "0x_").toOption = none := by decide +kernel
example : (Kind.read .double "8.0e+3\n").toOption = some (.float 8000) := by decide +kernel
example : (Kind.read .double "1:90.5").toOption = some (.float 150.5) := by decide +kernel
example : (Kind.read .bytes "aGk=").toOption = some (.bytes [0x68, 0x69]) := by decide +kernel

end NetAttach.Yaml
