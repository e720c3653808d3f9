/-
  Data without parts.

  A scalar is null, a truth value, an integer of any size, a double, a text, a row of bytes or a moment in
  time.  Scalars are the keys of mappings and the members of sets.

  Truth values and integral doubles count as equal to the integer they stand for wherever keys or set
  members are compared: `1`, `1.0` and `true` are one key.
-/
import NetAttach.Moment
import NetAttach.Number.DoubleText
import NetAttach.Number.Reading

namespace NetAttach

/-- Data without parts. -/
inductive Scalar where
  | null
  | bool (b : Bool)
  | int (n : Int)
  | float (x : Float)
  | text (t : Text)
  | bytes (b : Bytes)
  | moment (m : Moment)
deriving DecidableEq

/-- The integer that a finite double without a fraction is equal to. -/
def Double.exactInteger? (x : Float) : Option Int :=
  if x.isNaN then none
  else
    match Dyadic.ofBits? x.toBits with
    | none => none
    | some size =>
      let whole := size.mantissa * Nat.pow 2 size.exponent.toNat
      let unit := Nat.pow 2 (-size.exponent).toNat
      if whole % unit = 0 then
        let n : Int := (whole / unit : Nat)
        some (if Dyadic.signBit ≤ x.toBits.toNat then -n else n)
      else none

namespace Scalar

/-- The integer that a scalar counts as, when it is compared as a key. -/
def asInteger? : Scalar → Option Int
  | bool b => some (if b then 1 else 0)
  | int n => some n
  | float x => Double.exactInteger? x
  | _ => none

/-- Two scalars are the same key.  A double that is no number is the same key as nothing. -/
def same (a b : Scalar) : Bool :=
  match a.asInteger?, b.asInteger? with
  | some m, some n => m = n
  | none, none =>
    match a, b with
    | float x, float y => x == y
    | null, null => true
    | text s, text t => s = t
    | bytes s, bytes t => s = t
    | moment m, moment n => m.same n
    | _, _ => false
  | _, _ => false

/-- A text is the same key as itself and nothing else. -/
theorem same_text_iff {s : Scalar} {key : Text} : s.same (.text key) = true ↔ s = .text key := by
  cases s with
  | float x =>
    unfold same
    cases hinteger : asInteger? (.float x) <;> simp [asInteger?]
  | _ => simp [same, asInteger?]

/-- A scalar counts as true unless it is null, false, zero or empty. -/
def truth : Scalar → Bool
  | null => false
  | bool b => b
  | int n => n ≠ 0
  | float x => x != 0
  | text t => !t.isEmpty
  | bytes b => !b.isEmpty
  | moment _ => true

/-- The name of a scalar's type in messages. -/
def typeName : Scalar → Text
  | null => "NoneType"
  | bool _ => "bool"
  | int _ => "int"
  | float _ => "float"
  | text _ => "str"
  | bytes _ => "bytes"
  | moment m => m.typeName

/-- The digits of an integer that is short enough to be written. -/
def integerText? (n : Int) : Option Text :=
  let digits := Text.ofNat n.natAbs
  if integerDigitLimit < digits.length then none else some (if n < 0 then '-' :: digits else digits)

/-- The text of a scalar in messages; absent for an integer that is too long. -/
def shown? : Scalar → Option Text
  | null => some "None"
  | bool b => some (if b then "True" else "False")
  | int n => integerText? n
  | float x => some (.ofFloat x)
  | text t => some t
  | bytes b => some b.quoted
  | moment m => some m.text

/-- The text of a scalar inside a list or mapping: a text stands in quotes there, and a moment is given by
the way it is made. -/
def quoted? : Scalar → Option Text
  | text t => some t.quoted
  | moment m => some m.quoted
  | s => s.shown?

example : Scalar.same (.bool true) (.float 1) = true := by decide +kernel
example : Scalar.quoted? (.bytes [0x68, 0x69]) = some "b'hi'" := by decide +kernel

end Scalar

end NetAttach
