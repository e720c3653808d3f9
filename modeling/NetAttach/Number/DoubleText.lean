/-
  The decimal text of a double.

  Three things are decided here and nowhere else: which digits are written (the shortest decimal that
  reads back), where the exponent form begins, and what the values that are no numbers are called.
-/
import NetAttach.Number.Shortest
import NetAttach.Text.CodePoint

namespace NetAttach

/-- What there is to write of a double.  The point stands behind the first `point` digits. -/
inductive DoubleForm where
  | nan
  | infinite (negative : Bool)
  | finite (negative : Bool) (digits : List Char) (point : Int)
deriving DecidableEq, Repr

/-- The digits of a decimal without zeros at the end, and the place of the point. -/
def Decimal.digitsAndPoint (d : Decimal) : List Char × Int :=
  let digits := Nat.toDigits 10 d.digits
  ((digits.reverse.dropWhile (· = '0')).reverse, digits.length + d.exponent)

/-- Take a double apart into sign, shortest digits and place of the point; a zero is one digit `0`. -/
def DoubleForm.ofFloat (x : Float) : DoubleForm :=
  let bits := x.toBits
  let negative := decide (Dyadic.signBit ≤ bits.toNat)
  if x.isNaN then .nan
  else
    match Dyadic.ofBits? bits with
    | none => .infinite negative
    | some size =>
      if size.mantissa = 0 then .finite negative ['0'] 1
      else
        let (digits, point) := size.shortest.digitsAndPoint
        .finite negative digits point

/-- How a decimal format writes the forms that the digits leave open. -/
structure DecimalStyle where
  /-- Numbers below `10 ^ leastPlace` take an exponent. -/
  leastPlace : Int
  /-- Numbers from `10 ^ exponentFrom` on take an exponent. -/
  exponentFrom : Int
  nan : Text
  infinity : Text

namespace DecimalStyle

/-- The digits of an exponent: a sign, and two digits at least. -/
def exponentText (e : Int) : Text :=
  let size := Text.ofNat e.natAbs
  (if e < 0 then "-" else "+") ++ (if size.length < 2 then "0" ++ size else size)

/-- Digits with the point behind the first of them. -/
def scientific (digits : Text) : Text :=
  match digits with
  | [] => []
  | [d] => [d]
  | d :: more => [d] ++ "." ++ more

/-- Digits with the point at its place, and a zero on the side of the point that has none. -/
def positional (digits : Text) (point : Int) : Text :=
  if point ≤ 0 then
    "0." ++ List.replicate (-point).toNat (CodePoint.ofChar '0') ++ digits
  else
    let whole := point.toNat
    if digits.length ≤ whole then
      digits ++ List.replicate (whole - digits.length) (CodePoint.ofChar '0') ++ ".0"
    else
      digits.take whole ++ "." ++ digits.drop whole

/-- The text of a double in this style. -/
def write (style : DecimalStyle) (x : Float) : Text :=
  let signed (negative : Bool) (t : Text) : Text := if negative then '-' :: t else t
  match DoubleForm.ofFloat x with
  | .nan => style.nan
  | .infinite negative => signed negative style.infinity
  | .finite negative chars point =>
    let digits : Text := chars.map CodePoint.ofChar
    let exponent := point - 1
    signed negative <|
      if exponent < style.leastPlace || style.exponentFrom ≤ exponent then
        scientific digits ++ "e" ++ exponentText exponent
      else positional digits point

/-- Doubles in messages: positional from 0.0001 to below 10^16. -/
def plain : DecimalStyle :=
  { leastPlace := -4, exponentFrom := 16, nan := "nan", infinity := "inf" }

end DecimalStyle

/-- The text of a double in messages. -/
def Text.ofFloat (x : Float) : Text := DecimalStyle.plain.write x

example : Text.ofFloat 1e23 = ("1e+23" : Text) := by decide +kernel
example : Text.ofFloat 0.0001 = ("0.0001" : Text) := by decide +kernel
example : Text.ofFloat (-1e-7) = ("-1e-07" : Text) := by decide +kernel
example : Text.ofFloat 1000 = ("1000.0" : Text) := by decide +kernel

end NetAttach
