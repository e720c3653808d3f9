/-
  The shortest decimal that reads back as a given double.

  A positive double is a dyadic number `mantissa · 2 ^ exponent`; the reals that round to it form an
  interval around it, whose ends belong to it when the mantissa is even.  Among the decimals in that
  interval we want one with the fewest digits, and of those the one nearest to the double itself.

  For a fixed number of digits the decimals form a grid, and if any point of the grid lies in the
  interval then so does one of the two neighbours of the double on that grid.  So the search tries one
  digit, two digits and so on, and looks at two candidates each time; seventeen digits always suffice.
  All comparisons are between natural numbers.
-/

namespace NetAttach

/-- A positive number `mantissa · 2 ^ exponent`. -/
structure Dyadic where
  mantissa : Nat
  exponent : Int
deriving DecidableEq, Repr

/-- The positive decimal `digits · 10 ^ exponent`. -/
structure Decimal where
  digits : Nat
  exponent : Int
deriving DecidableEq, Repr

/-- The smallest exponent of a double's last place. -/
def Dyadic.leastExponent : Int := -1074

/-- The bit above the fraction of a double, which is not stored: 2 with the exponent 52. -/
def Dyadic.hiddenBit : Nat := 0x10000000000000

/-- The bit for the sign of a double: 2 with the exponent 63. -/
def Dyadic.signBit : Nat := 0x8000000000000000

/-- The size of the double with the bit pattern `bits`, when it is finite; the sign is left out. -/
def Dyadic.ofBits? (bits : UInt64) : Option Dyadic :=
  let field := (bits.toNat / hiddenBit) % 2048
  let fraction := bits.toNat % hiddenBit
  if field = 2047 then none
  else if field = 0 then some ⟨fraction, leastExponent⟩
  else some ⟨hiddenBit + fraction, leastExponent + (field - 1 : Nat)⟩

/-- The reals that round to a double: everything is a multiple of one over `unit`. -/
structure RoundingInterval where
  low : Nat
  value : Nat
  high : Nat
  unit : Nat
  closed : Bool

/-- The interval of reals that round to `x`.  Below a power of two the neighbour is half as far away. -/
def Dyadic.interval (x : Dyadic) : RoundingInterval :=
  let below := if x.mantissa = hiddenBit ∧ leastExponent < x.exponent then 1 else 2
  let scale := Nat.pow 2 (x.exponent - 2).toNat
  { low := (4 * x.mantissa - below) * scale
    value := 4 * x.mantissa * scale
    high := (4 * x.mantissa + 2) * scale
    unit := Nat.pow 2 (2 - x.exponent).toNat
    closed := x.mantissa % 2 = 0 }

namespace RoundingInterval

/-- The interval measured in steps of `10 ^ place`. -/
def onGrid (i : RoundingInterval) (place : Int) : RoundingInterval :=
  let finer := Nat.pow 10 (-place).toNat
  { i with
    low := i.low * finer
    value := i.value * finer
    high := i.high * finer
    unit := i.unit * Nat.pow 10 place.toNat }

/-- The integer `n` lies in the interval. -/
def holds (i : RoundingInterval) (n : Nat) : Bool :=
  if i.closed then decide (i.low ≤ n * i.unit) && decide (n * i.unit ≤ i.high)
  else decide (i.low < n * i.unit) && decide (n * i.unit < i.high)

/-- The integer in the interval that is nearest to the value; of two as near, the even one. -/
def nearest? (i : RoundingInterval) : Option Nat :=
  let down := i.value / i.unit
  let up := down + 1
  match i.holds down, i.holds up with
  | true, true =>
    let toDown := i.value - down * i.unit
    let toUp := up * i.unit - i.value
    some (if toDown < toUp || (toDown == toUp && down % 2 == 0) then down else up)
  | true, false => some down
  | false, true => some up
  | false, false => none

/-- The power of ten of the value's leading digit. -/
def leadingPlace (i : RoundingInterval) : Int :=
  if i.unit ≤ i.value then (Nat.toDigits 10 (i.value / i.unit)).length - 1
  else -((Nat.toDigits 10 (i.unit / i.value)).length : Int)

end RoundingInterval

/-- The shortest decimal in the interval, tried from `digits` digits on. -/
def Decimal.search (i : RoundingInterval) (place : Int) : (tries : Nat) → Decimal
  | 0 => ⟨(i.onGrid place).value / (i.onGrid place).unit, place⟩
  | tries + 1 =>
    match (i.onGrid place).nearest? with
    | some digits => ⟨digits, place⟩
    | none => Decimal.search i (place - 1) tries

/-- The shortest decimal that rounds to `x`, and of those the nearest to `x`. -/
def Dyadic.shortest (x : Dyadic) : Decimal :=
  let i := x.interval
  Decimal.search i i.leadingPlace 17

example : (Dyadic.ofBits? (0.1 : Float).toBits).map Dyadic.shortest = some ⟨1, -1⟩ := by decide +kernel
example : (Dyadic.ofBits? 1).map Dyadic.shortest = some ⟨5, -324⟩ := by decide +kernel
example : (Dyadic.ofBits? (0.3 : Float).toBits).map Dyadic.shortest = some ⟨3, -1⟩ := by decide +kernel

end NetAttach
