/-
  Moments as YAML writes them.

  A day is written `2001-12-14`.  A time is a day, a `T` or blanks, and hours, minutes and seconds, with a
  fraction and an offset behind them if need be: `2001-12-14t21:59:43.10-05:00`.  In a time the month, the day
  and the hour may do with one digit.  Of a fraction the first six digits count.
-/
import NetAttach.Moment
import NetAttach.Number.Reading

namespace NetAttach.Yaml

/-- The number at the start of a text, in `least` to `most` digits, and what follows. -/
def takeNumber? (least most : Nat) (t : Text) : Option (Nat × Text) :=
  let digits := (t.take most).takeWhile CodePoint.isAsciiDigit
  if digits.length < least then none
  else some (natOfDigits (digits.map fun c => c.number - 0x30), t.drop digits.length)

/-- What follows a mark. -/
def behindMark? (mark : Char) (t : Text) : Option Text :=
  match t with
  | [] => none
  | c :: rest => if c = CodePoint.ofChar mark then some rest else none

/-- The microseconds in the digits of a fraction. -/
def microsecondsOf (digits : Text) : Nat :=
  let counted := digits.take 6
  natOfDigits (counted.map fun c => c.number - 0x30) * Nat.pow 10 (6 - counted.length)

/-- An offset in minutes: `Z`, or a sign and hours, which minutes may follow. -/
def offsetMinutes? (t : Text) : Option Int :=
  match t with
  | [] => none
  | c :: rest =>
    if c = 'Z' then if rest.isEmpty then some 0 else none
    else if c = '+' || c = '-' then
      match takeNumber? 1 2 rest with
      | none => none
      | some (hours, rest) =>
        let minutes? : Option Nat :=
          if rest.isEmpty then some 0
          else
            match (behindMark? ':' rest).bind (takeNumber? 2 2) with
            | some (minutes, []) => some minutes
            | _ => none
        minutes?.map fun minutes =>
          let size : Int := (hours * 60 + minutes : Nat)
          if c = '-' then -size else size
    else none

/-- The numbers of a moment, as they are written. -/
structure Timestamp where
  year : Nat
  month : Nat
  day : Nat
  /-- Hour, minute, second and microsecond. -/
  clock : Option (Nat × Nat × Nat × Nat)
  offset : Option Int
deriving DecidableEq

namespace Timestamp

/-- A time of day with everything behind it. -/
def clockOf? (t : Text) : Option ((Nat × Nat × Nat × Nat) × Option Int) := do
  let (hour, rest) ← takeNumber? 1 2 t
  let (minute, rest) ← (behindMark? ':' rest).bind (takeNumber? 2 2)
  let (second, rest) ← (behindMark? ':' rest).bind (takeNumber? 2 2)
  let (digits, rest) :=
    match behindMark? '.' rest with
    | some behind => (behind.takeWhile CodePoint.isAsciiDigit, behind.dropWhile CodePoint.isAsciiDigit)
    | none => ([], rest)
  let clock := (hour, minute, second, microsecondsOf digits)
  if rest.isEmpty then return (clock, none)
  else return (clock, some (← offsetMinutes? (rest.dropWhile CodePoint.isSpacing)))

/-- Take a moment apart. -/
def ofText? (t : Text) : Option Timestamp := do
  let (year, rest) ← takeNumber? 4 4 t
  let (month, rest) ← (behindMark? '-' rest).bind (takeNumber? 1 2)
  let (day, rest) ← (behindMark? '-' rest).bind (takeNumber? 1 2)
  match rest with
  | [] => return ⟨year, month, day, none, none⟩
  | c :: behind =>
    let clockText? : Option Text :=
      if c = 'T' || c = 't' then some behind
      else if c.isSpacing then some (behind.dropWhile CodePoint.isSpacing)
      else none
    let (clock, offset) ← clockText?.bind clockOf?
    return ⟨year, month, day, some clock, offset⟩

/-- Without being said to be one, a text is a moment if its month and day have two digits or a time follows. -/
def ofPlain? (t : Text) : Option Timestamp :=
  (ofText? t).filter fun stamp => stamp.clock.isSome || t.length = 10

/-- The moment with the given numbers.  Of several faults the offset comes first, then the day. -/
def toMoment (stamp : Timestamp) : Except MomentFault Moment := do
  let offset ← stamp.offset.mapM checkOffset
  let day ← Day.ofNumbers stamp.year stamp.month stamp.day
  match stamp.clock with
  | none => return .day day
  | some (hour, minute, second, microsecond) =>
    return .time day (← Clock.ofNumbers hour minute second microsecond) offset

end Timestamp

example : Timestamp.ofPlain? "2001-12-14t21:59:43.10 -5" =
    some ⟨2001, 12, 14, some (21, 59, 43, 100000), some (-300)⟩ := by decide +kernel
example : Timestamp.ofPlain? "2001-1-4" = none := by decide +kernel
example : ((Timestamp.ofPlain? "2001-12-14 1:59:43Z").map fun s => s.toMoment.toOption.map Moment.text) =
    some (some ("2001-12-14 01:59:43+00:00" : Text)) := by decide +kernel

end NetAttach.Yaml
