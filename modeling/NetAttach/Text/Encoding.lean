/-
  Bytes as text.

  A request body is text in UTF-8, UTF-16 or UTF-32.  Which of them is told by a byte order mark or, as the
  first characters of a JSON document are ASCII, by where the zero bytes stand among the first four.

  Each encoding is a step: look at the bytes that are left and either take one code point from the front or
  name a fault and the number of bytes it concerns.  Surrogates are let through, alone or in pairs, wherever
  an encoding can spell them; UTF-16 pairs are joined.
-/
import NetAttach.Bytes

namespace NetAttach

/-- The ways to write text in bytes. -/
inductive Encoding where
  | utf8
  | utf16 (bigEndian : Bool)
  | utf32 (bigEndian : Bool)
deriving DecidableEq

namespace Encoding

/-- The name of an encoding. -/
def name : Encoding → Text
  | utf8 => "utf-8"
  | utf16 big => if big then "utf-16-be" else "utf-16-le"
  | utf32 big => if big then "utf-32-be" else "utf-32-le"

/-- What can be wrong with a group of bytes. -/
inductive Fault where
  | invalidStart
  | invalidContinuation
  | unexpectedEnd
  | truncated
  | outOfRange
deriving DecidableEq

/-- What is said of the fault. -/
def Fault.text : Fault → Text
  | invalidStart => "invalid start byte"
  | invalidContinuation => "invalid continuation byte"
  | unexpectedEnd => "unexpected end of data"
  | truncated => "truncated data"
  | outOfRange => "code point not in range(0x110000)"

/-- A group of bytes that stands for nothing: `count` bytes from `start` on, the first of them `first`. -/
structure Error where
  encoding : Encoding
  start : Nat
  first : UInt8
  count : Nat
  fault : Fault
deriving DecidableEq

/-- One byte is repeated in the message, several are given by their places. -/
def Error.message (e : Error) : Text :=
  "'" ++ e.encoding.name ++ "' codec can't decode " ++
    (if e.count = 1 then
      "byte 0x" ++ Text.hexadecimal 2 e.first.toNat ++ " in position " ++ Text.ofNat e.start
    else
      "bytes in position " ++ Text.ofNat e.start ++ "-" ++ Text.ofNat (e.start + e.count - 1)) ++
    ": " ++ e.fault.text

/-- What the bytes at hand begin with. -/
inductive Step where
  | point (c : CodePoint) (count : Nat)
  | fault (f : Fault) (count : Nat)

/-- A code point by number, taken from `count` bytes. -/
def Step.ofNat (n count : Nat) : Step :=
  match CodePoint.ofNat? n with
  | some c => .point c count
  | none => .fault .outOfRange count

/-! ## UTF-8 -/

/-- The six low bits of a continuation byte. -/
def continuation? (b : UInt8) : Option Nat :=
  if 0x80 ≤ b ∧ b < 0xC0 then some (b.toNat - 0x80) else none

/-- Two bytes. -/
def utf8Two (lead : Nat) : Bytes → Step
  | [] => .fault .unexpectedEnd 1
  | b :: _ =>
    match continuation? b with
    | none => .fault .invalidContinuation 1
    | some x => .ofNat (lead * 64 + x) 2

/-- Three bytes.  Numbers below 0x800 have a shorter form and are refused at the second byte. -/
def utf8Three (lead : Nat) : Bytes → Step
  | [] => .fault .unexpectedEnd 1
  | b :: rest =>
    match continuation? b with
    | none => .fault .invalidContinuation 1
    | some x =>
      if lead = 0 ∧ x < 0x20 then .fault .invalidContinuation 1
      else
        let surrogate : Bool := lead = 0xD ∧ 0x20 ≤ x
        match rest with
        | [] => if surrogate then .fault .invalidContinuation 1 else .fault .unexpectedEnd 2
        | c :: _ =>
          match continuation? c with
          | none => .fault .invalidContinuation (if surrogate then 1 else 2)
          | some y => .ofNat (lead * 4096 + x * 64 + y) 3

/-- Four bytes.  Numbers below 0x10000 and above 0x10FFFF are refused at the second byte. -/
def utf8Four (lead : Nat) : Bytes → Step
  | [] => .fault .unexpectedEnd 1
  | b :: rest =>
    match continuation? b with
    | none => .fault .invalidContinuation 1
    | some x =>
      if (lead = 0 ∧ x < 0x10) ∨ (lead = 4 ∧ 0x10 ≤ x) then .fault .invalidContinuation 1
      else
        match rest with
        | [] => .fault .unexpectedEnd 2
        | c :: rest =>
          match continuation? c with
          | none => .fault .invalidContinuation 2
          | some y =>
            match rest with
            | [] => .fault .unexpectedEnd 3
            | d :: _ =>
              match continuation? d with
              | none => .fault .invalidContinuation 3
              | some z => .ofNat (lead * 262144 + x * 4096 + y * 64 + z) 4

/-- Take a code point in UTF-8. -/
def utf8Step (b : UInt8) (rest : Bytes) : Step :=
  if b < 0x80 then .ofNat b.toNat 1
  else if b < 0xC2 then .fault .invalidStart 1
  else if b < 0xE0 then utf8Two (b.toNat - 0xC0) rest
  else if b < 0xF0 then utf8Three (b.toNat - 0xE0) rest
  else if b < 0xF5 then utf8Four (b.toNat - 0xF0) rest
  else .fault .invalidStart 1

/-! ## UTF-16 and UTF-32 -/

/-- Two bytes as a number. -/
def word16 (big : Bool) (a b : UInt8) : Nat :=
  if big then a.toNat * 256 + b.toNat else b.toNat * 256 + a.toNat

/-- Four bytes as a number. -/
def word32 (big : Bool) (a b c d : UInt8) : Nat :=
  if big then word16 big a b * 65536 + word16 big c d else word16 big c d * 65536 + word16 big a b

/-- The code point of a surrogate pair. -/
def joinSurrogates (high low : Nat) : Nat := 0x10000 + (high - 0xD800) * 0x400 + (low - 0xDC00)

/-- Take a code point in UTF-16. -/
def utf16Step (big : Bool) (a : UInt8) : Bytes → Step
  | [] => .fault .truncated 1
  | b :: rest =>
    let unit := word16 big a b
    match rest with
    | c :: d :: _ =>
      let next := word16 big c d
      if 0xD800 ≤ unit ∧ unit < 0xDC00 ∧ 0xDC00 ≤ next ∧ next < 0xE000 then
        .ofNat (joinSurrogates unit next) 4
      else .ofNat unit 2
    | _ => .ofNat unit 2

/-- Take a code point in UTF-32. -/
def utf32Step (big : Bool) (a : UInt8) : Bytes → Step
  | b :: c :: d :: _ => .ofNat (word32 big a b c d) 4
  | rest => .fault .truncated (rest.length + 1)

/-! ## Whole texts -/

/-- What the bytes `first :: rest` begin with. -/
def step (encoding : Encoding) (first : UInt8) (rest : Bytes) : Step :=
  match encoding with
  | utf8 => utf8Step first rest
  | utf16 big => utf16Step big first rest
  | utf32 big => utf32Step big first rest

/-- Decode from place `start` on, passing over the first `skip` bytes, which belong to a group that has
been decoded already. -/
def decodeFrom (encoding : Encoding) (start : Nat) : (skip : Nat) → Bytes → Except Error Text
  | _, [] => .ok []
  | skip + 1, _ :: rest => decodeFrom encoding (start + 1) skip rest
  | 0, b :: rest =>
    match encoding.step b rest with
    | .fault f count => .error ⟨encoding, start, b, count, f⟩
    | .point c count => (decodeFrom encoding (start + 1) (count - 1) rest).map (c :: ·)

/-- The encoding of a JSON document, and the number of bytes in its byte order mark. -/
def detect : Bytes → Encoding × Nat
  | 0x00 :: 0x00 :: 0xFE :: 0xFF :: _ => (utf32 true, 4)
  | 0xFF :: 0xFE :: 0x00 :: 0x00 :: _ => (utf32 false, 4)
  | 0xFE :: 0xFF :: _ => (utf16 true, 2)
  | 0xFF :: 0xFE :: _ => (utf16 false, 2)
  | 0xEF :: 0xBB :: 0xBF :: _ => (utf8, 3)
  | a :: b :: c :: d :: _ =>
    if a = 0 then (if b = 0 then utf32 true else utf16 true, 0)
    else if b = 0 then (if c = 0 ∧ d = 0 then utf32 false else utf16 false, 0)
    else (utf8, 0)
  | [a, b] => (if a = 0 then utf16 true else if b = 0 then utf16 false else utf8, 0)
  | _ => (utf8, 0)

/-- Decode a JSON document.  In UTF-8 the places of faults are counted behind the byte order mark. -/
def decode (bytes : Bytes) : Except Error Text :=
  match detect bytes with
  | (utf8, mark) => decodeFrom utf8 0 0 (bytes.drop mark)
  | (encoding, mark) => decodeFrom encoding 0 mark bytes

/-- The UTF-8 bytes of a code point. -/
def utf8Bytes (c : CodePoint) : Bytes :=
  let n := c.number
  if n < 0x80 then [n.toUInt8]
  else if n < 0x800 then [(0xC0 + n / 64).toUInt8, (0x80 + n % 64).toUInt8]
  else if n < 0x10000 then
    [(0xE0 + n / 4096).toUInt8, (0x80 + n / 64 % 64).toUInt8, (0x80 + n % 64).toUInt8]
  else
    [(0xF0 + n / 262144).toUInt8, (0x80 + n / 4096 % 64).toUInt8, (0x80 + n / 64 % 64).toUInt8,
      (0x80 + n % 64).toUInt8]

end Encoding

/-- A text in UTF-8. -/
def Text.toUtf8 (t : Text) : Bytes := t.flatMap Encoding.utf8Bytes

example : (Encoding.decode (Text.toUtf8 "aé€😀")).toOption = some "aé€😀" := by decide +kernel

end NetAttach
