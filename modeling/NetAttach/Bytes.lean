/-
  Rows of bytes.

  Messages repeat bytes the way they repeat text, between marks and behind the letter `b`; a byte that is no
  character of ASCII is spelled in hexadecimal.

  In base 64 every four characters stand for three bytes, six bits each.  The reader is generous: what is no
  digit is passed over wherever it stands, and whatever comes after a complete padding is not looked at.
-/
import NetAttach.Text.Quoted

namespace NetAttach

/-- A row of bytes. -/
abbrev Bytes := List UInt8

/-- The character of ASCII that a byte stands for; U+FFFD for any other byte. -/
def CodePoint.ofAsciiByte (b : UInt8) : CodePoint :=
  if b < 0x80 then .ofChar (Char.ofNat b.toNat) else .ofChar '\uFFFD'

namespace Bytes

/-- How one byte is written between two marks `quote`. -/
def escaped (quote : CodePoint) (b : UInt8) : Text :=
  if b < 0x80 then Text.escaped quote (.ofAsciiByte b) else "\\x" ++ Text.hexadecimal 2 b.toNat

/-- Bytes as messages repeat them. -/
def quoted (bytes : Bytes) : Text :=
  let mark := Text.quoteMark (bytes.map CodePoint.ofAsciiByte)
  "b" ++ [mark] ++ bytes.flatMap (escaped mark) ++ [mark]

/-! ## Base 64 -/

/-- The six bits that a digit of base 64 stands for. -/
def sixBits? (c : CodePoint) : Option Nat :=
  if c.isAsciiUpper then some (c.number - 0x41)
  else if c.isAsciiLower then some (c.number - 0x61 + 26)
  else if c.isAsciiDigit then some (c.number - 0x30 + 52)
  else if c = '+' then some 62
  else if c = '/' then some 63
  else none

/-- What is known inside a group of four digits: how many of them have been read, their bits that have not
been given out, and the padding behind the last of them. -/
structure Group where
  digits : Nat
  bits : Nat
  padding : Nat

/-- Read base 64 inside a group.  A group of one digit or without its padding has no meaning. -/
def ofBase64From? (g : Group) : Text → Option Bytes
  | [] => if g.digits = 0 then some [] else none
  | c :: rest =>
    if c = '=' then
      if g.digits < 2 then ofBase64From? g rest
      else if 4 ≤ g.digits + g.padding + 1 then some []
      else ofBase64From? { g with padding := g.padding + 1 } rest
    else
      match sixBits? c with
      | none => ofBase64From? g rest
      | some six =>
        let bits := g.bits * 64 + six
        if g.digits = 0 then ofBase64From? ⟨1, six, 0⟩ rest
        else
          let kept := Nat.pow 4 (3 - g.digits)
          (ofBase64From? ⟨(g.digits + 1) % 4, bits % kept, 0⟩ rest).map ((bits / kept).toUInt8 :: ·)

/-- The bytes that a text spells in base 64. -/
def ofBase64? (t : Text) : Option Bytes := ofBase64From? ⟨0, 0, 0⟩ t

example : Bytes.quoted [0x68, 0xE9, 0x0A] = ("b'h\\xe9\\n'" : Text) := by decide +kernel
example : Bytes.quoted [0x27] = ("b\"'\"" : Text) := by decide +kernel
example : ofBase64? "aG k=" = some [0x68, 0x69] := by decide +kernel
example : ofBase64? "YWJj" = some [0x61, 0x62, 0x63] := by decide +kernel
example : ofBase64? "aGk" = none := by decide +kernel

end Bytes

end NetAttach
