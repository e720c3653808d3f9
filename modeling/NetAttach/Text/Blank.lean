/-
  White space, as it is trimmed from the ends of a text.

  The class is Unicode's: the space separators, the line and paragraph separators and the controls that
  move the pen.  It is wider than `Char.isWhitespace`, and a zero-width space (U+200B) is not in it.
-/
import NetAttach.Text.CodePoint

namespace NetAttach

namespace CodePoint

/-- A space or a tab. -/
def isSpacing (c : CodePoint) : Bool := c = ' ' || c = '\t'

/-- White space outside ASCII. -/
def isWideBlank (c : CodePoint) : Bool :=
  c.number = 0x85 || c.number = 0xA0 || c.number = 0x1680 || c.isWithin 0x2000 0x200A ||
    c.isWithin 0x2028 0x2029 || c.number = 0x202F || c.number = 0x205F || c.number = 0x3000

/-- A space, a tab or one of the four line ends of ASCII. -/
def isPlainBlank (c : CodePoint) : Bool := c.number = 0x20 || c.isWithin 0x09 0x0D

/-- White space of any kind, the four information separators of ASCII among it. -/
def isBlank (c : CodePoint) : Bool :=
  c.isPlainBlank || c.isWithin 0x1C 0x1F || c.isWideBlank

example : isBlank '\u3000' = true := by decide
example : isBlank '\u200B' = false := by decide

end CodePoint

/-- `text` without the white space around it. -/
def Text.strip (text : Text) : Text := text.trim CodePoint.isBlank

end NetAttach
