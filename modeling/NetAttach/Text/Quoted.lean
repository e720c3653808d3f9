/-
  Quoted text, the form in which messages repeat a piece of input.

  Single quotes stand around the text, or double quotes when it holds a single quote and no double one.
  Inside, the quote that was chosen and the backslash are escaped, line feed, carriage return and tab have
  letters, and every other code point that is not shown is spelled by its number in two, four or eight
  hexadecimal digits.
-/
import NetAttach.Text.Printable

namespace NetAttach

namespace Text

/-- The last `width` hexadecimal digits of `n`, with small letters. -/
def hexadecimal : (width n : Nat) → Text
  | 0, _ => []
  | width + 1, n => hexadecimal width (n / 16) ++ [CodePoint.ofChar (Nat.digitChar (n % 16))]

/-- How one code point is written between two marks `quote`. -/
def escaped (quote c : CodePoint) : Text :=
  if c = quote || c = '\\' then ['\\', c]
  else if c = '\n' then "\\n"
  else if c = '\r' then "\\r"
  else if c = '\t' then "\\t"
  else if c.isPrintable then [c]
  else if c.number < 0x100 then "\\x" ++ hexadecimal 2 c.number
  else if c.number < 0x10000 then "\\u" ++ hexadecimal 4 c.number
  else "\\U" ++ hexadecimal 8 c.number

/-- The mark put around `text`. -/
def quoteMark (text : Text) : CodePoint :=
  if text.contains (CodePoint.ofChar '\'') && !text.contains (CodePoint.ofChar '"') then '"' else '\''

/-- `text` in quotes. -/
def quoted (text : Text) : Text :=
  let mark := text.quoteMark
  mark :: text.flatMap (escaped mark) ++ [mark]

theorem hexadecimal_length (width n : Nat) : (hexadecimal width n).length = width := by
  induction width generalizing n with
  | zero => rfl
  | succ width ih => simp [hexadecimal, ih]

example : quoted "net-a" = ("'net-a'" : Text) := by decide
example : quoted "it's" = ("\"it's\"" : Text) := by decide
example : quoted "\x07\\" = ("'\\x07\\\\'" : Text) := by decide

end Text

end NetAttach
