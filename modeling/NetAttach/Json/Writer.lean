/-
  Writing JSON.

  One line without blanks, the names of every mapping in order, and ASCII only: any other code point is
  spelled in four hexadecimal digits, or as a pair of surrogates when its number is above 0xFFFF.

  What JSON has no form for takes the nearest one: bytes and moments are written as text, pairs and sets as
  lists, and where a collection is met inside itself stands null.
-/
import NetAttach.Json.Reader

namespace NetAttach.Json

/-- Doubles in JSON. -/
def doubleStyle : DecimalStyle := { DecimalStyle.plain with nan := "NaN", infinity := "Infinity" }

/-- How one code point is written inside a string. -/
def escaped (c : CodePoint) : Text :=
  if c = '"' ∨ c = '\\' then ['\\', c]
  else if c = '\n' then "\\n"
  else if c = '\r' then "\\r"
  else if c = '\t' then "\\t"
  else if c = '\x08' then "\\b"
  else if c = '\x0C' then "\\f"
  else if 0x20 ≤ c.number ∧ c.number < 0x7F then [c]
  else if c.number < 0x10000 then "\\u" ++ Text.hexadecimal 4 c.number
  else
    let n := c.number - 0x10000
    "\\u" ++ Text.hexadecimal 4 (0xD800 + n / 0x400) ++ "\\u" ++ Text.hexadecimal 4 (0xDC00 + n % 0x400)

/-- A string between its marks. -/
def quote (t : Text) : Text := "\"" ++ t.flatMap escaped ++ "\""

/-- A scalar on its own. -/
def writeScalar : Scalar → Text
  | .null => "null"
  | .bool b => if b then "true" else "false"
  | .int n => .ofInt n
  | .float x => doubleStyle.write x
  | .text t => quote t
  | .bytes b => quote b.quoted
  | .moment m => quote m.text

/-- The name that a key is written as: its own text, or the JSON of a key that is no text. -/
def keyText : Scalar → Text
  | .text t => t
  | s => writeScalar s

/-- Put an entry in its place among entries that are in the order of their names. -/
def insertEntry (name written : Text) : List (Text × Text) → List (Text × Text)
  | [] => [(name, written)]
  | e :: rest =>
    if name < e.1 then (name, written) :: e :: rest else e :: insertEntry name written rest

mutual

/-- The JSON text of a value. -/
def write : Value → Text
  | .scalar s => writeScalar s
  | .list items => "[" ++ Text.join "," (writeItems items) ++ "]"
  | .mapping entries =>
    "\x7b" ++ Text.join "," ((writeEntries entries).map fun e => quote e.1 ++ ":" ++ e.2) ++ "\x7d"
  | .pair first second => "[" ++ write first ++ "," ++ write second ++ "]"
  | .set members => "[" ++ Text.join "," (members.map writeScalar) ++ "]"
  | .loop _ v => write v
  | .again _ _ => writeScalar .null

def writeItems : List Value → List Text
  | [] => []
  | v :: rest => write v :: writeItems rest

/-- The names and texts of the entries, in the order of the names. -/
def writeEntries : List (Scalar × Value) → List (Text × Text)
  | [] => []
  | (k, v) :: rest => insertEntry (keyText k) (write v) (writeEntries rest)

end

example : write (.mapping [(.text "b", .list [.int 1, .null]), (.text "a", .text "é\n")]) =
    "\x7b\"a\":\"\\u00e9\\n\",\"b\":[1,null]\x7d" := by decide +kernel

end NetAttach.Json
