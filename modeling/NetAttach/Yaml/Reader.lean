/-
  Reading YAML.

  A text is a row of documents, and each of them is a value.  Documents are read one after another, so that
  those before a fault can be had.  A long text comes in blocks, and a code point that may not stand in YAML is
  noticed when its block is opened.
-/
import NetAttach.Yaml.Graph.Meaning
import NetAttach.Yaml.Node.Grammar
import NetAttach.Yaml.Token.Lexer

namespace NetAttach.Yaml

/-! ## Texts -/

/-- The code points that may stand in a YAML text. -/
def isAllowed (c : CodePoint) : Bool :=
  c.number = 0x09 || c.number = 0x0A || c.number = 0x0D || c.isWithin 0x20 0x7E || c.number = 0x85 ||
    c.isWithin 0xA0 0xD7FF || c.isWithin 0xE000 0xFFFD || c.isWithin 0x10000 0x10FFFF

/-- A text with a line feed for every carriage return, alone or before a line feed. -/
def unifyBreaks : Text → Text
  | [] => []
  | c :: rest =>
    if c = '\r' then
      if rest.head? = some (CodePoint.ofChar '\n') then unifyBreaks rest
      else '\n' :: unifyBreaks rest
    else c :: unifyBreaks rest

/-- The length of a block of text.  The first block is two of them long. -/
def blockLength : Nat := 4096

/-- How much of a text comes before the block with the first code point that is not allowed; absent if there is
no such code point. -/
def soundLength? (t : Text) : Option Nat :=
  (t.findIdx? fun c => !isAllowed c).map fun i =>
    if i < 2 * blockLength then 0 else i / blockLength * blockLength

/-! ## Documents -/

/-- A reader of words at the start of a text. -/
def readingOf (words : Lexemes) : Reading := ⟨words.tokens, words.fault, [], []⟩

/-- The values of documents, and the fault that ends them. -/
def valuesOf : List Node → Option Error → List Value × Option Error
  | [], fault => ([], fault)
  | n :: rest, fault =>
    match n.toValue with
    | .error e => ([], some e)
    | .ok v =>
      let (others, fault) := valuesOf rest fault
      (v :: others, fault)

/-- All documents of a text up to the first fault. -/
def readAll (text : Text) : List Value × Option Error :=
  let text := unifyBreaks text
  match soundLength? text with
  | some 0 => ([], some .malformed)
  | cut =>
    let words := lex (text.take (cut.getD text.length)) cut.isSome
    let (documents, fault) := documentsFrom (words.tokens.length + 2) true (readingOf words)
    valuesOf documents fault

/-- The document of a text that holds one at most; none at all reads as null. -/
def read (text : Text) : Except Error Value :=
  let text := unifyBreaks text
  if text.all isAllowed then
    match Reader.only?.run (readingOf (lex text false)) with
    | .error e => .error e
    | .ok (none, _) => .ok .null
    | .ok (some n, _) => n.toValue
  else .error .malformed

example : (read "[a, 'b c']").toOption = some (.list [.text "a", .text "b c"]) := by decide +kernel
example : (read "a\n b").toOption = some (.text "a b") := by decide +kernel
example : (read "- &x a\n- *x").toOption = some (.list [.text "a", .text "a"]) := by decide +kernel
example : ((read "- &x [*x, b]").toOption.bind fun v => (v.shown 4).toOption) = some "[[[...], 'b']]" := by
  decide +kernel

end NetAttach.Yaml
