/-
  From text to words.

  A word is looked for behind spaces, comments and line ends.  Its column may close block collections, and its
  first code points say what it is.

  Whether a node is the key of a mapping is only seen at the colon behind it.  So the start of every node that
  may be one is remembered, one for each depth of brackets, until the colon comes or until it can no longer
  come: the colon stands on the same line and not more than 1024 code points further on.  Where a key is the
  first thing on a line of a block mapping, its colon has to come.  When it comes, the word that opens the key is
  put in front of its node, and with it the word that opens the mapping.

  Words before the first such start are final.  If a fault ends the text, they are what can be read; the others
  are lost with it.
-/
import NetAttach.Yaml.Token
import NetAttach.Yaml.Token.Block
import NetAttach.Yaml.Token.Name
import NetAttach.Yaml.Token.Plain
import NetAttach.Yaml.Token.Quoted

namespace NetAttach.Yaml

/-- The start of a node that may turn out to be a key. -/
structure PossibleKey where
  /-- The number of words before it. -/
  word : Nat
  place : Place
  /-- Nothing but a key can stand there. -/
  required : Bool

/-- A key and its colon are no further apart than this. -/
def keyLimit : Nat := 1024

/-- The colon of a key can no longer come. -/
def PossibleKey.isPast (k : PossibleKey) (p : Place) : Bool :=
  k.place.line ≠ p.line || decide (k.place.index + keyLimit < p.index)

/-- What has been put in front of a word. -/
inductive Opening where
  | none
  | key
  | mapping

/-- The words that are put in front. -/
def Opening.tokens : Opening → List Token
  | .none => []
  | .key => [.key]
  | .mapping => [.blockMapping, .key]

/-- The state between two words. -/
structure Lexer where
  cursor : Cursor
  /-- The columns of the open block collections, the innermost first. -/
  columns : List Nat
  /-- A key may begin here. -/
  keyAllowed : Bool
  /-- The possible key at this depth of brackets. -/
  possible : Option PossibleKey
  /-- The possible keys outside, the innermost bracket first. -/
  outer : List (Option PossibleKey)
  /-- The words so far, each with what stands in front of it. -/
  words : Array (Opening × Token)
  /-- The text breaks off at a fault. -/
  torn : Bool

namespace Lexer

/-- The state before the first word. -/
def start (t : Text) (torn : Bool) : Lexer :=
  { cursor := .ofText t, columns := [], keyAllowed := true, possible := none, outer := [], words := #[], torn }

/-- The cursor is outside of all brackets. -/
def isBlock (s : Lexer) : Bool := s.outer.isEmpty

/-- The column of the cursor. -/
def column (s : Lexer) : Nat := s.cursor.place.column

/-- The first column that belongs to the innermost block collection's entries. -/
def least (s : Lexer) : Nat :=
  match s.columns with
  | [] => 0
  | c :: _ => c + 1

/-- Add a word. -/
def push (s : Lexer) (t : Token) : Lexer := { s with words := s.words.push (.none, t) }

/-- Add a word and move behind it. -/
def emit (s : Lexer) (t : Token) (finish : Cursor) : Lexer := { s.push t with cursor := finish }

/-- Add a word of `n` code points. -/
def mark (s : Lexer) (t : Token) (n : Nat) : Lexer := s.emit t (s.cursor.advance n)

/-! ## Possible keys -/

/-- Forget the possible key at this depth; a key that had to come is missed. -/
def dropKey (s : Lexer) : Except Error Lexer :=
  if s.possible.any (·.required) then .error .malformed else .ok { s with possible := none }

/-- Remember that a key may begin here. -/
def saveKey (s : Lexer) : Except Error Lexer :=
  if s.keyAllowed then
    s.dropKey.map fun s =>
      let required := s.isBlock && s.columns.head? = some s.column
      { s with possible := some ⟨s.words.size, s.cursor.place, required⟩ }
  else .ok s

/-- Forget the possible keys whose colon can no longer come; one that had to come is missed. -/
def dropPast (s : Lexer) : Except Error Lexer :=
  let past (k : PossibleKey) : Bool := k.isPast s.cursor.place
  if (s.possible :: s.outer).any fun k => k.any fun k => past k && k.required then .error .malformed
  else
    .ok { s with
      possible := s.possible.filter fun k => !past k
      outer := s.outer.map fun k => k.filter fun k => !past k }

/-! ## Block collections -/

/-- Close the block collections in columns of the given kind. -/
def closeWhile (s : Lexer) (closes : Nat → Bool) : Lexer :=
  let left := s.columns.dropWhile closes
  let closed := List.replicate (s.columns.length - left.length) (Opening.none, Token.blockEnd)
  if s.isBlock then { s with columns := left, words := s.words ++ closed.toArray } else s

/-- Close all block collections. -/
def closeAll (s : Lexer) : Lexer := s.closeWhile fun _ => true

/-- Entries begin in this column: a collection opens unless its entries began there already. -/
def opens (s : Lexer) (column : Nat) : Bool := s.isBlock && decide (s.least ≤ column)

/-- Open a block collection for an entry that begins here, if that is needed. -/
def openFor (s : Lexer) (t : Token) : Except Error Lexer :=
  if !s.isBlock then .ok s
  else if !s.keyAllowed then .error .malformed
  else if s.opens s.column then .ok { s.push t with columns := s.column :: s.columns }
  else .ok s

/-! ## Words of one kind -/

/-- The end of the text. -/
def finish (s : Lexer) : Except Error Lexer :=
  if s.torn then .error .malformed else s.closeAll.dropKey.map fun s => s.push .streamEnd

/-- A mark between documents, or a directive. -/
def betweenDocuments (s : Lexer) (read : Except Error (Token × Cursor)) : Except Error Lexer := do
  let s ← s.closeAll.dropKey
  let (t, finish) ← read
  return { s.emit t finish with keyAllowed := false }

/-- A bracket or brace that opens. -/
def openBracket (s : Lexer) (t : Token) : Except Error Lexer :=
  s.saveKey.map fun s => { s.mark t 1 with keyAllowed := true, possible := none, outer := s.possible :: s.outer }

/-- A bracket or brace that closes. -/
def closeBracket (s : Lexer) (t : Token) : Except Error Lexer :=
  s.dropKey.map fun s =>
    { s.mark t 1 with keyAllowed := false, possible := s.outer.head?.join, outer := s.outer.tail }

/-- A comma. -/
def comma (s : Lexer) : Except Error Lexer :=
  s.dropKey.map fun s => { s.mark .flowEntry 1 with keyAllowed := true }

/-- The dash of an entry. -/
def dash (s : Lexer) : Except Error Lexer := do
  let s ← s.openFor .blockSequence
  let s ← s.dropKey
  return { s.mark .blockEntry 1 with keyAllowed := true }

/-- The question mark before a key. -/
def question (s : Lexer) : Except Error Lexer := do
  let s ← s.openFor .blockMapping
  let s ← s.dropKey
  return { s.mark .key 1 with keyAllowed := s.isBlock }

/-- The colon before a value.  It makes the possible key at its depth a key. -/
def colon (s : Lexer) : Except Error Lexer :=
  match s.possible with
  | some k =>
    let opening := if s.opens k.place.column then Opening.mapping else Opening.key
    let columns := if s.opens k.place.column then k.place.column :: s.columns else s.columns
    let words := s.words.modify k.word fun w => (opening, w.2)
    .ok { { s with words, columns, possible := none }.mark .value 1 with keyAllowed := false }
  | none => (s.openFor .blockMapping).map fun s => { s.mark .value 1 with keyAllowed := s.isBlock }

/-- A word that belongs to a node, which may be a key. -/
def ofNode (s : Lexer) (read : Except Error (Token × Cursor)) : Except Error Lexer := do
  let s ← s.saveKey
  let (t, finish) ← read
  return { s.emit t finish with keyAllowed := false }

/-- A scalar without quotes.  Behind the end of its line a key may begin. -/
def plain (s : Lexer) : Except Error Lexer :=
  let scalar := Plain.at (!s.isBlock) s.least s.cursor
  s.saveKey.map fun s => { s.emit (.scalar true scalar.text) scalar.finish with keyAllowed := scalar.broken }

/-- A scalar by indentation. -/
def block (s : Lexer) : Except Error Lexer := do
  let s ← s.dropKey
  let (t, finish) ← blockAt s.least s.cursor
  return { s.emit (.scalar false t) finish with keyAllowed := true }

/-! ## All words -/

/-- Words of one code point. -/
def single? (s : Lexer) (c : CodePoint) (rest : Text) : Option (Except Error Lexer) :=
  if c = '[' then some (s.openBracket .flowSequence)
  else if c = '{' then some (s.openBracket .flowMapping)
  else if c = ']' then some (s.closeBracket .flowSequenceEnd)
  else if c = '}' then some (s.closeBracket .flowMappingEnd)
  else if c = ',' then some s.comma
  else if c = '-' && endsWord rest then some s.dash
  else if c = '?' && (!s.isBlock || endsWord rest) then some s.question
  else if c = ':' && (!s.isBlock || endsWord rest) then some s.colon
  else none

/-- Words that run on. -/
def long (s : Lexer) (c : CodePoint) (rest : Text) : Except Error Lexer :=
  if c = '*' then s.ofNode ((anchorAt s.cursor).map fun (name, next) => (.alias name, next))
  else if c = '&' then s.ofNode ((anchorAt s.cursor).map fun (name, next) => (.anchor name, next))
  else if c = '!' then s.ofNode ((tagAt s.cursor).map fun (name, next) => (.tag name, next))
  else if s.isBlock && (c = '|' || c = '>') then s.block
  else if c = '\'' || c = '"' then
    s.ofNode ((quotedAt s.cursor).map fun (t, next) => (.scalar false t, next))
  else if startsPlain (!s.isBlock) c rest then s.plain
  else .error .malformed

/-- The word at the cursor. -/
def word (s : Lexer) : Except Error Lexer :=
  match s.cursor.rest with
  | [] => s.finish
  | c :: rest =>
    if c = '%' && s.column = 0 then
      s.betweenDocuments ((directiveAt s.cursor).map fun (d, next) => (.directive d, next))
    else if s.cursor.atMarker then
      s.betweenDocuments (.ok (if c = '-' then .documentStart else .documentEnd, s.cursor.advance 3))
    else (s.single? c rest).getD (s.long c rest)

/-- Go on to the next word and read it.  A text that breaks off does so within its last word. -/
def step (s : Lexer) : Except Error Lexer := do
  let (cursor, broken) := s.cursor.skip
  let s := { s with cursor, keyAllowed := s.keyAllowed || (broken && s.isBlock) }
  let s ← s.dropPast
  let s ← (s.closeWhile fun c => decide (s.column < c)).word
  if s.torn && s.cursor.rest.isEmpty then throw .malformed
  s.dropPast

/-- The words of the text have come to their end. -/
def isFinished (s : Lexer) : Bool := s.words.back?.any fun w => w.2 = .streamEnd

/-- The words up to number `n`. -/
def tokens (s : Lexer) (n : Nat) : List Token :=
  (s.words.toList.take n).flatMap fun w => w.1.tokens ++ [w.2]

/-- The number of words that are final. -/
def finalCount (s : Lexer) : Nat :=
  (s.possible :: s.outer).foldl (fun n k => k.elim n fun k => min n k.word) s.words.size

end Lexer

/-- The words of a text: those that can be read, and the fault behind them.  A text without a fault has the
end of the stream as its last word. -/
structure Lexemes where
  tokens : List Token
  fault : Error

/-- The words from one state on. -/
def lexFrom : (fuel : Nat) → Lexer → Lexemes
  | 0, s => ⟨s.tokens s.finalCount, .malformed⟩
  | fuel + 1, s =>
    if s.isFinished then ⟨s.tokens s.words.size, .malformed⟩
    else
      match s.step with
      | .error fault => ⟨s.tokens s.finalCount, fault⟩
      | .ok next => lexFrom fuel next

/-- The words of a text, which may break off at a fault. -/
def lex (t : Text) (torn : Bool) : Lexemes := lexFrom (t.length + 2) (.start t torn)

example : (lex "a: [b]" false).tokens =
    [.blockMapping, .key, .scalar true "a", .value, .flowSequence, .scalar true "b", .flowSequenceEnd,
      .blockEnd, .streamEnd] := by decide +kernel
example : (lex "[a]\n'b" false).tokens = [] := by decide +kernel

end NetAttach.Yaml
