/-
  Anchors, tags and directives.

  An anchor gives a node a name, and an alias stands for the node with that name.  A tag says of what type a
  node is: in full between angle brackets, or by a handle that is short for what many tags begin with.  A
  directive at the start of a line states the version of the language or declares a handle.
-/
import NetAttach.Text.Encoding
import NetAttach.Yaml.Cursor
import NetAttach.Yaml.Error
import NetAttach.Yaml.Token

namespace NetAttach.Yaml

/-! ## Anchors -/

/-- Marks that may stand right behind the name of an anchor. -/
def endsAnchor (c : CodePoint) : Bool :=
  isGap c || c = '?' || c = ':' || c = ',' || c = ']' || c = '}' || c = '%' || c = '@' || c.number = 0x60

/-- The name behind the mark of an anchor or an alias. -/
def anchorAt (cur : Cursor) : Except Error (Text × Cursor) :=
  let (name, finish) := (cur.advance 1).span isNameLetter
  if name.isEmpty || !isEmptyOr endsAnchor finish.rest then .error .malformed else .ok (name, finish)

/-! ## Tags -/

/-- The code points that a tag is made of. -/
def isTagLetter (c : CodePoint) : Bool :=
  isNameLetter c || c = ';' || c = '/' || c = '?' || c = ':' || c = '@' || c = '&' || c = '=' || c = '+' ||
    c = '$' || c = ',' || c = '.' || c = '!' || c = '~' || c = '*' || c = '\'' || c = '(' || c = ')' ||
    c = '[' || c = ']' || c = '%'

/-- The bytes of a tag, some of which may be spelled by two hexadecimal digits behind a percent sign. -/
def tagBytes? : Text → Option Bytes
  | [] => some []
  | c :: rest =>
    if c = '%' then
      match rest with
      | a :: b :: more =>
        match a.asciiDigitValue? 16, b.asciiDigitValue? 16 with
        | some high, some low => (tagBytes? more).map ((16 * high + low).toUInt8 :: ·)
        | _, _ => none
      | _ => none
    else (tagBytes? rest).map (Encoding.utf8Bytes c ++ ·)

/-- The part of a tag at the cursor, which may not be empty. -/
def tagPartAt (cur : Cursor) : Except Error (Text × Cursor) :=
  let (run, finish) := cur.span isTagLetter
  match (tagBytes? run).map (Encoding.decodeFrom .utf8 0 0) with
  | some (.ok part) =>
    if part.isEmpty || part.any CodePoint.isSurrogate then .error .malformed else .ok (part, finish)
  | _ => .error .malformed

/-- The handle at the cursor: one exclamation mark before a space, else two with a name between them. -/
def handleAt (cur : Cursor) : Except Error (Text × Cursor) :=
  let behind := cur.advance 1
  let (name, finish) := behind.span isNameLetter
  if !cur.isAt '!' then .error .malformed
  else if behind.isAt ' ' then .ok ("!", behind)
  else if finish.isAt '!' then .ok ("!" ++ name ++ "!", finish.advance 1)
  else .error .malformed

/-- The tag at the cursor. -/
def tagAt (cur : Cursor) : Except Error (TagName × Cursor) := do
  let behind := cur.advance 1
  let (tag, finish) ←
    if behind.isAt '<' then do
      let (whole, finish) ← tagPartAt (cur.advance 2)
      if !finish.isAt '>' then throw .malformed
      pure (⟨none, whole⟩, finish.advance 1)
    else if endsWord behind.rest then pure (⟨none, "!"⟩, behind)
    else do
      let field := behind.rest.takeWhile fun (c : CodePoint) => !(c = ' ' || isBreak c)
      let (handle, start) ←
        if field.contains (CodePoint.ofChar '!') then handleAt cur else pure ("!", behind)
      let (suffix, finish) ← tagPartAt start
      pure (⟨some handle, suffix⟩, finish)
  if endsField finish.rest then return (tag, finish) else throw .malformed

/-! ## Directives -/

/-- A number in a directive. -/
def directiveNumber (cur : Cursor) : Except Error (Int × Cursor) :=
  let (row, finish) := cur.span CodePoint.isAsciiDigit
  if row.isEmpty then .error .malformed
  else (row.toInteger.mapError Error.integer).map fun n => (n, finish)

/-- The cursor behind spaces. -/
def behindSpaces (cur : Cursor) : Cursor := cur.dropWhile fun c => c = ' '

/-- A version, in two numbers with a point between them. -/
def versionAt (cur : Cursor) : Except Error (Directive × Cursor) := do
  let (major, finish) ← directiveNumber (behindSpaces cur)
  if !finish.isAt '.' then throw .malformed
  let (_, finish) ← directiveNumber (finish.advance 1)
  if endsField finish.rest then return (.version major, finish) else throw .malformed

/-- A handle and what it is short for. -/
def handleDirectiveAt (cur : Cursor) : Except Error (Directive × Cursor) := do
  let (name, finish) ← handleAt (behindSpaces cur)
  if !finish.isAt ' ' then throw .malformed
  let (long, finish) ← tagPartAt (behindSpaces finish)
  if endsField finish.rest then return (.handle name long, finish) else throw .malformed

/-- The directive at the cursor, and the start of the next line.  One of an unknown name may say anything. -/
def directiveAt (cur : Cursor) : Except Error (Directive × Cursor) := do
  let (name, finish) := (cur.advance 1).span isNameLetter
  if name.isEmpty || !endsField finish.rest then throw .malformed
  let (directive, finish) ←
    if name = "YAML" then versionAt finish
    else if name = "TAG" then handleDirectiveAt finish
    else pure (.unknown, finish.dropWhile fun c => !isBreak c)
  match finish.lineEnd? with
  | some next => return (directive, next)
  | none => throw .malformed

example : ((tagAt (.ofText "!!str x")).toOption.map (·.1)) = some ⟨some "!!", "str"⟩ := by decide +kernel
example : ((directiveAt (.ofText "%YAML 1.1 # old")).toOption.map (·.1)) = some (.version 1) := by
  decide +kernel

end NetAttach.Yaml
