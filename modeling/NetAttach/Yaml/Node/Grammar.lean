/-
  From words to nodes.

  A reader takes words from the front of what is left, and looks at the next one before it takes it.  What it
  looks at decides what is a fault: a document is complete as soon as the word behind it has been seen, whatever
  comes later.

  An alias may use any anchor that stands in front of it in its document, those of the nodes around it among
  them.
-/
import NetAttach.Yaml.Error
import NetAttach.Yaml.Node
import NetAttach.Yaml.Token

namespace NetAttach.Yaml

/-- What a reader of words knows. -/
structure Reading where
  tokens : List Token
  /-- The fault behind the last word. -/
  fault : Error
  /-- The handles of the document, with what they are short for. -/
  handles : List (Text × Text)
  /-- The anchors of the document, the newest first. -/
  anchors : List Text

/-- A reader of words. -/
abbrev Reader := StateT Reading (Except Error)

namespace Reader

/-- The next word. -/
def peek : Reader Token := do
  let r ← get
  match r.tokens with
  | [] => throw r.fault
  | t :: _ => return t

/-- Pass over the next word. -/
def skip : Reader Unit := modify fun r => { r with tokens := r.tokens.tail }

/-- The next word is one of the given ones. -/
def sees (ts : List Token) : Reader Bool := return ts.contains (← peek)

/-- Pass over the given word if it comes next. -/
def accept (t : Token) : Reader Bool := do
  if ← sees [t] then
    skip
    return true
  else return false

/-! ## Properties -/

/-- The handles that need no declaration. -/
def standardHandles : List (Text × Text) := [("!", "!"), ("!!", "tag:yaml.org,2002:")]

/-- The tag that is meant by a name.  A lone exclamation mark leaves the type to the looks. -/
def tagOf (name : TagName) : Reader Tag := do
  let whole ←
    match name.handle with
    | none => pure name.suffix
    | some handle =>
      match (← get).handles.lookup handle with
      | some long => pure (long ++ name.suffix)
      | none => throw .malformed
  return if whole = "!" then .looks else .type (.ofName whole)

/-- An anchor, if one comes next. -/
def anchor? : Reader (Option Text) := do
  match ← peek with
  | .anchor name =>
    skip
    return some name
  | _ => return none

/-- A tag, if one comes next. -/
def tagName? : Reader (Option TagName) := do
  match ← peek with
  | .tag name =>
    skip
    return some name
  | _ => return none

/-- The anchor and the tag in front of a node, in any order. -/
def properties : Reader (Option Text × Option Tag) := do
  let before ← anchor?
  let name ← tagName?
  let after ← if before.isNone && name.isSome then anchor? else pure none
  return (before.or after, ← name.mapM tagOf)

/-- Give the next node a name that no other one has. -/
def declare (anchor : Option Text) : Reader Unit := do
  match anchor with
  | none => return
  | some name =>
    if (← get).anchors.contains name then throw .malformed
    modify fun r => { r with anchors := name :: r.anchors }

/-- A node behind its anchor. -/
def behind (anchor : Option Text) (n : Node) : Node :=
  match anchor with
  | none => n
  | some name => .anchored name n

/-- The alias of a node that has been given the name. -/
def aliasOf (name : Text) : Reader Node := do
  if (← get).anchors.contains name then return .alias name else throw .malformed

/-! ## Nodes -/

/-- Words before which the value of a block mapping is left out. -/
def endsBlockValue : List Token := [.key, .value, .blockEnd]

mutual

/-- A node.  With `block` it may be a block collection, and with `shared` a sequence whose dashes stand in the
column of the keys around it. -/
def node (block shared : Bool) : (fuel : Nat) → Reader Node
  | 0 => throw .malformed
  | fuel + 1 => do
    if let .alias name := ← peek then
      skip
      aliasOf name
    else
      let (anchor, tag) ← properties
      let next ← peek
      let collection (first : Bool) (content : Reader Node) : Reader Node := do
        declare anchor
        if first then skip
        behind anchor <$> content
      let row := Node.sequence (Tag.collectionKind tag .sequence)
      let table := Node.mapping (Tag.collectionKind tag .mapping)
      match next with
      | .scalar plain t =>
        skip
        declare anchor
        return behind anchor (.scalar (Tag.scalarKind tag plain t) t)
      | .flowSequence => collection true (row <$> flowItems true fuel)
      | .flowMapping => collection true (table <$> flowPairs true fuel)
      | .blockEntry =>
        if shared then collection false (row <$> sharedItems fuel) else bare anchor tag
      | .blockSequence =>
        if block then collection true (row <$> blockItems fuel) else bare anchor tag
      | .blockMapping =>
        if block then collection true (table <$> blockPairs fuel) else bare anchor tag
      | _ => bare anchor tag

/-- A node that is nothing but its anchor and its tag. -/
def bare (anchor : Option Text) (tag : Option Tag) : Reader Node := do
  if anchor.isNone && tag.isNone then throw .malformed
  declare anchor
  return behind anchor (.scalar (Tag.scalarKind tag true []) [])

/-- The items of a block sequence up to its end. -/
def blockItems : (fuel : Nat) → Reader (List Node)
  | 0 => throw .malformed
  | fuel + 1 => do
    if ← accept .blockEntry then
      let item ← if ← sees [.blockEntry, .blockEnd] then pure Node.empty else node true false fuel
      return item :: (← blockItems fuel)
    else if ← accept .blockEnd then return []
    else throw .malformed

/-- The items of a sequence in the column of the keys around it. -/
def sharedItems : (fuel : Nat) → Reader (List Node)
  | 0 => throw .malformed
  | fuel + 1 => do
    if ← accept .blockEntry then
      let item ←
        if ← sees (.blockEntry :: endsBlockValue) then pure Node.empty else node true false fuel
      return item :: (← sharedItems fuel)
    else return []

/-- The pairs of a block mapping up to its end. -/
def blockPairs : (fuel : Nat) → Reader (List (Node × Node))
  | 0 => throw .malformed
  | fuel + 1 => do
    if ← accept .key then
      let key ← if ← sees endsBlockValue then pure Node.empty else node true true fuel
      let value ←
        if ← accept .value then
          if ← sees endsBlockValue then pure Node.empty else node true true fuel
        else pure Node.empty
      return (key, value) :: (← blockPairs fuel)
    else if ← accept .blockEnd then return []
    else throw .malformed

/-- The value of a key between brackets, which may be left out before a comma and before the closing mark. -/
def flowValue (closing : Token) : (fuel : Nat) → Reader Node
  | 0 => throw .malformed
  | fuel + 1 => do
    if ← accept .value then
      if ← sees [.flowEntry, closing] then return Node.empty else node false false fuel
    else return Node.empty

/-- A key between brackets, which may be left out, and its value. -/
def flowPair (closing : Token) : (fuel : Nat) → Reader (Node × Node)
  | 0 => throw .malformed
  | fuel + 1 => do
    let key ← if ← sees [.value, .flowEntry, closing] then pure Node.empty else node false false fuel
    return (key, ← flowValue closing fuel)

/-- The items of a flow sequence up to its end.  A pair as an item is a mapping of its own. -/
def flowItems (first : Bool) : (fuel : Nat) → Reader (List Node)
  | 0 => throw .malformed
  | fuel + 1 => do
    if ← accept .flowSequenceEnd then return []
    unless first do
      unless ← accept .flowEntry do throw .malformed
    if ← accept .key then
      let pair ← flowPair .flowSequenceEnd fuel
      return .mapping .mapping [pair] :: (← flowItems false fuel)
    else if ← accept .flowSequenceEnd then return []
    else
      let item ← node false false fuel
      return item :: (← flowItems false fuel)

/-- The pairs of a flow mapping up to its end.  A node on its own is a key without a value. -/
def flowPairs (first : Bool) : (fuel : Nat) → Reader (List (Node × Node))
  | 0 => throw .malformed
  | fuel + 1 => do
    if ← accept .flowMappingEnd then return []
    unless first do
      unless ← accept .flowEntry do throw .malformed
    if ← accept .key then
      let pair ← flowPair .flowMappingEnd fuel
      return pair :: (← flowPairs false fuel)
    else if ← accept .flowMappingEnd then return []
    else
      let key ← node false false fuel
      discard peek
      return (key, Node.empty) :: (← flowPairs false fuel)

end

/-! ## Documents -/

/-- How a document begins. -/
inductive Beginning where
  /-- There is none. -/
  | none
  /-- Without any mark. -/
  | unmarked
  /-- With dashes. -/
  | marked
deriving DecidableEq

/-- The directives in front of a document.  Only version 1 of the language is known, and nothing is declared
twice. -/
def directives (versioned : Bool) : (fuel : Nat) → Reader Unit
  | 0 => throw .malformed
  | fuel + 1 => do
    match ← peek with
    | .directive d =>
      skip
      match d with
      | .version major =>
        if versioned || major ≠ 1 then throw .malformed
        directives true fuel
      | .handle name long =>
        if (← get).handles.any fun h => h.1 = name then throw .malformed
        modify fun r => { r with handles := (name, long) :: r.handles }
        directives versioned fuel
      | .unknown => directives versioned fuel
    | _ => return

/-- Pass over the marks at the end of documents. -/
def skipEnds : (fuel : Nat) → Reader Unit
  | 0 => return
  | fuel + 1 => do if ← accept .documentEnd then skipEnds fuel

/-- The beginning of the next document.  Only the first one may do without dashes. -/
def beginning (first : Bool) : Reader Beginning := do
  let fuel := (← get).tokens.length + 1
  let isMarked : Bool ←
    match ← peek with
    | .directive _ | .documentStart | .streamEnd => pure true
    | _ => pure !first
  if !isMarked then
    modify fun r => { r with handles := standardHandles, anchors := [] }
    return .unmarked
  else
    skipEnds fuel
    if ← sees [.streamEnd] then return .none
    modify fun r => { r with handles := [], anchors := [] }
    directives false fuel
    modify fun r => { r with handles := r.handles ++ standardHandles }
    if ← accept .documentStart then return .marked else throw .malformed

/-- The root of a document that has begun.  Behind dashes it may be left out.  The word behind the document is
looked at, and taken if it marks the end. -/
def root (b : Beginning) : Reader Node := do
  let fuel := 4 * (← get).tokens.length + 4
  let isLeftOut : Bool ←
    match ← peek with
    | .directive _ | .documentStart | .documentEnd | .streamEnd => pure (b = .marked)
    | _ => pure false
  let n ← if isLeftOut then pure Node.empty else node true false fuel
  discard (accept .documentEnd)
  return n

/-- The next document, if there is one. -/
def document? (first : Bool) : Reader (Option Node) := do
  match ← beginning first with
  | .none => return none
  | b => return some (← root b)

/-- The document of a text that holds one at most. -/
def only? : Reader (Option Node) := do
  let n ← document? true
  if n.isSome && (← beginning false) ≠ .none then throw .malformed
  return n

end Reader

/-- The documents in words, up to the first fault. -/
def documentsFrom : (fuel : Nat) → (first : Bool) → Reading → List Node × Option Error
  | 0, _, _ => ([], some .malformed)
  | fuel + 1, first, r =>
    match (Reader.document? first).run r with
    | .error fault => ([], some fault)
    | .ok (none, _) => ([], none)
    | .ok (some n, r) =>
      let (others, fault) := documentsFrom fuel false r
      (n :: others, fault)

end NetAttach.Yaml
