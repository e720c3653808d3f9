/-
  From a graph of nodes to a value.

  A document is given its meaning from the outside in: all scalars of a collection before anything inside the
  collections in it.  So of several faults the one that is least deep counts, and of those that are equally
  deep the first one.

  A vertex is given its meaning once.  A collection that is used in two places is one collection, and it may
  stand inside itself.
-/
import NetAttach.Yaml.Collection
import NetAttach.Yaml.Graph.Merge
import NetAttach.Yaml.Scalar

namespace NetAttach.Yaml

/-- What is known of a document while it is given its meaning. -/
structure Meaning where
  graph : Graph
  /-- What vertices have become, by their numbers. -/
  parts : Array (Option Part)
  collections : Array Collection
  /-- Collections that wait for their parts, the newest first: their numbers, each with that of its vertex. -/
  waiting : List (Nat × Nat)

/-- Something that is done while a document is given its meaning. -/
abbrev Finding := StateT Meaning (Except Error)

namespace Graph

/-- The text of a vertex that stands for a scalar.  That of a mapping is the text behind its key `=`. -/
def textOf (g : Graph) : (fuel : Nat) → (n : Nat) → Except Error Text
  | 0, _ => .error .malformed
  | fuel + 1, n =>
    match g.vertex n with
    | .scalar _ t => .ok t
    | .sequence _ _ => .error .malformed
    | .mapping _ pairs =>
      match pairs.find? fun pair => g.kind pair.1 = .standIn with
      | some (_, value) => g.textOf fuel value
      | none => .error .malformed

/-- The scalar that a vertex stands for. -/
def scalarOf (g : Graph) (n : Nat) : Except Error Scalar := do
  let t ← g.textOf (g.size + 1) n
  if g.kind n = .moment && (g.vertex n).pairs?.isSome then throw .momentOfMapping
  (g.kind n).read t

/-- The number that a key is known by beside what it is: that of its vertex.  The word for a double that is no
number has one number for all its vertices, so that it is always the same key. -/
def keyMark (g : Graph) (n : Nat) : Nat :=
  if g.kind n = .double && (g.textOf (g.size + 1) n).toOption.any isNoNumber then g.size else n

end Graph

namespace Finding

/-- Add a collection. -/
def add (c : Collection) : Finding Nat := do
  let number := (← get).collections.size
  modify fun m => { m with collections := m.collections.push c }
  return number

/-- What a vertex becomes.  A collection waits for its parts. -/
def part (n : Nat) : Finding Part := do
  let m ← get
  match m.parts[n]?.join with
  | some p => return p
  | none =>
    let p ←
      match m.graph.kind n with
      | .sequence | .mapping | .set | .pairs =>
        let number ← add (.list [])
        modify fun m => { m with waiting := (number, n) :: m.waiting }
        pure (Part.collection number)
      | _ => Part.scalar <$> m.graph.scalarOf n
    modify fun m => { m with parts := m.parts.setIfInBounds n (some p) }
    return p

/-- What a vertex becomes as a key.  Only scalars are keys. -/
def key (n : Nat) : Finding Scalar := do
  match ← part n with
  | .scalar s => return s
  | .collection _ => throw .malformed

/-- An entry, with the number that its key is known by. -/
structure Entry where
  mark : Nat
  key : Scalar
  value : Part

/-- Set the value at a key.  A key that is there keeps its place. -/
def Entry.put (e : Entry) : List Entry → List Entry
  | [] => [e]
  | old :: rest =>
    if old.mark = e.mark || old.key.same e.key then { old with value := e.value } :: rest
    else old :: e.put rest

/-- The entries of a mapping, once its merges have been done. -/
def entries (n : Nat) : Finding (List (Scalar × Part)) := do
  match (← get).graph.merged? n with
  | none => throw .malformed
  | some graph =>
    modify fun m => { m with graph }
    let found ← ((graph.vertex n).pairs?.getD []).mapM fun (k, v) => do
      let key ← key k
      return Entry.mk (graph.keyMark k) key (← part v)
    return (found.foldl (fun all e => e.put all) []).map fun e => (e.key, e.value)

/-- The items of a row of pairs.  Each of them is written as a mapping of one pair. -/
def pairItem (n : Nat) : Finding Part := do
  match (← get).graph.vertex n with
  | .mapping _ [(first, second)] =>
    let first ← part first
    let second ← part second
    Part.collection <$> add (.pair first second)
  | _ => throw .malformed

/-- The number of places in a set of so many members: a power of two beyond twice their number, and eight for up
to four of them. -/
def placeCount (members : Nat) : Nat := if members < 5 then 8 else Nat.pow 2 ((2 * members).log2 + 1)

/-- The place of an integer in a set: its remainder by the number of places.  Minus one goes with minus two. -/
def placeOf (places : Nat) (n : Int) : Int := (if n = -1 then -2 else n) % places

/-- The members of a set, in the order in which they are shown: integers by their places, and others as they
came. -/
def memberOrder (members : List Scalar) : List Scalar :=
  let place (s : Scalar) : Int := (s.asInteger?.map (placeOf (placeCount members.length))).getD 0
  if members.all fun s => s.asInteger?.isSome then members.mergeSort fun a b => place a ≤ place b else members

/-- The collection of a vertex, with its parts. -/
def collection (n : Nat) : Finding Collection := do
  let v := (← get).graph.vertex n
  match v.kind, v.items? with
  | .mapping, _ => .mapping <$> entries n
  | .set, _ => (fun found => .set (memberOrder (found.map (·.1)))) <$> entries n
  | .sequence, some items => .list <$> items.mapM part
  | .pairs, some items => .list <$> items.mapM pairItem
  | _, _ => throw .malformed

/-- Give a collection that waits for its parts what it waits for. -/
def fill (number n : Nat) : Finding Unit := do
  let c ← collection n
  modify fun m => { m with collections := m.collections.setIfInBounds number c }

/-- Give all collections their parts, one depth after another. -/
def fillAll : (fuel : Nat) → Finding Unit
  | 0 => return
  | fuel + 1 => do
    let waiting := (← get).waiting.reverse
    if waiting.isEmpty then return
    modify fun m => { m with waiting := [] }
    waiting.forM fun (number, n) => fill number n
    fillAll fuel

end Finding

/-- The value of a document. -/
def Graph.toValue (g : Graph) : Except Error Value := do
  let find : Finding Part := do
    let root ← Finding.part 0
    Finding.fillAll (g.size + 1)
    return root
  let (root, m) ← find.run ⟨g, Array.replicate g.size none, #[], []⟩
  return root.value m.collections

/-- The value of a document. -/
def Node.toValue (n : Node) : Except Error Value := (Graph.ofNode n).toValue

example : (Node.toValue (.mapping .mapping [(.scalar .merge "<<", .mapping .mapping [(.scalar .text "a",
    .scalar .integer "1")]), (.scalar .text "a", .scalar .integer "2")])).toOption =
    some (.mapping [(.text "a", .int 2)]) := by decide +kernel
example : (Node.toValue (.sequence .sequence [.sequence .sequence [.scalar .integer "0x_"],
    .scalar .truth "no way"])).mapError (· == .notTruth "no way") matches .error true := by decide +kernel
example : (Node.toValue (.anchored "a" (.mapping .mapping [(.scalar .text "k", .alias "a")]))).toOption =
    some (.loop 0 (.mapping [(.text "k", .again 0 .mapping)])) := by decide +kernel

end NetAttach.Yaml
