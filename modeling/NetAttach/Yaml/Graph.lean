/-
  A YAML document as a graph.

  Each node of a document is a vertex with a number, and a collection knows its parts by their numbers.  An
  alias has no vertex of its own: it stands for the number of the node with its anchor.  So a node that is used
  twice is one vertex, and a collection that holds itself is a circle.
-/
import NetAttach.Yaml.Node

namespace NetAttach.Yaml

/-- A node of a document, with its parts by number. -/
inductive Vertex where
  | scalar (kind : Kind) (t : Text)
  | sequence (kind : Kind) (items : List Nat)
  | mapping (kind : Kind) (pairs : List (Nat × Nat))
deriving DecidableEq

/-- A document: its vertices by number. -/
abbrev Graph := Array Vertex

namespace Vertex

/-- The type of a vertex. -/
def kind : Vertex → Kind
  | scalar kind _ | sequence kind _ | mapping kind _ => kind

/-- The pairs of a mapping. -/
def pairs? : Vertex → Option (List (Nat × Nat))
  | mapping _ pairs => some pairs
  | _ => none

/-- The items of a sequence. -/
def items? : Vertex → Option (List Nat)
  | sequence _ items => some items
  | _ => none

/-- A mapping with other pairs. -/
def withPairs (pairs : List (Nat × Nat)) : Vertex → Vertex
  | mapping kind _ => mapping kind pairs
  | v => v

/-- A key that stands for its mapping becomes text. -/
def settled : Vertex → Vertex
  | scalar .standIn t => scalar .text t
  | sequence .standIn items => sequence .text items
  | mapping .standIn pairs => mapping .text pairs
  | v => v

end Vertex

namespace Graph

/-- The vertex with a number. -/
def vertex (g : Graph) (n : Nat) : Vertex := g[n]?.getD (.scalar .unknown [])

/-- The type of the vertex with a number. -/
def kind (g : Graph) (n : Nat) : Kind := (g.vertex n).kind

/-- The number of pairs in all mappings. -/
def pairCount (g : Graph) : Nat := g.foldl (fun sum v => sum + (v.pairs?.getD []).length) 0

/-! ## From nodes to vertices -/

/-- A graph that is being made, and the numbers of the anchors in it. -/
structure Draft where
  graph : Graph
  anchors : List (Text × Nat)

/-- Take the next number for a vertex. -/
def Draft.add (v : Vertex) : StateM Draft Nat := do
  let n := (← get).graph.size
  modify fun d => { d with graph := d.graph.push v }
  return n

/-- Replace the vertex with a number. -/
def Draft.change (n : Nat) (v : Vertex) : StateM Draft Unit :=
  modify fun d => { d with graph := d.graph.setIfInBounds n v }

mutual

/-- Give a node and its parts their numbers.  A collection has its number before its parts. -/
def number : Node → StateM Draft Nat
  | .scalar kind t => Draft.add (.scalar kind t)
  | .sequence kind items => do
    let n ← Draft.add (.sequence kind [])
    Draft.change n (.sequence kind (← numberItems items))
    return n
  | .mapping kind pairs => do
    let n ← Draft.add (.mapping kind [])
    Draft.change n (.mapping kind (← numberPairs pairs))
    return n
  | .anchored name node => do
    modify fun d => { d with anchors := (name, d.graph.size) :: d.anchors }
    number node
  | .alias name => return ((← get).anchors.lookup name).getD 0

/-- Give the items of a sequence their numbers. -/
def numberItems : List Node → StateM Draft (List Nat)
  | [] => return []
  | n :: rest => return (← number n) :: (← numberItems rest)

/-- Give the keys and the values of a mapping their numbers. -/
def numberPairs : List (Node × Node) → StateM Draft (List (Nat × Nat))
  | [] => return []
  | (key, value) :: rest => return (← number key, ← number value) :: (← numberPairs rest)

end

/-- The graph of a document.  The root has number 0. -/
def ofNode (n : Node) : Graph := ((number n).run ⟨#[], []⟩).2.graph

example : ofNode (.anchored "a" (.sequence .sequence [.scalar .null [], .alias "a"])) =
    #[.sequence .sequence [1, 0], .scalar .null []] := by decide +kernel

end Graph

end NetAttach.Yaml
