/-
  Mappings that merge others.

  Behind a key `<<` stands a mapping, or a list of mappings, whose pairs the mapping takes over.  They stand in
  front of its own, which win where keys are the same; of mappings in a list the first one wins.  What is merged
  has its own merges done first.

  A mapping may merge one that is just about to be merged itself.  It then takes what that one has by now; the
  merging key that led to it is no longer among its pairs.

  A key `=` in a mapping whose merges have been done is text, wherever else its node is used.
-/
import NetAttach.Yaml.Graph

namespace NetAttach.Yaml.Graph

/-- Something that is done to a graph, if it can be. -/
abbrev Edit := StateT Graph Option

/-- The pairs of the mapping with a number. -/
def pairsAt (n : Nat) : Edit (List (Nat × Nat)) := do ((← get).vertex n).pairs?

/-- Give the mapping with a number other pairs. -/
def setPairs (n : Nat) (pairs : List (Nat × Nat)) : Edit Unit :=
  modify fun g => g.setIfInBounds n ((g.vertex n).withPairs pairs)

/-- A key becomes text if it stands for its mapping. -/
def settle (key : Nat) : Edit Unit := modify fun g => g.setIfInBounds key (g.vertex key).settled

/-- The first pair whose key merges, with the pairs before and after it. -/
def cutAtMerge (g : Graph) : List (Nat × Nat) → Option (List (Nat × Nat) × Nat × List (Nat × Nat))
  | [] => none
  | (key, value) :: rest =>
    if g.kind key = .merge then some ([], value, rest)
    else (cutAtMerge g rest).map fun (before, v, after) => ((key, value) :: before, v, after)

/-- Do the merges of the mapping with number `n`; `front` is what it has merged so far. -/
def merge : (fuel : Nat) → (n : Nat) → (front : List (Nat × Nat)) → Edit Unit
  | 0, _, _ => failure
  | fuel + 1, n, front => do
    let pairs ← pairsAt n
    match (← get).cutAtMerge pairs with
    | none =>
      setPairs n (front ++ pairs)
      pairs.forM fun pair => settle pair.1
    | some (before, source, after) =>
      setPairs n (before ++ after)
      let taken (m : Nat) : Edit (List (Nat × Nat)) := do
        discard (pairsAt m)
        merge fuel m []
        pairsAt m
      let more ←
        match (← get).vertex source with
        | .mapping _ _ => taken source
        | .sequence _ items => (fun rows => rows.reverse.flatten) <$> items.mapM taken
        | .scalar _ _ => failure
      merge fuel n (front ++ more)

/-- The graph in which the mapping with a number has done its merges. -/
def merged? (g : Graph) (n : Nat) : Option Graph := ((merge (g.pairCount + 1) n []).run g).map (·.2)

example : (merged? #[.mapping .mapping [(1, 0), (2, 3)], .scalar .merge "<<", .scalar .text "a", .scalar .null []]
    0).map (·.vertex 0) = some (.mapping .mapping [(2, 3), (2, 3)]) := by decide +kernel

end NetAttach.Yaml.Graph
