/-
  Values from collections that know their parts by number.

  A value is made of a collection by putting the parts in their places.  On the way down a collection may be met
  that is being made already: only its name is put there, and the collections between get names too.
-/
import NetAttach.Value

namespace NetAttach.Yaml

/-- A part of a collection: a scalar, or a collection by its number. -/
inductive Part where
  | scalar (s : Scalar)
  | collection (number : Nat)
deriving DecidableEq

/-- A collection, with the collections in it by number. -/
inductive Collection where
  | list (items : List Part)
  | mapping (entries : List (Scalar × Part))
  | pair (first second : Part)
  | set (members : List Scalar)
deriving DecidableEq

namespace Collection

/-- The shape of a collection. -/
def shape : Collection → Shape
  | mapping _ => .mapping
  | pair _ _ => .pair
  | _ => .list

/-- The parts of a collection. -/
def parts : Collection → List Part
  | list items => items
  | mapping entries => entries.map (·.2)
  | pair first second => [first, second]
  | set _ => []

/-- A collection with values in the places of its parts. -/
def withValues : Collection → List Value → Value
  | list _, values => .list values
  | mapping entries, values => .mapping ((entries.map (·.1)).zip values)
  | pair _ _, values => .pair (values.headD .null) (values.tail.headD .null)
  | set members, _ => .set members

end Collection

/-- A value, and the names in it that are not explained in it. -/
structure Piece where
  value : Value
  names : List Nat

/-- The values of collections that have been made and need nothing explained, by number. -/
abbrev Known := Array (Option Value)

/-- Take note of a value that needs nothing explained. -/
def Piece.note (n : Nat) (p : Piece) : StateM Known Piece := do
  if p.names.isEmpty then modify fun known => known.setIfInBounds n (some p.value)
  return p

/-- The value of a part; `around` are the collections that are being made. -/
def Part.piece (collections : Array Collection) : (fuel : Nat) → (around : List Nat) → Part → StateM Known Piece
  | _, _, .scalar s => return ⟨.scalar s, []⟩
  | 0, _, .collection n => return ⟨.again n .list, [n]⟩
  | fuel + 1, around, .collection n => do
    let collection := collections[n]?.getD (.list [])
    if around.contains n then return ⟨.again n collection.shape, [n]⟩
    match (← get)[n]?.join with
    | some v => return ⟨v, []⟩
    | none =>
      let pieces ← collection.parts.mapM (piece collections fuel (n :: around))
      let v := collection.withValues (pieces.map (·.value))
      let names := (pieces.flatMap (·.names)).eraseDups
      Piece.note n (if names.isEmpty then ⟨v, []⟩ else ⟨.loop n v, names.erase n⟩)

/-- The value of a part. -/
def Part.value (collections : Array Collection) (p : Part) : Value :=
  ((p.piece collections (collections.size + 1) []).run (Array.replicate collections.size none)).1.value

example : Part.value #[.list [.collection 0, .collection 1], .list [.scalar .null]] (.collection 0) =
    .loop 0 (.list [.again 0 .list, .list [.null]]) := by decide +kernel

end NetAttach.Yaml
