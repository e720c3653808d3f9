/-
  The nodes of a YAML document, before they are given a meaning.

  A node with an anchor goes by its name later in the document, and inside itself too: where the name is used
  stands an alias.
-/
import NetAttach.Yaml.Kind

namespace NetAttach.Yaml

/-- What the tag of a node says. -/
inductive Tag where
  /-- The node is what its form and its looks say. -/
  | looks
  | type (kind : Kind)

/-- The type of a scalar.  One without a tag shows its type in its looks if it is plain, and is text if it stands
in quotes. -/
def Tag.scalarKind (tag : Option Tag) (plain : Bool) (t : Text) : Kind :=
  match tag with
  | some (.type kind) => kind
  | some .looks => .ofLooks t
  | none => if plain then .ofLooks t else .text

/-- The type of a collection that would be of type `form` without a tag. -/
def Tag.collectionKind (tag : Option Tag) (form : Kind) : Kind :=
  match tag with
  | some (.type kind) => kind
  | _ => form

/-- A document or a part of one. -/
inductive Node where
  | scalar (kind : Kind) (t : Text)
  | sequence (kind : Kind) (items : List Node)
  | mapping (kind : Kind) (pairs : List (Node × Node))
  /-- A node with its anchor. -/
  | anchored (name : Text) (n : Node)
  /-- The node with an anchor, once more. -/
  | alias (name : Text)

/-- The node of a value that is left out. -/
def Node.empty : Node := .scalar .null []

end NetAttach.Yaml
