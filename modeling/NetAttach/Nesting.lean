/-
  How deep data may be nested.

  Decoded data are built, copied and written out by functions that call themselves for each collection around a place,
  one call inside another, and there is only so much room for calls.  How much is left depends on who called, so each
  place of the program where data of any depth come in has a number of its own.  What is said of the program is said for
  whatever these numbers are.
-/
import NetAttach.Text.CodePoint

namespace NetAttach

/-- The collections of a JSON text. -/
inductive Json.Collection where
  | list
  | object
deriving DecidableEq

/-- What was going on when there was no room left. -/
inductive Descent where
  /-- A collection was entered in a text. -/
  | reading (c : Json.Collection)
  /-- A part of a collection was to be copied. -/
  | copying
  /-- The text of a part of a collection was asked for. -/
  | showing
  /-- A collection was to be written in JSON. -/
  | writing
deriving DecidableEq

/-- What is said when there is no room left. -/
def Descent.message : Descent → Text
  | reading .list => "maximum recursion depth exceeded while decoding a JSON array from a unicode string"
  | reading .object => "maximum recursion depth exceeded while decoding a JSON object from a unicode string"
  | copying => "maximum recursion depth exceeded while calling a Python object"
  | showing => "maximum recursion depth exceeded while getting the repr of an object"
  | writing => "maximum recursion depth exceeded while encoding a JSON object"

/-- The room that is left for calls where data of any depth come in. -/
class Nesting where
  /-- How many collections around each other are entered in the body of a review. -/
  review : Nat
  /-- How many are entered in the networks annotation of a pod; a list of objects is always read. -/
  selection : Nat
  selection_ge : 2 ≤ selection
  /-- How many are entered in a configuration. -/
  config : Nat
  /-- How many calls inside each other are left for the copy of a configuration. -/
  copy : Nat
  /-- How many are left for the text of a name or an annotation of an object. -/
  name : Nat
  /-- How many are left for the text of the name in front of a verdict. -/
  label : Nat
  /-- How many are left for the text of a setting. -/
  setting : Nat
  /-- How many collections around each other can be written in the answer to a review. -/
  answer : Nat

namespace Nesting

/-- The room on a stack of the usual size, most of which is free. -/
def usualRoom : Nat := 950

/-- There is as much room as usual everywhere. -/
instance usual : Nesting :=
  ⟨usualRoom, usualRoom, by decide, usualRoom, usualRoom, usualRoom, usualRoom, usualRoom, usualRoom⟩

end Nesting

end NetAttach
