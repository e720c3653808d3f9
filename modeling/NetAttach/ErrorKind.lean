/-
  The families of errors.

  An error says what is wrong with one thing.  Its family says what sort of wrong that is, and is all that a
  caller looks at who does not read messages.
-/

namespace NetAttach

/-- The families of errors. -/
inductive ErrorKind where
  /-- A value does not suit. -/
  | value
  /-- A number is beyond what its type can hold. -/
  | range
  /-- Data are of the wrong type. -/
  | type
  /-- Nothing stands at a place. -/
  | index
  /-- Nothing goes by a key. -/
  | key
  /-- Something has not the part it was asked for. -/
  | attribute
  /-- What was going on came to an end that nobody foresaw. -/
  | crash
deriving DecidableEq

end NetAttach
