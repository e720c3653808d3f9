/-
  The words of a YAML text.

  Indentation is made visible: where the entries of a block collection begin further to the right than what
  surrounds them a collection opens, and where a line begins further to the left collections close.
-/
import NetAttach.Text.CodePoint

namespace NetAttach.Yaml

/-- What a line that begins with a percent sign says about the document that follows. -/
inductive Directive where
  /-- The version of the language; the number before its point counts. -/
  | version (major : Int)
  /-- A short form of what tags begin with. -/
  | handle (name long : Text)
  | unknown
deriving DecidableEq

/-- A tag as written: a handle, if it has one, and what follows it. -/
structure TagName where
  handle : Option Text
  suffix : Text
deriving DecidableEq

/-- A word of a YAML text. -/
inductive Token where
  | streamEnd
  | directive (d : Directive)
  | documentStart
  | documentEnd
  | blockSequence
  | blockMapping
  | blockEnd
  | flowSequence
  | flowSequenceEnd
  | flowMapping
  | flowMappingEnd
  | blockEntry
  | flowEntry
  | key
  | value
  | alias (name : Text)
  | anchor (name : Text)
  | tag (name : TagName)
  /-- A scalar, with or without quotes. -/
  | scalar (plain : Bool) (t : Text)
deriving DecidableEq

end NetAttach.Yaml
