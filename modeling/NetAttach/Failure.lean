/-
  What no rule of the program answers for.

  Most things that can be wrong with an input have a reason and lead to a refusal.  What is left are
  failures: an integer that is too long, data that are nested too deep, data of a kind that was not asked for, a
  collaborator that crashes.
  Nobody turns a failure into a decision; it goes on until something retries or gives up.
-/
import NetAttach.ErrorKind
import NetAttach.Nesting
import NetAttach.Number.Reading

namespace NetAttach

/-- Something that went wrong without being an answer. -/
inductive Failure where
  /-- An integer has too many digits to be read. -/
  | longInteger (digits : Nat)
  /-- An integer has too many digits to be written. -/
  | unwritable
  /-- A list or a mapping was to be a member of a set. -/
  | unhashable (typeName : Text)
  /-- A field was asked of something that has no fields. -/
  | notMapping (typeName : Text)
  /-- A pod has no metadata. -/
  | noMetadata
  /-- Something that is no change was to be handled as one. -/
  | notChange (typeName : Text)
  /-- Data are nested deeper than there is room for calls. -/
  | tooDeep (d : Descent)
  /-- A collaborator crashed. -/
  | crash (text : Text)
deriving DecidableEq

/-- The family of a failure. -/
def Failure.kind : Failure → ErrorKind
  | longInteger _ | unwritable => .value
  | unhashable _ | notChange _ => .type
  | notMapping _ | noMetadata => .attribute
  | tooDeep _ | crash _ => .crash

/-- What is said of a failure. -/
def Failure.message : Failure → Text
  | longInteger digits => IntegerFault.tooLongMessage digits
  | unwritable => IntegerFault.unwritableMessage
  | unhashable typeName => "unhashable type: '" ++ typeName ++ "'"
  | notMapping typeName => "'" ++ typeName ++ "' object has no attribute 'get'"
  | noMetadata => "'NoneType' object has no attribute 'namespace'"
  | notChange typeName => "Unsupported event type: <class '" ++ typeName ++ "'>"
  | tooDeep d => d.message
  | crash text => text

end NetAttach
