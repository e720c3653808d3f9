/-
  The reasons for which the program turns something down.

  A reason is a word for the person who submitted an object or reads a log; the message beside it says what
  exactly was wrong.  Two families matter to callers: those of an annotation that cannot be read, and those
  of a name or configuration that does not have the required shape.
-/
import NetAttach.Text.CodePoint

namespace NetAttach

/-- Why something was turned down. -/
inductive Reason where
  | unspecified
  | selection
  | emptySelection
  | malformedJson
  | invalidObjectName
  | invalidToken
  | validation
  | invalidName
  | notJson
  | invalidConfig
  | missingPluginType
  | invalidShape
  | crossNamespace
  | lookup
  | dispatch
  | fatalIo
deriving DecidableEq

namespace Reason

/-- The word that is shown for a reason. -/
def text : Reason → Text
  | unspecified => "Error"
  | selection => "ParseError"
  | emptySelection => "EmptyAnnotation"
  | malformedJson => "MalformedAnnotationJSON"
  | invalidObjectName => "InvalidNetworkObjectName"
  | invalidToken => "InvalidTokenFormat"
  | validation => "ValidationError"
  | invalidName => "InvalidName"
  | notJson => "NotJSON"
  | invalidConfig => "InvalidConfig"
  | missingPluginType => "MissingPluginType"
  | invalidShape => "InvalidCNIConfigShape"
  | crossNamespace => "CrossNamespaceReferenceDenied"
  | lookup => "LookupError"
  | dispatch => "DispatchError"
  | fatalIo => "FatalIOError"

/-- All reasons. -/
def all : List Reason := [unspecified, selection, emptySelection, malformedJson, invalidObjectName,
  invalidToken, validation, invalidName, notJson, invalidConfig, missingPluginType, invalidShape,
  crossNamespace, lookup, dispatch, fatalIo]

theorem text_ne_nil (r : Reason) : r.text ≠ [] := by cases r <;> decide

end Reason

end NetAttach
