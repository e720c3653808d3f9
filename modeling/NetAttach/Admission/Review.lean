/-
  Admission reviews.

  The cluster asks about an object by sending a review: a JSON object of kind `AdmissionReview` whose
  `request` holds an identifier and the object.  The answer is an envelope of the same kind that repeats the
  identifier.  Nothing is asked of the identifier; whatever it is, it is sent back.
-/
import NetAttach.Admission.Decision

namespace NetAttach

/-- A review that can be answered: the whole of it, and the request in it. -/
structure Review where
  fields : Entries
  request : Entries

namespace Review

/-- The kind of a review, and of the answer to it. -/
def kind : Text := "AdmissionReview"

/-- The version of an answer to a review that has none. -/
def defaultVersion : Text := "admission.k8s.io/v1"

/-- The media type of a review. -/
def mediaType : Text := "application/json"

/-- Why a request carries no review that can be answered. -/
inductive Error where
  | emptyBody
  | contentType (given : Option Text)
  | unreadable (e : Json.BytesError)
  | otherKind
  | noRequest
  /-- The body is nested too deep, which is a failure and not for the sender to know. -/
  | tooDeep (c : Json.Collection)
deriving DecidableEq

namespace Error

/-- The status of the answer. -/
def status : Error → Nat
  | contentType _ => 415
  | tooDeep _ => 500
  | _ => 400

/-- What is said to the sender. -/
def message : Error → Text
  | emptyBody => "Error reading HTTP request: empty body"
  | contentType given =>
    "Invalid Content-Type='" ++ given.getD "None" ++ "', expected '" ++ mediaType ++ "'"
  | unreadable e => "error deserializing AdmissionReview: " ++ e.message
  | otherKind => "error deserializing AdmissionReview: received object is not an AdmissionReview"
  | noRequest => "received empty AdmissionReview request"
  | tooDeep c => (Descent.reading c).message

end Error

/-- The review that a decoded body is. -/
def ofValue : Value → Except Error Review
  | .mapping fields =>
    if Entries.field fields "kind" = .text kind then
      match Entries.field fields "request" with
      | .mapping request => .ok { fields, request }
      | _ => .error .noRequest
    else .error .otherKind
  | _ => .error .otherKind

/-- Read a review from the body of a request of the given media type. -/
def read [Nesting] (body : Bytes) (contentType : Option Text) : Except Error Review :=
  if body.isEmpty then .error .emptyBody
  else if contentType ≠ some mediaType then .error (.contentType contentType)
  else
    match Json.readBytes Nesting.review body with
    | .error (.json (.tooDeep c)) => .error (.tooDeep c)
    | .error e => .error (.unreadable e)
    | .ok v => ofValue v

/-- The field of a value that is expected to be a mapping. -/
def fieldOf (v : Value) (field : Text) : Except Failure (Option Value) :=
  match v with
  | .mapping entries => .ok (Entries.get? entries field)
  | v => .error (.notMapping v.typeName)

/-- The answer to a review.  A request that counts as false is taken for an empty one. -/
def answer (review : Value) (decision : Decision) : Except Failure Value := do
  let request := ((← fieldOf review "request").getD .null).orElse (.mapping [])
  let uid := (← fieldOf request "uid").getD (.text [])
  let version := ((← fieldOf review "apiVersion").getD .null).orElse (.text defaultVersion)
  let status : Entries :=
    if decision.message.isEmpty then []
    else [(.text "status", .mapping [(.text "message", .text decision.message)])]
  let response : Entries := [(.text "uid", uid), (.text "allowed", .bool decision.allowed)] ++ status
  return .mapping [(.text "apiVersion", version), (.text "kind", .text kind),
    (.text "response", .mapping response)]

end Review

/-! ## Decisions on objects of any shape -/

/-- The decision on an object that is not of the kind asked about. -/
def Decision.ofObjectError : ObjectError → Except Failure Decision
  | .tooDeep => .error (.tooDeep .showing)
  | e => .ok ⟨false, e.message, "InvalidObject"⟩

/-- Decide on an object that is to be an attachment. -/
def reviewAttachment [Nesting] (object : Value) : Except Failure Decision :=
  match Attachment.ofValue object with
  | .error e => Decision.ofObjectError e
  | .ok attachment => attachment.decide

/-- Decide on an object that is to be a pod. -/
def reviewPod [Nesting] (object : Value) : Except Failure Decision :=
  match SubmittedPod.ofValue object with
  | .error e => Decision.ofObjectError e
  | .ok pod => decideIsolation pod.networks?

end NetAttach
