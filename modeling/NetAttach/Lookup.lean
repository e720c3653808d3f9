/-
  Asking the cluster for an attachment.

  There are four outcomes.  The attachment is found, or there is none, or the request failed in a way that
  says nothing about the attachment; the fourth is a crash, which is not for the one who asks to handle.
-/
import NetAttach.ApiObject
import NetAttach.Failure

namespace NetAttach

/-- What the cluster answers to a request for an object. -/
inductive ApiAnswer where
  | object (v : Value)
  /-- Another status than success, and the word for it. -/
  | status (code : Int) (reason : Option Text)
  /-- No answer came through. -/
  | transport (text : Text)
  | crash (text : Text)

/-- A request for an attachment. -/
structure ApiRequest where
  group : Text
  version : Text
  plural : Text
  ns : Text
  name : Text
  timeout : Float

/-- Why it is not known whether there is an attachment. -/
inductive LookupError where
  | status (reason : Option Text)
  | transport (text : Text)
  | malformed (e : ObjectError)
deriving DecidableEq

/-- What is said of an attachment that could not be looked up. -/
def LookupError.message (ns name : Text) : LookupError → Text
  | status reason =>
    "failed to locate network attachment definition " ++ ns ++ "/" ++ name ++ ": " ++ reason.getD "None"
  | transport text =>
    "failed to locate network attachment definition " ++ ns ++ "/" ++ name ++ ": " ++ text
  | malformed e =>
    "network attachment definition " ++ ns ++ "/" ++ name ++ " is malformed: " ++ e.message

/-- The outcome of asking for an attachment. -/
inductive Lookup where
  | found (a : Attachment)
  | absent
  | failed (e : LookupError)
  | crashed (f : Failure)
deriving DecidableEq

namespace Lookup

/-- The status that says that there is no such object. -/
def statusAbsent : Int := 404

/-- What an answer of the cluster means. -/
def ofAnswer [Nesting] : ApiAnswer → Lookup
  | .object v =>
    match Attachment.ofValue v with
    | .ok a => .found a
    | .error .tooDeep => .crashed (.tooDeep .showing)
    | .error e => .failed (.malformed e)
  | .status code reason => if code = statusAbsent then .absent else .failed (.status reason)
  | .transport text => .failed (.transport text)
  | .crash text => .crashed (.crash text)

/-- How long to wait for an answer. -/
def standardTimeout : Float := 10

/-- The request for an attachment. -/
def request (name ns : Text) (timeout : Float) : ApiRequest :=
  { group := Attachment.group, version := Attachment.version, plural := Attachment.plural, ns, name,
    timeout }

end Lookup

/-- What the cluster answers about attachments, by namespace and name. -/
abbrev ClusterAnswers := Table (Text × Text) ApiAnswer

/-- Ask for an attachment; when nothing is known of it, there is none. -/
def ClusterAnswers.lookup [Nesting] (c : ClusterAnswers) (name ns : Text) : Lookup :=
  .ofAnswer (c.getD (ns, name) (.status Lookup.statusAbsent none))

end NetAttach
