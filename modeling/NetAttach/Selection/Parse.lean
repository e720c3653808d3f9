/-
  Reading the networks annotation of a pod.

  The annotation has two forms.  The short form is a row of items `namespace/name@interface` between commas,
  where the namespace and the interface may be left out; the long form is a JSON list of objects.  A bracket,
  a brace or a double quote anywhere in the value selects the long form.

  In both forms a reference without a namespace is put into the namespace of the pod.
-/
import NetAttach.Selection.Reference
import NetAttach.Failure
import NetAttach.Json.Reader
import NetAttach.Reason

namespace NetAttach.Selection

/-- Why an annotation is not read. -/
inductive Error where
  /-- There is nothing in it. -/
  | empty
  /-- It has the long form and is no JSON. -/
  | malformedJson (e : Json.Error)
  /-- It is JSON, but no list of objects. -/
  | notObjects
  /-- A field of an object holds something else than text. -/
  | fieldNotText (field : Text)
  /-- An object names no network. -/
  | unnamedObject
  /-- An item names no network. -/
  | unnamedItem (item : Text)
  /-- An item holds more than one slash. -/
  | slashes (item : Text)
  /-- An item holds more than one at-sign. -/
  | atSigns (item : Text)
  /-- A name, namespace or interface is no token. -/
  | notToken (word : Text)
  /-- It is JSON, with an integer that is too long to be read. -/
  | longInteger (digits : Nat)
  /-- It is nested too deep. -/
  | tooDeep (c : Json.Collection)
deriving DecidableEq

namespace Error

/-- The reason to give for an annotation that cannot be read.  There is none for a number that is too long, nor for
what is nested too deep: what such an annotation selects is not known, so it does not count as a bad annotation but as
a failure. -/
def reason : Error → Except Failure Reason
  | empty => .ok .emptySelection
  | malformedJson _ | notObjects | fieldNotText _ => .ok .malformedJson
  | unnamedObject | unnamedItem _ | slashes _ | atSigns _ => .ok .invalidObjectName
  | notToken _ => .ok .invalidToken
  | longInteger digits => .error (.longInteger digits)
  | tooDeep c => .error (.tooDeep (.reading c))

/-- What is said of an annotation that is not read. -/
def message : Error → Text
  | empty => "pod annotation " ++ networksKey.quoted ++ " is empty"
  | malformedJson e => "failed to parse network selection annotation JSON: " ++ e.message
  | notObjects => "network selection annotation JSON must be a list of objects"
  | fieldNotText field => "network selection field " ++ field.quoted ++ " must be a string"
  | unnamedObject => "network selection element is missing 'name'"
  | unnamedItem item => "invalid network object " ++ item.quoted ++ " (empty name)"
  | slashes item => "invalid network object " ++ item.quoted ++ " (failed at '/')"
  | atSigns item => "invalid network object " ++ item.quoted ++ " (failed at '@')"
  | notToken word =>
    "one or more items did not match comma-delimited format (must consist of alphanumeric " ++
      "characters or '-' and start and end with an alphanumeric character), mismatch @ '" ++
      word ++ "'"
  | longInteger digits => IntegerFault.tooLongMessage digits
  | tooDeep c => (Descent.reading c).message

end Error

/-- The value has the long form. -/
def isJson (raw : Text) : Bool := raw.any fun c => c = '[' || c = '{' || c = '"'

/-! ## References -/

/-- A reference whose parts are tokens; the namespace and the interface may also be empty.  The namespace is
looked at first, then the name, then the interface. -/
def checked (ns name interface : Text) : Except Error Reference :=
  match [ns, name, interface].find? fun word => !word.isEmpty && !word.isToken with
  | some word => .error (.notToken word)
  | none => .ok ⟨name, ns, interface⟩

/-! ## The short form -/

/-- The name and the interface in the part of `item` behind the namespace. -/
def splitInterface (item rest : Text) : Except Error (Text × Text) :=
  match rest.splitOn (CodePoint.ofChar '@') with
  | [name] => .ok (Text.strip name, [])
  | [name, interface] => .ok (Text.strip name, Text.strip interface)
  | _ => .error (.atSigns item)

/-- The namespace, the name and the interface of an item, without white space around them. -/
def splitItem (item : Text) : Except Error (Text × Text × Text) :=
  match item.splitOn (CodePoint.ofChar '/') with
  | [rest] => (splitInterface item rest).map fun (name, interface) => ([], name, interface)
  | [ns, rest] => (splitInterface item rest).map fun (name, interface) => (Text.strip ns, name, interface)
  | _ => .error (.slashes item)

/-- The reference that an item of the short form stands for. -/
def readItem (item : Text) : Except Error Reference :=
  match splitItem item with
  | .error e => .error e
  | .ok (ns, name, interface) =>
    if name.isEmpty then .error (.unnamedItem item) else checked ns name interface

/-- The references of the short form. -/
def readItems (raw : Text) : Except Error (List Reference) :=
  (raw.splitOn (CodePoint.ofChar ',')).mapM fun item => readItem (Text.strip item)

/-! ## The long form -/

/-- A field of an object: a text, or empty when it is left out or null. -/
def textField (object : Entries) (field : Text) : Except Error Text :=
  match object.get? field with
  | none | some .null => .ok []
  | some (.text t) => .ok t
  | some _ => .error (.fieldNotText field)

/-- The interface of an object, which has two names.  The second is looked at only when the first says
nothing. -/
def interfaceField (object : Entries) : Except Error Text :=
  match textField object "interface" with
  | .error e => .error e
  | .ok [] => textField object "interfaceRequest"
  | .ok t => .ok t

/-- The reference that an element of the long form stands for. -/
def readElement : Value → Except Error Reference
  | .mapping object => do
    let name ← textField object "name"
    let ns ← textField object "namespace"
    let interface ← interfaceField object
    if name.isEmpty then .error .unnamedObject else checked ns name interface
  | _ => .error .notObjects

/-- The references of the long form. -/
def readJson [Nesting] (raw : Text) : Except Error (List Reference) :=
  match Json.readWithin Nesting.selection raw with
  | .error (.longInteger digits) => .error (.longInteger digits)
  | .error (.tooDeep c) => .error (.tooDeep c)
  | .error e => .error (.malformedJson e)
  | .ok (.list elements) => elements.mapM readElement
  | .ok _ => .error .notObjects

/-! ## Both forms -/

/-- The references in an annotation, in the order in which they are written. -/
def parse [Nesting] (raw defaultNamespace : Text) : Except Error (List Reference) :=
  if raw.isEmpty then .error .empty
  else
    (if isJson raw then readJson raw else readItems raw).map fun references =>
      references.map fun r => r.inNamespace defaultNamespace

example : (parse "ns1/net-a@eth1, net-b" "default").toOption =
    some [⟨"net-a", "ns1", "eth1"⟩, ⟨"net-b", "default", []⟩] := by decide +kernel
example : (parse "[\x7b\"name\": \"net-a\", \"interface\": null\x7d]" "default").toOption =
    some [⟨"net-a", "default", []⟩] := by decide +kernel

end NetAttach.Selection
