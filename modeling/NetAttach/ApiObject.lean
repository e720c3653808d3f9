/-
  Objects of the cluster, as far as admission and counting look into them.

  An object arrives as decoded data of any shape.  Two of them are of interest: a network attachment, which
  is a name, a namespace and the text of a CNI configuration, and a pod, of which only the identity and the
  annotations are read.  Names that are no text are taken by their text.
-/
import NetAttach.Failure
import NetAttach.Selection.Reference
import NetAttach.Table
import NetAttach.Value

namespace NetAttach

/-- Why data is not taken for an object of the cluster. -/
inductive ObjectError where
  | notAttachment
  | configNotText
  | notPod
  | annotationsNotMapping
  /-- A name or an annotation is an integer that is too long to be written. -/
  | unwritable
  /-- A name or an annotation is nested too deep, which is a failure and no fault of the object. -/
  | tooDeep
deriving DecidableEq

namespace ObjectError

/-- What is said of an object that is not taken. -/
def message : ObjectError → Text
  | notAttachment => "object is not a NetworkAttachmentDefinition"
  | configNotText => "spec.config must be a string"
  | notPod => "object is not a Pod"
  | annotationsNotMapping => "metadata.annotations must be a mapping"
  | unwritable => IntegerFault.unwritableMessage
  | tooDeep => Descent.showing.message

/-- A name or an annotation has no text. -/
def ofUntold : Value.Untold → ObjectError
  | .longInteger => unwritable
  | .tooDeep => tooDeep

end ObjectError

namespace Value

/-- A section of an object: a mapping, or anything that counts as false for an empty one. -/
def section? (v : Value) : Option Entries := (v.orElse (.mapping [])).asMapping?

/-- The text that names something, with anything that counts as false for the empty text. -/
def nameText [Nesting] (v : Value) : Except ObjectError Text :=
  ((v.orElse (.text [])).shown Nesting.name).mapError .ofUntold

end Value

/-- A network attachment: how the pods that select it are to be connected. -/
structure Attachment where
  name : Text
  ns : Text
  config : Text
deriving DecidableEq

namespace Attachment

/-- The kind that such objects give as their own. -/
def kind : Text := "NetworkAttachmentDefinition"

/-- The API group, the version and the plural name under which attachments are asked for. -/
def group : Text := "k8s.cni.cncf.io"
def version : Text := "v1"
def plural : Text := "network-attachment-definitions"

/-- The configuration in the specification of an attachment: a text, or empty when left out or null. -/
def configText (spec : Entries) : Except ObjectError Text :=
  match spec.get? "config" with
  | none | some .null => .ok []
  | some (.text t) => .ok t
  | some _ => .error .configNotText

/-- The attachment that `v` describes. -/
def ofValue [Nesting] (v : Value) : Except ObjectError Attachment :=
  match v.asMapping? with
  | some object =>
    match (Entries.field object "metadata").section?, (Entries.field object "spec").section? with
    | some metadata, some spec => do
      let config ← configText spec
      let name ← (metadata.field "name").nameText
      let ns ← (metadata.field "namespace").nameText
      return { name, ns, config }
    | _, _ => .error .notAttachment
  | none => .error .notAttachment

end Attachment

/-- A pod as submitted: its identity and its annotations. -/
structure SubmittedPod where
  name : Text
  ns : Text
  annotations : Table Text Text

namespace SubmittedPod

/-- The kind that such objects give as their own. -/
def kind : Text := "Pod"

/-- One annotation, both sides of it as text. -/
def annotationText [Nesting] (entry : Scalar × Value) : Except ObjectError (Text × Text) := do
  let key ← ((Value.scalar entry.1).shown Nesting.name).mapError .ofUntold
  let text ← (entry.2.shown Nesting.name).mapError .ofUntold
  return (key, text)

/-- The pod that `v` describes.  A pod without a name has the name its own is to be made from. -/
def ofValue [Nesting] (v : Value) : Except ObjectError SubmittedPod :=
  match v.asMapping? with
  | some object =>
    match (Entries.field object "metadata").section? with
    | none => .error .notPod
    | some metadata =>
      match (metadata.field "annotations").section? with
      | none => .error .annotationsNotMapping
      | some annotations => do
        let name ← ((metadata.field "name").orElse (metadata.field "generateName")).nameText
        let ns ← (metadata.field "namespace").nameText
        let texts ← annotations.mapM annotationText
        return { name, ns, annotations := .ofList texts }
  | none => .error .notPod

/-- The networks that the pod selects, as written. -/
def networks? (pod : SubmittedPod) : Option Text := pod.annotations.get? networksKey

end SubmittedPod

end NetAttach
