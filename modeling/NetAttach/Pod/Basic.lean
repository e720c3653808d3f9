/-
  Pods as the cluster shows them while they live.
-/
import NetAttach.Selection.Reference
import NetAttach.Table

namespace NetAttach

/-- What identifies a pod, and what is written on it. -/
structure PodMetadata where
  name : Text
  ns : Option Text
  annotations : Table Text Text
  deletionTimestamp : Option Text
  resourceVersion : Option Text

/-- A pod.  One without metadata is malformed, and one without a phase has no status yet. -/
structure LivePod where
  metadata : Option PodMetadata
  phase : Option Text

namespace PodMetadata

/-- The namespace of a pod; one that is left out is empty. -/
def nsText (m : PodMetadata) : Text := m.ns.getD []

/-- The key of a pod: its name, behind its namespace if it has one. -/
def key (m : PodMetadata) : Text := if m.nsText.isEmpty then m.name else m.nsText ++ "/" ++ m.name

/-- The networks that a pod selects, as written. -/
def selection (m : PodMetadata) : Option Text := m.annotations.get? networksKey

/-- The pod is being deleted. -/
def isTerminating (m : PodMetadata) : Bool := m.deletionTimestamp.isSome

end PodMetadata

namespace LivePod

/-- The phase in which a pod counts. -/
def runningPhase : Text := "Running"

/-- The pod counts. -/
def isRunning (p : LivePod) : Bool := p.phase = some runningPhase

/-- The networks that a pod selects. -/
def selection (p : LivePod) : Option Text := p.metadata.bind PodMetadata.selection

end LivePod

end NetAttach
