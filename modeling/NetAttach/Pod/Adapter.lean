/-
  From what happens to pods to changes that matter for counting.

  Only pods that select networks matter, and only while they run.  The keys of pods that have been seen to
  select networks are remembered, so that it is noticed when a pod does so no longer, and when one is gone that
  nobody saw going.
-/
import NetAttach.Controller.Change
import NetAttach.Failure
import NetAttach.Pod.Basic

namespace NetAttach

/-- What the cluster says has happened to a pod. -/
inductive WatchKind where
  | added
  | modified
  | deleted
  | other
deriving DecidableEq

/-- The kind that a word of the cluster stands for. -/
def WatchKind.ofText (t : Text) : WatchKind :=
  if t = "ADDED" then added
  else if t = "MODIFIED" then modified
  else if t = "DELETED" then deleted
  else other

/-- The keys of the pods that are known to select networks, in increasing order. -/
structure PodAdapter where
  selecting : List Text
deriving DecidableEq

namespace PodAdapter

/-- No pod is known. -/
def new : PodAdapter := ⟨[]⟩

/-- The pod `key` is known to select networks. -/
def knows (a : PodAdapter) (key : Text) : Bool := a.selecting.contains key

/-- The pod `key` is known from now on. -/
def learn (a : PodAdapter) (key : Text) : PodAdapter := ⟨Text.insertInOrder key a.selecting⟩

/-- The pod `key` is forgotten. -/
def unlearn (a : PodAdapter) (key : Text) : PodAdapter := ⟨a.selecting.filter fun k => k ≠ key⟩

/-- A pod that selects networks has come or changed: it is known from now on, and counts if it runs. -/
def appear (a : PodAdapter) (kind : ChangeKind) (key selection ns : Text) (running : Bool) :
    Option PodChange × PodAdapter :=
  (if running then some ⟨key, kind, some selection, ns⟩ else none, a.learn key)

/-- The change that follows from what has happened to a pod with the given metadata. -/
def convertKnown (a : PodAdapter) (kind : WatchKind) (m : PodMetadata) (running : Bool) :
    Option PodChange × PodAdapter :=
  match kind, m.selection with
  | .added, none => (none, a)
  | .added, some selection => a.appear .create m.key selection m.nsText running
  | .modified, none =>
    if m.isTerminating || !a.knows m.key then (none, a)
    else (some ⟨m.key, .update, none, m.nsText⟩, a.unlearn m.key)
  | .modified, some selection =>
    if m.isTerminating then (none, a) else a.appear .update m.key selection m.nsText running
  | .deleted, selection =>
    (if a.knows m.key || selection.isSome then some ⟨m.key, .delete, selection, m.nsText⟩ else none,
      a.unlearn m.key)
  | .other, _ => (none, a)

/-- The change that follows from what has happened to a pod.  A pod without metadata is a failure. -/
def convert (a : PodAdapter) (kind : WatchKind) (pod : LivePod) :
    Except Failure (Option PodChange × PodAdapter) :=
  match pod.metadata with
  | none => .error .noMetadata
  | some m => .ok (a.convertKnown kind m pod.isRunning)

/-- The pods of a list that select networks, with what they select. -/
def selectingPods (pods : List LivePod) : List (PodMetadata × Text × Bool) :=
  pods.filterMap fun pod =>
    pod.metadata.bind fun m => m.selection.map fun selection => (m, selection, pod.isRunning)

/-- The namespace in a key. -/
def nsOfKey (key : Text) : Text :=
  match Text.cutFirst '/' key with
  | (ns, some _) => ns
  | (_, none) => []

/-- Compare with a list of all pods: the changes that lead from what is known to what is listed.  All running
pods that select networks are reported, and then, in order, the removal of those that are no longer listed or
select none. -/
def resync (a : PodAdapter) (pods : List LivePod) : List PodChange × PodAdapter :=
  let listed := selectingPods pods
  let keys := Text.distinctInOrder (listed.map fun p => p.1.key)
  let present := listed.filterMap fun (m, selection, running) =>
    if running then some ⟨m.key, .create, some selection, m.nsText⟩ else none
  let gone := (a.selecting.filter fun key => !keys.contains key).map fun key =>
    ⟨key, .delete, none, nsOfKey key⟩
  (present ++ gone, ⟨keys⟩)

/-! ## Which keys are known -/

theorem knows_iff {a : PodAdapter} {key : Text} : a.knows key = true ↔ key ∈ a.selecting :=
  List.contains_iff_mem

theorem knows_learn {a : PodAdapter} {key k : Text} :
    (a.learn key).knows k = true ↔ k = key ∨ a.knows k = true := by
  rw [knows_iff, knows_iff]
  exact Text.mem_insertInOrder

theorem knows_unlearn {a : PodAdapter} {key k : Text} :
    (a.unlearn key).knows k = true ↔ a.knows k = true ∧ k ≠ key := by
  rw [knows_iff, knows_iff, unlearn, List.mem_filter, decide_eq_true_eq]

end PodAdapter

end NetAttach
