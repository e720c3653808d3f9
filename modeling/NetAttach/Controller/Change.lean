/-
  Changes of pods, as far as counting is concerned.

  A change names a pod and says which networks it selects now; a pod that is deleted, or that no longer
  selects any, is to be removed.
-/
import NetAttach.Text.Quoted

namespace NetAttach

/-- What has happened to a pod. -/
inductive ChangeKind where
  | create
  | update
  | delete
deriving DecidableEq

namespace ChangeKind

/-- The word for a kind. -/
def text : ChangeKind → Text
  | create => "create"
  | update => "update"
  | delete => "delete"

/-- The kind that a word stands for. -/
def ofText? (t : Text) : Option ChangeKind := [create, update, delete].find? fun k => k.text = t

/-- What is said of a word that stands for no kind. -/
def unknownMessage (t : Text) : Text := t.quoted ++ " is not a valid EventType"

end ChangeKind

/-- A change of the pod `key`, which selects networks by `selection` or selects none. -/
structure PodChange where
  key : Text
  kind : ChangeKind
  selection : Option Text
  ns : Text
deriving DecidableEq

/-- The pod is to be removed. -/
def PodChange.isRemoval (c : PodChange) : Bool := c.kind = .delete || c.selection.isNone

end NetAttach
