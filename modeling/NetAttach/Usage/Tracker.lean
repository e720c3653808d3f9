/-
  Counting the use of networks.

  A tracked pod counts once for each plugin type that its networks use, once for the combination of them when
  there are several, and once for the label `any`.  The combination is the types in increasing order between
  commas, and it is all that is remembered of the pod: removing the pod takes it apart again, so nothing has
  to be looked up a second time.

  What the tracker does is described as a task, a sequence of operations each of which is one access to the
  store or one request to the cluster.  `UsageTask.step` does the first operation of a task and
  `UsageTask.run` does all of them, so that the tasks of several workers can be interleaved operation by
  operation.
-/
import NetAttach.Cni.Classify
import NetAttach.Lookup
import NetAttach.Selection.Parse
import NetAttach.Usage.Gauges
import NetAttach.Usage.Store

namespace NetAttach

/-! ## What others can see -/

/-- Something that a tracker does that can be seen from outside. -/
inductive UsageEvent where
  /-- An attachment is asked for. -/
  | request (name ns : Text)
  /-- The number of pods for a label changes. -/
  | add (label : Text) (delta : Int)
  /-- It is said whether there are pods for a label. -/
  | enable (label : Text) (up : Bool)
deriving DecidableEq

/-- Who hears of changes: nobody, or a listener that is told of `labels`, or of all, whether they are up. -/
structure Publication where
  heard : Bool
  labels : Option (List Text)

namespace Publication

/-- It is said of `label` whether there are pods for it. -/
def covers (p : Publication) (label : Text) : Bool := p.labels.all fun labels => labels.contains label

/-- What is published when the total of `label` has been changed by `delta` and is now `total`. -/
def ofChange (p : Publication) (label : Text) (delta total : Int) : List UsageEvent :=
  if p.heard then .add label delta :: if p.covers label then [.enable label (0 < total)] else []
  else []

end Publication

/-- The gauges follow what is published. -/
def Gauges.hear (g : Gauges) : UsageEvent → Gauges
  | .request _ _ => g
  | .add label delta => g.addInstances label (Float.ofInt delta)
  | .enable label up => g.setEnabled label up

/-! ## Tasks -/

/-- A sequence of operations that ends with a result or in a failure. -/
inductive UsageTask (α : Type) where
  | done (a : α)
  | fail (f : Failure)
  | remembered (key : Text) (next : Option Text → UsageTask α)
  | forget (key : Text) (next : Option Text → UsageTask α)
  | remember (key combination : Text) (next : UsageTask α)
  | adjust (label : Text) (delta : Int) (next : UsageTask α)
  | request (name ns : Text) (next : Lookup → UsageTask α)

/-- What has come of a task that ran to its end. -/
structure UsageOutcome (α : Type) where
  result : Except Failure α
  store : UsageStore
  events : List UsageEvent

/-- Put events in front of those of an outcome. -/
def UsageOutcome.after {α : Type} (events : List UsageEvent) (o : UsageOutcome α) : UsageOutcome α :=
  { o with events := events ++ o.events }

namespace UsageTask

variable {α β : Type}

/-- The task is over. -/
def isOver : UsageTask α → Bool
  | done _ | fail _ => true
  | _ => false

/-- One task, and then another that depends on its result. -/
def bind : UsageTask α → (α → UsageTask β) → UsageTask β
  | done a, f => f a
  | fail e, _ => fail e
  | remembered key next, f => remembered key fun answer => bind (next answer) f
  | forget key next, f => forget key fun answer => bind (next answer) f
  | remember key combination next, f => remember key combination (bind next f)
  | adjust label delta next, f => adjust label delta (bind next f)
  | request name ns next, f => request name ns fun answer => bind (next answer) f

/-- Do the first operation of a task. -/
def step (p : Publication) (lookup : Text → Text → Lookup) :
    UsageTask α → UsageStore → UsageTask α × UsageStore × List UsageEvent
  | done a, s => (done a, s, [])
  | fail e, s => (fail e, s, [])
  | remembered key next, s => (next (s.remembered key), s, [])
  | forget key next, s => (next (s.remembered key), s.forget key, [])
  | remember key combination next, s => (next, s.remember key combination, [])
  | adjust label delta next, s =>
    let s := s.adjust label delta
    (next, s, p.ofChange label delta (s.total label))
  | request name ns next, s => (next (lookup name ns), s, [.request name ns])

/-- Do all operations of a task. -/
def run (p : Publication) (lookup : Text → Text → Lookup) :
    UsageTask α → UsageStore → UsageOutcome α
  | done a, s => ⟨.ok a, s, []⟩
  | fail e, s => ⟨.error e, s, []⟩
  | remembered key next, s => run p lookup (next (s.remembered key)) s
  | forget key next, s => run p lookup (next (s.remembered key)) (s.forget key)
  | remember key combination next, s => run p lookup next (s.remember key combination)
  | adjust label delta next, s =>
    let s := s.adjust label delta
    (run p lookup next s).after (p.ofChange label delta (s.total label))
  | request name ns next, s => (run p lookup (next (lookup name ns)) s).after [.request name ns]

/-- Running a task is doing its first operation and running the rest. -/
theorem run_eq_run_step (p : Publication) (lookup : Text → Text → Lookup) (t : UsageTask α)
    (s : UsageStore) :
    t.run p lookup s =
      ((t.step p lookup s).1.run p lookup (t.step p lookup s).2.1).after (t.step p lookup s).2.2 := by
  cases t <;> simp [run, step, UsageOutcome.after]

/-- Change the total of each label by `delta`, in order, and go on with `next`. -/
def adjustAll (labels : List Text) (delta : Int) (next : UsageTask α) : UsageTask α :=
  labels.foldr (fun label rest => adjust label delta rest) next

end UsageTask

/-! ## The tracker -/

namespace UsageTracker

/-- The label of every tracked pod. -/
def anyLabel : Text := "any"

/-- What is remembered of plugin types. -/
def combine (types : List Text) : Text := Text.join "," types

/-- The types that a combination is taken apart into. -/
def separate (combination : Text) : List Text :=
  if combination.isEmpty then [] else combination.splitOn (CodePoint.ofChar ',')

/-- The labels that a pod with the given types counts for. -/
def labels (types : List Text) (combination : Text) : List Text :=
  types ++ (if 1 < types.length then [combination] else []) ++ [anyLabel]

/-- The plugin types of an attachment: none, if its configuration cannot be used. -/
def attachmentTypes [Nesting] (a : Attachment) : Except Failure (List Text) :=
  match Cni.classify a.config a.name with
  | .ok types => .ok (types.filterMap fun t => if t.truth then (Value.scalar t).asText? else none)
  | .error e => e.reason.map fun _ => []

/-- What an attachment contributes that has been looked up. -/
def contribution [Nesting] : Lookup → Except Failure (List Text)
  | .found a => attachmentTypes a
  | .absent | .failed _ => .ok []
  | .crashed f => .error f

/-- Collect the types of references, on top of `types`. -/
def collect [Nesting] (types : List Text) : List Reference → UsageTask (List Text)
  | [] => .done types
  | r :: rest =>
    .request r.name r.ns fun answer =>
      match contribution answer with
      | .ok more => collect (Text.distinctInOrder (types ++ more)) rest
      | .error f => .fail f

/-- The plugin types of all networks that an annotation selects, in increasing order.  An annotation that
cannot be read selects nothing. -/
def resolve [Nesting] (selection ns : Text) : UsageTask (List Text) :=
  match Selection.parse selection ns with
  | .ok references => collect [] references
  | .error e =>
    match e.reason with
    | .ok _ => .done []
    | .error f => .fail f

/-- Take back what a pod was counted for. -/
def uncount (combination : Text) (next : UsageTask Unit) : UsageTask Unit :=
  .adjustAll (labels (separate combination) combination) (-1) next

/-- Stop counting a pod. -/
def delete (key : Text) : UsageTask Unit :=
  .forget key fun
    | none => .done ()
    | some combination => uncount combination (.done ())

/-- Count a pod that is not tracked; the result is the combination it is remembered with. -/
def count [Nesting] (key selection ns : Text) : UsageTask Text :=
  (resolve selection ns).bind fun types =>
    let combination := combine types
    .adjustAll (labels types combination) 1 (.remember key combination (.done combination))

/-- Count a pod.  One that is tracked is first removed, so that it never counts twice. -/
def add [Nesting] (key selection ns : Text) : UsageTask Text :=
  .remembered key fun
    | none => count key selection ns
    | some _ => (delete key).bind fun _ => count key selection ns

/-- Publish a zero for each label whose gauge is configured, or for `any` when none is. -/
def prime (p : Publication) : UsageTask Unit :=
  let configured := p.labels.getD []
  .adjustAll (if configured.isEmpty then [anyLabel] else Text.distinctInOrder configured) 0 (.done ())

example : separate "bridge,macvlan" = (["bridge", "macvlan"] : List Text) := by decide
example : labels ["a", "b"] "a,b" = (["a", "b", "a,b", "any"] : List Text) := by decide
example : labels ["a"] "a" = (["a", "any"] : List Text) := by decide

end UsageTracker

end NetAttach
