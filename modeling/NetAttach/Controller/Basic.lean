/-
  Applying changes of pods.

  Only the key of a pod travels through the queue.  What is to be applied is the change that was recorded last
  for it, so of a burst of changes only the newest is applied.  A removal that has been applied is forgotten,
  unless a newer change was recorded while it was being applied; to tell the two apart, each record has a
  number of its own.

  Enqueuing is two steps, recording and adding the key, and processing is three, reading the record, handling
  it and retiring it.  Each is a function of its own, since other workers may come between them.
-/
import NetAttach.Controller.Registry
import NetAttach.WorkQueue.Dispatch

namespace NetAttach

/-- A recorded change; no two records have the same number. -/
structure Recorded where
  number : Nat
  change : PodChange
deriving DecidableEq

/-- The latest changes, and whatever handlers act on. -/
structure PodWork (σ : Type) where
  latest : Table Text Recorded
  recorded : Nat
  world : σ

namespace PodWork

variable {σ : Type}

/-- Record a change as the latest of its pod. -/
def record (w : PodWork σ) (change : PodChange) : PodWork σ :=
  { w with
    latest := w.latest.put change.key ⟨w.recorded, change⟩
    recorded := w.recorded + 1 }

/-- Forget a removal that has been applied, unless there is a newer record. -/
def retire (w : PodWork σ) (r : Recorded) : PodWork σ :=
  if r.change.isRemoval && (w.latest.get? r.change.key).any (·.number = r.number) then
    { w with latest := w.latest.erase r.change.key }
  else w

end PodWork

/-- The place where changes are applied. -/
abbrev Control (τ σ : Type) := Workplace Text τ (PodWork σ)

namespace Control

variable {τ σ : Type}

/-- A place where no change has been recorded. -/
def new (base limit now : τ) (world : σ) : Control τ σ := Workplace.new base limit now ⟨.empty, 0, world⟩

/-- The world that handlers act on. -/
def world (c : Control τ σ) : σ := c.subject.world

/-- Change the world. -/
def setWorld (c : Control τ σ) (world : σ) : Control τ σ :=
  { c with subject := { c.subject with world } }

/-- Record a change as the latest of its pod. -/
def record (c : Control τ σ) (change : PodChange) : Control τ σ :=
  { c with subject := c.subject.record change }

/-- Record a change and add its key to the queue. -/
def enqueue (c : Control τ σ) (change : PodChange) : Control τ σ :=
  Workplace.add (record c change) change.key

/-- The latest change of a pod. -/
def latest? (c : Control τ σ) (key : Text) : Option Recorded := c.subject.latest.get? key

/-- Forget a removal that has been applied, unless there is a newer record. -/
def retire (c : Control τ σ) (r : Recorded) : Control τ σ := { c with subject := c.subject.retire r }

/-- Apply the latest change of a pod. -/
def process (registry : Registry (Control τ σ)) (key : Text) (c : Control τ σ) :
    Control τ σ × Option Failure :=
  match latest? c key with
  | none => (c, none)
  | some r =>
    match registry.handle (.change r.change) c with
    | (c, none) => (retire c r, none)
    | failed => failed

/-- The dispatcher that applies changes; `onDrop` is told of pods that were given up. -/
def dispatcher (registry : Registry (Control τ σ)) (maxRetries : Int) (onDrop : Drop Text → σ → σ) :
    Dispatcher Text τ (PodWork σ) :=
  { process := process registry
    maxRetries
    onDrop := fun drop w => { w with world := onDrop drop w.world } }

end Control

/-- A handler that acts on the world, as one that acts where changes are applied. -/
def Handler.onWorld {τ σ : Type} (h : Handler σ) : Handler (Control τ σ) :=
  { upsert := fun key selection ns c =>
      let (world, failure) := h.upsert key selection ns c.world
      (c.setWorld world, failure)
    delete := fun key c =>
      let (world, failure) := h.delete key c.world
      (c.setWorld world, failure) }

end NetAttach
