/-
  The handler that counts the use of networks.
-/
import NetAttach.Controller.Basic
import NetAttach.Usage.Tracker

namespace NetAttach

/-- How a tracker finds its way in a world: where its store is, how attachments are looked up, and what
becomes of the world when the store changes and events are published. -/
structure UsageAccess (σ : Type) where
  publication : Publication
  store : σ → UsageStore
  lookup : σ → Text → Text → Lookup
  update : UsageStore → List UsageEvent → σ → σ

namespace UsageAccess

variable {τ σ α : Type}

/-- Run a task of the tracker in a world. -/
def run (a : UsageAccess σ) (task : UsageTask α) (world : σ) : Except Failure α × σ :=
  let o := task.run a.publication (a.lookup world) (a.store world)
  (o.result, a.update o.store o.events world)

/-- Run a task of the tracker whose result nobody needs, unless it is a failure. -/
def act (a : UsageAccess σ) (task : UsageTask α) (world : σ) : σ × Option Failure :=
  let (result, world) := a.run task world
  (world,
    match result with
    | .ok _ => none
    | .error f => some f)

/-- Count pods that come, and stop counting those that go. -/
def counting [Nesting] (a : UsageAccess σ) : Handler σ :=
  { upsert := fun key selection ns => a.act (UsageTracker.add key selection ns)
    delete := fun key => a.act (UsageTracker.delete key) }

/-- The same where changes are applied. -/
def handler [Nesting] (a : UsageAccess σ) : Handler (Control τ σ) := a.counting.onWorld

end UsageAccess

end NetAttach
