/-
  Calls of a tracker, one after another.

  A tracker is called to publish zeros, to count a pod or to stop counting one.  What the cluster answers may
  change from one call to the next, so a call comes with the answers that are given while it runs.

  A call is a task.  What it does to the store when nobody comes between its operations is said by
  `afterCall_prime`, `afterCall_add` and `afterCall_delete`; a call that fails has done part of it, and the
  next call is made all the same (`afterCalls`).
-/
import NetAttach.Proofs.Usage.Effect

namespace NetAttach

open UsageTracker

/-- A call of a tracker. -/
inductive UsageCall where
  /-- Publish a zero for the labels whose gauge is configured. -/
  | prime
  | add (key selection ns : Text)
  | delete (key : Text)

/-- The task that a call is, without its result. -/
def UsageCall.task [Nesting] (p : Publication) : UsageCall → UsageTask Unit
  | prime => UsageTracker.prime p
  | add key selection ns => (UsageTracker.add key selection ns).bind fun _ => .done ()
  | delete key => UsageTracker.delete key

/-- A call, and what the cluster answers while it runs. -/
structure AnsweredCall where
  call : UsageCall
  lookup : Text → Text → Lookup

/-- The plugin types that the call resolves for a pod, if it comes to counting the pod. -/
def AnsweredCall.types? [Nesting] (c : AnsweredCall) : Option (List Text) :=
  match c.call with
  | .add _ selection ns => (resolved c.lookup selection ns).toOption
  | _ => none

theorem AnsweredCall.types?_add [Nesting] (key : Text) {selection ns : Text} {lookup : Text → Text → Lookup}
    {types : List Text} :
    AnsweredCall.types? ⟨.add key selection ns, lookup⟩ = some types ↔
      resolved lookup selection ns = .ok types := by
  simp only [types?]
  cases resolved lookup selection ns <;> simp [Except.toOption]

namespace UsageStore

variable [Nesting] (p : Publication)

/-- What a call leaves behind. -/
def afterCall (s : UsageStore) (c : AnsweredCall) : UsageStore :=
  ((c.call.task p).run p c.lookup s).store

/-- What calls leave behind that are made one after another. -/
def afterCalls (s : UsageStore) (calls : List AnsweredCall) : UsageStore :=
  calls.foldl (afterCall p) s

theorem afterCalls_append (s : UsageStore) (calls more : List AnsweredCall) :
    s.afterCalls p (calls ++ more) = (s.afterCalls p calls).afterCalls p more :=
  List.foldl_append

variable (lookup : Text → Text → Lookup)

/-- Priming adds zero to the totals of some labels, so it changes none. -/
theorem afterCall_prime (s : UsageStore) :
    (s.afterCall p ⟨.prime, lookup⟩).combinations = s.combinations ∧
      ∀ l, (s.afterCall p ⟨.prime, lookup⟩).total l = s.total l := by
  obtain ⟨labels, h⟩ : ∃ labels, s.afterCall p ⟨.prime, lookup⟩ = s.adjustAll labels 0 := by
    let configured := p.labels.getD []
    refine ⟨if configured.isEmpty then [anyLabel] else Text.distinctInOrder configured, ?_⟩
    show ((UsageTask.adjustAll _ 0 (.done ())).run p lookup s).store = _
    rw [UsageTask.run_adjustAll]
    rfl
  rw [h]
  refine ⟨combinations_adjustAll s labels 0, fun l => ?_⟩
  rw [total_adjustAll, Int.mul_zero, Int.add_zero]

theorem afterCall_add (s : UsageStore) (key selection ns : Text) :
    s.afterCall p ⟨.add key selection ns, lookup⟩ =
      (s.uncounted key).counted key (resolved lookup selection ns) := by
  obtain ⟨events, h⟩ := run_add p lookup key selection ns s
  show (((add key selection ns).bind fun _ => .done ()).run p lookup s).store = _
  rw [UsageTask.run_bind, h]
  cases resolved lookup selection ns <;> rfl

theorem afterCall_delete (s : UsageStore) (key : Text) :
    s.afterCall p ⟨.delete key, lookup⟩ = s.uncounted key := by
  obtain ⟨events, h⟩ := run_delete p lookup key s
  exact congrArg UsageOutcome.store h

end UsageStore

end NetAttach
