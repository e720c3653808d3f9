/-
  Counting a pod again after it has failed.

  Counting a pod can fail: its annotation cannot even be turned down, or the cluster crashes.  By then what the pod
  was counted for before has been taken back, so the next call finds another store than the first one did.  It still
  comes to the same as if it had been made at once, for the store and for those who listen: what is taken back is
  taken back once, by whichever call comes first, and a call that fails does nothing else (`outcome_add_of_error`).

  The invariant of a run of failures is that taking the pod back would still lead to the same store, and that what
  was told so far, followed by what would be told then, is what is told when the pod is taken back at once
  (`withdrawal_after_failures`).
-/
import NetAttach.Proofs.Usage.Call

namespace NetAttach

/-! ## What listeners are told -/

namespace UsageEvent

/-- Listeners are told of changes, not of what the cluster is asked. -/
def isTold : UsageEvent → Bool
  | request _ _ => false
  | add _ _ | enable _ _ => true

/-- What listeners are told. -/
def told (events : List UsageEvent) : List UsageEvent := events.filter isTold

@[simp] theorem told_append (events more : List UsageEvent) : told (events ++ more) = told events ++ told more :=
  List.filter_append events more

end UsageEvent

open UsageEvent UsageTracker

/-- What comes of a call. -/
def AnsweredCall.outcome [Nesting] (p : Publication) (c : AnsweredCall) (s : UsageStore) : UsageOutcome Unit :=
  (c.call.task p).run p c.lookup s

namespace UsageStore

variable (p : Publication)

/-- What listeners are told while calls are made one after another. -/
def toldByCalls [Nesting] : UsageStore → List AnsweredCall → List UsageEvent
  | _, [] => []
  | s, c :: rest => told (c.outcome p s).events ++ toldByCalls (s.afterCall p c) rest

theorem toldByCalls_append [Nesting] (s : UsageStore) (calls more : List AnsweredCall) :
    s.toldByCalls p (calls ++ more) = s.toldByCalls p calls ++ (s.afterCalls p calls).toldByCalls p more := by
  induction calls generalizing s with
  | nil => rfl
  | cons c rest ih =>
    show told (c.outcome p s).events ++ (s.afterCall p c).toldByCalls p (rest ++ more) = _
    rw [ih (s.afterCall p c), ← List.append_assoc]
    rfl

/-- Each of the calls fails when its turn comes. -/
def EachFails [Nesting] : UsageStore → List AnsweredCall → Prop
  | _, [] => True
  | s, c :: rest => (∃ f, (c.outcome p s).result = .error f) ∧ EachFails (s.afterCall p c) rest

/-- What is published when a pod is taken back. -/
def withdrawal (s : UsageStore) (key : Text) : List UsageEvent :=
  match s.remembered key with
  | none => []
  | some combination => p.ofChanges (-1) (labels (separate combination) combination) (s.forget key)

theorem remembered_uncounted_self (s : UsageStore) (key : Text) : (s.uncounted key).remembered key = none := by
  rw [remembered_uncounted, if_pos rfl]

/-- A pod is taken back once. -/
theorem uncounted_uncounted (s : UsageStore) (key : Text) : (s.uncounted key).uncounted key = s.uncounted key := by
  conv_lhs => rw [uncounted, remembered_uncounted_self]

theorem withdrawal_uncounted (s : UsageStore) (key : Text) : (s.uncounted key).withdrawal p key = [] := by
  rw [withdrawal, remembered_uncounted_self]

end UsageStore

/-! ## What is published by counting and by taking back -/

namespace UsageTracker

open UsageStore

variable (p : Publication) (lookup : Text → Text → Lookup)

theorem run_delete_eq (key : Text) (s : UsageStore) :
    (delete key).run p lookup s = ⟨.ok (), s.uncounted key, s.withdrawal p key⟩ := by
  unfold delete uncounted withdrawal
  simp only [UsageTask.run]
  cases h : s.remembered key with
  | none => rw [forget_of_untracked h]; rfl
  | some combination =>
    simp only [uncount, UsageTask.run_adjustAll, UsageTask.run, UsageOutcome.after, List.append_nil]

/-- Adding a pod is taking it back and counting it; one that is not tracked is counted at once. -/
theorem run_add_eq [Nesting] (key selection ns : Text) (s : UsageStore) :
    (add key selection ns).run p lookup s =
      ((count key selection ns).run p lookup (s.uncounted key)).after (s.withdrawal p key) := by
  unfold add
  simp only [UsageTask.run]
  cases h : s.remembered key with
  | none =>
    rw [uncounted, withdrawal, h]
    simp [UsageOutcome.after]
  | some combination =>
    show ((delete key).bind fun _ => count key selection ns).run p lookup s = _
    rw [UsageTask.run_bind, run_delete_eq]

/-- Nobody is told of what is looked up. -/
theorem told_collect [Nesting] (types : List Text) (references : List Reference) (s : UsageStore) :
    told ((collect types references).run p lookup s).events = [] := by
  induction references generalizing types with
  | nil => rfl
  | cons r rest ih =>
    simp only [collect, UsageTask.run]
    cases contribution (lookup r.name r.ns) with
    | ok more =>
      show told ([.request r.name r.ns] ++ _) = []
      rw [told_append, ih]
      rfl
    | error f => rfl

theorem told_resolve [Nesting] (selection ns : Text) (s : UsageStore) :
    told ((resolve selection ns).run p lookup s).events = [] := by
  unfold resolve
  cases Selection.parse selection ns with
  | ok references => exact told_collect p lookup [] references s
  | error e =>
    simp only
    cases e.reason <;> rfl

/-- What listeners are told while a pod is counted depends on nothing but its types. -/
theorem told_count [Nesting] (key selection ns : Text) (s : UsageStore) :
    told ((count key selection ns).run p lookup s).events =
      match resolved lookup selection ns with
      | .ok types => told (p.ofChanges 1 (labels types (combine types)) s)
      | .error _ => [] := by
  obtain ⟨events, hr⟩ := run_resolve p lookup selection ns s
  have htold : told events = [] := by
    have := told_resolve p lookup selection ns s
    rwa [hr] at this
  unfold count
  rw [UsageTask.run_bind, hr]
  cases resolved lookup selection ns with
  | ok types =>
    simp only [UsageTask.run_adjustAll, UsageTask.run, UsageOutcome.after, told_append, htold, List.nil_append,
      List.append_nil]
  | error f => exact htold

/-- Counting fails before anything is counted. -/
theorem run_count_of_error [Nesting] {key selection ns : Text} {s : UsageStore} {f : Failure}
    (h : ((count key selection ns).run p lookup s).result = .error f) :
    ((count key selection ns).run p lookup s).store = s ∧
      told ((count key selection ns).run p lookup s).events = [] := by
  obtain ⟨events, hrun⟩ := run_count p lookup key selection ns s
  have htold := told_count p lookup key selection ns s
  cases hres : resolved lookup selection ns with
  | error f =>
    rw [hres] at hrun htold
    exact ⟨congrArg UsageOutcome.store hrun, htold⟩
  | ok types =>
    rw [hrun, hres] at h
    exact nomatch h

end UsageTracker

namespace AnsweredCall

open UsageStore

variable (p : Publication) (lookup : Text → Text → Lookup)

theorem outcome_delete [Nesting] (key : Text) (s : UsageStore) :
    outcome p ⟨.delete key, lookup⟩ s = ⟨.ok (), s.uncounted key, s.withdrawal p key⟩ :=
  run_delete_eq p lookup key s

theorem outcome_add [Nesting] (key selection ns : Text) (s : UsageStore) :
    outcome p ⟨.add key selection ns, lookup⟩ s =
      let counting := (count key selection ns).run p lookup (s.uncounted key)
      ⟨counting.result.map fun _ => (), counting.store, s.withdrawal p key ++ counting.events⟩ := by
  show ((add key selection ns).bind fun _ => .done ()).run p lookup s = _
  rw [UsageTask.run_bind, run_add_eq, UsageOutcome.result_after]
  cases hr : ((count key selection ns).run p lookup (s.uncounted key)).result <;>
    simp [UsageTask.run, UsageOutcome.after, Except.map, hr]

/-- A call that fails to count a pod takes it back, and it does nothing else. -/
theorem outcome_add_of_error [Nesting] {key selection ns : Text} {s : UsageStore} {f : Failure}
    (h : (outcome p ⟨.add key selection ns, lookup⟩ s).result = .error f) :
    s.afterCall p ⟨.add key selection ns, lookup⟩ = s.uncounted key ∧
      told (outcome p ⟨.add key selection ns, lookup⟩ s).events = told (s.withdrawal p key) := by
  have hout := outcome_add p lookup key selection ns s
  have hcount : ∃ f, ((count key selection ns).run p lookup (s.uncounted key)).result = .error f := by
    rw [hout] at h
    cases hr : ((count key selection ns).run p lookup (s.uncounted key)).result with
    | ok combination =>
      simp only [hr, Except.map] at h
      exact nomatch h
    | error f => exact ⟨f, rfl⟩
  obtain ⟨f, hf⟩ := hcount
  obtain ⟨hstore, htold⟩ := run_count_of_error p lookup hf
  constructor
  · show (outcome p ⟨.add key selection ns, lookup⟩ s).store = _
    rw [hout]
    exact hstore
  · rw [hout, told_append, htold, List.append_nil]

end AnsweredCall

/-! ## A run of failures -/

namespace UsageStore

variable {p : Publication} {key : Text}

/-- Whatever failed in between, taking the pod back leads where it would have led at once, and what was told so far,
followed by what is told then, is what would have been told at once.  By induction on the failures, each of which
takes the pod back itself. -/
theorem withdrawal_after_failures [Nesting] {failed : List AnsweredCall} {s : UsageStore}
    (hadds : ∀ c ∈ failed, ∃ selection ns, c.call = .add key selection ns) (hfails : s.EachFails p failed) :
    (s.afterCalls p failed).uncounted key = s.uncounted key ∧
      s.toldByCalls p failed ++ told ((s.afterCalls p failed).withdrawal p key) = told (s.withdrawal p key) := by
  induction failed generalizing s with
  | nil => exact ⟨rfl, rfl⟩
  | cons c rest ih =>
    obtain ⟨hadd, hrest⟩ := List.forall_mem_cons.mp hadds
    obtain ⟨⟨f, hf⟩, hlater⟩ := hfails
    obtain ⟨call, lookup⟩ := c
    obtain ⟨selection, ns, rfl⟩ := hadd
    obtain ⟨hstore, htold⟩ := AnsweredCall.outcome_add_of_error p lookup hf
    obtain ⟨hsame, hevents⟩ := ih hrest hlater
    show ((s.afterCall p _).afterCalls p rest).uncounted key = _ ∧
      told _ ++ (s.afterCall p _).toldByCalls p rest ++
        told (((s.afterCall p _).afterCalls p rest).withdrawal p key) = _
    constructor
    · rw [hsame, hstore, uncounted_uncounted]
    · -- the pod is not tracked any more, so that the failures that are left tell nothing
      have hnothing : told ((s.uncounted key).withdrawal p key) = [] := by rw [withdrawal_uncounted]; rfl
      rw [List.append_assoc, hevents, htold, hstore, hnothing, List.append_nil]

/-- **Failures leave no trace once the pod is dealt with.**  Any number of calls fail to count a pod, with whatever
annotations and answers of the cluster, and then the pod is counted or taken back: this call fails or returns as it
would have done at once, the store is the same, and listeners were told the same, in the same order. -/
theorem failures_leave_no_trace [Nesting] (p : Publication) (s : UsageStore) (key : Text) {failed : List AnsweredCall}
    (last : AnsweredCall) (hadds : ∀ c ∈ failed, ∃ selection ns, c.call = .add key selection ns)
    (hfails : s.EachFails p failed)
    (hlast : last.call = .delete key ∨ ∃ selection ns, last.call = .add key selection ns) :
    (last.outcome p (s.afterCalls p failed)).result = (last.outcome p s).result ∧
    s.afterCalls p (failed ++ [last]) = s.afterCalls p [last] ∧
    s.toldByCalls p (failed ++ [last]) = s.toldByCalls p [last] := by
  obtain ⟨hsame, htold⟩ := withdrawal_after_failures hadds hfails
  rw [afterCalls_append, toldByCalls_append]
  obtain ⟨call, lookup⟩ := last
  show _ ∧ (AnsweredCall.outcome p _ _).store = (AnsweredCall.outcome p _ _).store ∧
    _ ++ (told (AnsweredCall.outcome p _ _).events ++ []) = told (AnsweredCall.outcome p _ _).events ++ []
  rcases hlast with rfl | ⟨selection, ns, rfl⟩
  · simp only [AnsweredCall.outcome_delete, List.append_nil]
    exact ⟨trivial, hsame, htold⟩
  · simp only [AnsweredCall.outcome_add, hsame, told_append, List.append_nil]
    rw [← List.append_assoc, htold]
    exact ⟨trivial, trivial, rfl⟩

/-- A pod is counted for one plugin; then the cluster crashes twice, the second time when the first of two networks
has been found; then the pod is counted for both. -/
theorem failures_leave_no_trace_of_crashes :
    let p : Publication := ⟨true, none⟩
    let found : Text → Text → Lookup := fun name ns =>
      .found ⟨name, ns, if name = "a" then "\x7b\"type\": \"macvlan\"\x7d" else "\x7b\"type\": \"bridge\"\x7d"⟩
    let crashing (unreachable : Text) : Text → Text → Lookup := fun name ns =>
      if name = unreachable then .crashed (.crash "down") else found name ns
    let s := UsageStore.empty.afterCalls p [⟨.add "ns/p" "b" "ns", found⟩]
    let failed : List AnsweredCall :=
      [⟨.add "ns/p" "a" "ns", crashing "a"⟩, ⟨.add "ns/p" "a,b" "ns", crashing "b"⟩]
    let last : AnsweredCall := ⟨.add "ns/p" "a,b" "ns", found⟩
    s.EachFails p failed ∧
    (s.afterCalls p (failed ++ [last])).remembered "ns/p" = some "bridge,macvlan" ∧
    s.toldByCalls p (failed ++ [last]) = s.toldByCalls p [last] := by
  intro p found crashing s failed last
  have hfails : s.EachFails p failed :=
    ⟨⟨.crash "down", by decide +kernel⟩, ⟨.crash "down", by decide +kernel⟩, trivial⟩
  have hadds : ∀ c ∈ failed, ∃ selection ns, c.call = .add "ns/p" selection ns := by
    intro c hc
    rcases List.mem_pair.mp hc with rfl | rfl
    · exact ⟨"a", "ns", rfl⟩
    · exact ⟨"a,b", "ns", rfl⟩
  obtain ⟨-, hstore, htold⟩ :=
    failures_leave_no_trace p s "ns/p" last hadds hfails (Or.inr ⟨"a,b", "ns", rfl⟩)
  refine ⟨hfails, ?_, htold⟩
  rw [hstore]
  decide +kernel

end UsageStore

end NetAttach
