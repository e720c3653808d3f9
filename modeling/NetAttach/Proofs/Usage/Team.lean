/-
  Several workers at one store.

  A worker makes calls of the tracker one after another.  Others do so at the same time, and the store is under
  a lock, so what happens is a sequence of steps, in each of which one worker does the next operation of its
  task.  In between the cluster may change, so that a step comes with what the cluster answers in it.

  The calls of a worker are one task (`UsageCall.tasks`): a call that fails has done part of it, and the next
  call is made all the same.  A worker who is not interrupted leaves behind what the calls leave behind
  (`store_run_tasks`).  Nobody waits for another: at any time all workers can be brought to an end
  (`exists_run_isOver`).
-/
import NetAttach.Proofs.Usage.Call

namespace NetAttach

/-! ## The calls of one worker -/

namespace UsageTask

variable {α β : Type}

/-- One task, and then another, also if the first one fails. -/
def followedBy : UsageTask α → UsageTask β → UsageTask β
  | done _, after | fail _, after => after
  | remembered key next, after => remembered key fun answer => followedBy (next answer) after
  | forget key next, after => forget key fun answer => followedBy (next answer) after
  | remember key combination next, after => remember key combination (followedBy next after)
  | adjust label delta next, after => adjust label delta (followedBy next after)
  | request name ns next, after => request name ns fun answer => followedBy (next answer) after

theorem store_run_followedBy (p : Publication) (lookup : Text → Text → Lookup) (t : UsageTask α)
    (after : UsageTask β) (s : UsageStore) :
    ((t.followedBy after).run p lookup s).store =
      (after.run p lookup (t.run p lookup s).store).store := by
  induction t generalizing s with
  | done a => rfl
  | fail e => rfl
  | remembered key next ih => exact ih _ s
  | forget key next ih => exact ih _ (s.forget key)
  | remember key combination next ih => exact ih (s.remember key combination)
  | adjust label delta next ih => exact ih (s.adjust label delta)
  | request name ns next ih => exact ih (lookup name ns) s

theorem step_of_isOver {t : UsageTask α} (h : t.isOver) (p : Publication)
    (lookup : Text → Text → Lookup) (s : UsageStore) : t.step p lookup s = (t, s, []) := by
  cases t with
  | done a => rfl
  | fail e => rfl
  | _ => exact nomatch h

end UsageTask

/-- All calls of a worker, one after another. -/
def UsageCall.tasks [Nesting] (p : Publication) (calls : List UsageCall) : UsageTask Unit :=
  calls.foldr (fun call rest => (call.task p).followedBy rest) (.done ())

theorem UsageCall.store_run_tasks [Nesting] (p : Publication) (lookup : Text → Text → Lookup)
    (calls : List UsageCall) (s : UsageStore) :
    ((UsageCall.tasks p calls).run p lookup s).store =
      s.afterCalls p (calls.map fun call => ⟨call, lookup⟩) := by
  induction calls generalizing s with
  | nil => rfl
  | cons call rest ih =>
    show (((call.task p).followedBy (UsageCall.tasks p rest)).run p lookup s).store = _
    rw [UsageTask.store_run_followedBy, ih]
    rfl

/-! ## The steps of all workers -/

/-- A store, what has been seen from outside, and what each worker has still to do. -/
structure UsageTeam (ι : Type) where
  store : UsageStore
  events : List UsageEvent
  task : ι → UsageTask Unit

namespace UsageTeam

variable {ι : Type} [DecidableEq ι] (p : Publication)

/-- The workers come to a store, each with calls to make. -/
def start [Nesting] (s : UsageStore) (calls : ι → List UsageCall) : UsageTeam ι :=
  ⟨s, [], fun worker => UsageCall.tasks p (calls worker)⟩

/-- One worker does the next operation of its task. -/
def step (lookup : Text → Text → Lookup) (worker : ι) (t : UsageTeam ι) : UsageTeam ι :=
  let (task, store, events) := (t.task worker).step p lookup t.store
  ⟨store, t.events ++ events, Function.update t.task worker task⟩

/-- The workers do what they do in the given order, with what the cluster answers each time. -/
def run (t : UsageTeam ι) (moves : List (ι × (Text → Text → Lookup))) : UsageTeam ι :=
  moves.foldl (fun t m => t.step p m.2 m.1) t

theorem run_append (t : UsageTeam ι) (moves more : List (ι × (Text → Text → Lookup))) :
    t.run p (moves ++ more) = (t.run p moves).run p more :=
  List.foldl_append

/-- What every step keeps is kept by all of them. -/
theorem run_induct {motive : UsageTeam ι → Prop}
    (hstep : ∀ t lookup worker, motive t → motive (t.step p lookup worker)) {t : UsageTeam ι}
    (h : motive t) (moves : List (ι × (Text → Text → Lookup))) : motive (t.run p moves) := by
  induction moves generalizing t with
  | nil => exact h
  | cons m rest ih => exact ih (hstep t m.2 m.1 h)

/-! ## Workers come to an end -/

variable (lookup : Text → Text → Lookup)

theorem task_step_self (t : UsageTeam ι) (worker : ι) :
    (t.step p lookup worker).task worker = ((t.task worker).step p lookup t.store).1 :=
  Function.update_self ..

theorem task_step_of_ne (t : UsageTeam ι) {worker other : ι} (h : other ≠ worker) :
    (t.step p lookup worker).task other = t.task other :=
  Function.update_of_ne h ..

/-- By so many operations the worker alone comes to an end, and the others have the same to do as before. -/
def Finishes (t : UsageTeam ι) (worker : ι) (operations : Nat) : Prop :=
  ((t.run p (List.replicate operations (worker, lookup))).task worker).isOver ∧
    ∀ other, other ≠ worker →
      (t.run p (List.replicate operations (worker, lookup))).task other = t.task other

/-- The next operation is one of them. -/
theorem exists_finishes_of_step {t : UsageTeam ι} {worker : ι} {task : UsageTask Unit}
    (htask : t.task worker = task)
    (h : ∀ u : UsageTeam ι, u.task worker = (task.step p lookup t.store).1 →
      ∃ operations, Finishes p lookup u worker operations) :
    ∃ operations, Finishes p lookup t worker operations := by
  have hself : (t.step p lookup worker).task worker = (task.step p lookup t.store).1 := by
    rw [task_step_self, htask]
  obtain ⟨n, hover, hothers⟩ := h (t.step p lookup worker) hself
  refine ⟨n + 1, hover, fun other hother => ?_⟩
  exact (hothers other hother).trans (task_step_of_ne p lookup t hother)

/-- A worker who is left alone comes to an end, by induction on what it has to do. -/
theorem exists_finishes (t : UsageTeam ι) (worker : ι) :
    ∃ operations, Finishes p lookup t worker operations := by
  generalize htask : t.task worker = task
  induction task generalizing t with
  | done a => exact ⟨0, htask ▸ rfl, fun _ _ => rfl⟩
  | fail e => exact ⟨0, htask ▸ rfl, fun _ _ => rfl⟩
  | remembered key next ih => exact exists_finishes_of_step p lookup htask (ih _)
  | forget key next ih => exact exists_finishes_of_step p lookup htask (ih _)
  | remember key combination next ih => exact exists_finishes_of_step p lookup htask ih
  | adjust label delta next ih => exact exists_finishes_of_step p lookup htask ih
  | request name ns next ih => exact exists_finishes_of_step p lookup htask (ih _)

/-- Any workers can come to an end, one after another. -/
theorem exists_run_isOver (t : UsageTeam ι) (workers : List ι) :
    ∃ schedule : List ι, ∀ worker ∈ workers,
      ((t.run p (schedule.map fun worker => (worker, lookup))).task worker).isOver := by
  induction workers with
  | nil => exact ⟨[], fun _ h => nomatch h⟩
  | cons first rest ih =>
    obtain ⟨schedule, hrest⟩ := ih
    obtain ⟨n, hover, hothers⟩ :=
      exists_finishes p lookup (t.run p (schedule.map fun worker => (worker, lookup))) first
    refine ⟨schedule ++ List.replicate n first, fun worker hworker => ?_⟩
    rw [List.map_append, List.map_replicate, run_append]
    by_cases hfirst : worker = first
    · rw [hfirst]
      exact hover
    · rw [hothers worker hfirst]
      exact hrest worker ((List.mem_cons.mp hworker).resolve_left hfirst)

end UsageTeam

end NetAttach
