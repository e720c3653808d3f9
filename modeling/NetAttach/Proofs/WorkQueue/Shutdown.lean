/-
  What becomes of keys when the queue is shut down.

  From then on no key is handed out, so nobody starts on one.  Nothing is taken from a worker who has a key: it
  goes on to the end of its attempt, settles it and is done with the key.  A key that it would try again stays
  where it is, since nothing is added or delayed any more; the same holds of a key that became dirty before.

  Structure:
  1. `Closed` queues, and what operations do to them: none but being done with a key changes anything at all
     (`Closed.perform`);
  2. who is at work when the queue is closed moves on alone (`stage_step`).  What its moves tell of and what is
     left of its work are together what there was (`told_append_left`);
  3. each move brings a worker nearer to its end (`movesLeft_move`), if processing takes finitely many moves.
-/
import NetAttach.Proofs.WorkQueue.Emptying
import NetAttach.Proofs.WorkQueue.Exclusivity

namespace NetAttach

/-! ## Closed queues -/

namespace WorkQueue

variable {κ τ : Type} [DecidableEq κ]

/-- The queue is shutting down, and no key is delayed. -/
structure Closed (q : WorkQueue κ τ) : Prop where
  shuttingDown : q.shuttingDown = true
  waiting : q.waiting = []

omit [DecidableEq κ] in
theorem closed_shutDown (q : WorkQueue κ τ) : q.shutDown.Closed := ⟨rfl, rfl⟩

theorem Closed.done {q : WorkQueue κ τ} (h : q.Closed) (key : κ) : (q.done key).Closed := ⟨h.shuttingDown, h.waiting⟩

theorem add_of_shuttingDown {q : WorkQueue κ τ} (h : q.shuttingDown = true) (key : κ) : q.add key = q := by
  simp [add, h]

variable [Add τ] [Sub τ] [Zero τ] [LE τ] [DecidableLE τ] [LT τ] [DecidableLT τ]

omit [Sub τ] [LT τ] [DecidableLT τ] in
theorem addAfter_of_shuttingDown {q : WorkQueue κ τ} (h : q.shuttingDown = true) (now : τ) (key : κ) (delay : τ) :
    q.addAfter now key delay = q := by
  unfold addAfter
  rw [add_of_shuttingDown h key, if_pos h, ite_self]

end WorkQueue

namespace InUse

open WorkQueue (Closed)

variable {κ τ σ : Type} [DecidableEq κ] [Add τ] [Sub τ] [Zero τ] [LE τ] [DecidableLE τ] [LT τ]
  [DecidableLT τ] {s : InUse κ τ σ}

/-- On a closed queue no operation makes a key dirty, delays one or hands one out. -/
theorem perform_of_closed (h : s.place.queue.Closed) (op : Operation κ τ) :
    (s.perform op).place.queue.Closed ∧ (s.perform op).place.queue.dirty = s.place.queue.dirty ∧
    (s.perform op).held ⊆ s.held := by
  have hshut := h.shuttingDown
  cases op with
  | add key =>
    have hqueue : (s.perform (.add key)).place.queue = s.place.queue := WorkQueue.add_of_shuttingDown hshut key
    exact ⟨hqueue ▸ h, congrArg _ hqueue, List.Subset.refl _⟩
  | addAfter key delay =>
    have hqueue : (s.perform (.addAfter key delay)).place.queue = s.place.queue :=
      WorkQueue.addAfter_of_shuttingDown hshut _ key delay
    exact ⟨hqueue ▸ h, congrArg _ hqueue, List.Subset.refl _⟩
  | addRateLimited key =>
    have hqueue : (s.perform (.addRateLimited key)).place.queue = s.place.queue :=
      WorkQueue.addAfter_of_shuttingDown hshut _ key _
    exact ⟨hqueue ▸ h, congrArg _ hqueue, List.Subset.refl _⟩
  | look caller deadline =>
    have hlook : s.perform (.look caller deadline) = s := by
      simp only [perform, WorkQueue.look_of_shuttingDown hshut]
      rfl
    rw [hlook]
    exact ⟨h, rfl, List.Subset.refl _⟩
  | get caller timeout =>
    have hget : s.perform (.get caller timeout) = s := by
      simp only [perform, WorkQueue.get_of_shuttingDown hshut]
      rfl
    rw [hget]
    exact ⟨h, rfl, List.Subset.refl _⟩
  | done caller key => exact ⟨h.done key, rfl, fun p hp => List.mem_of_mem_filter hp⟩
  | shutDown => exact ⟨WorkQueue.closed_shutDown _, rfl, List.Subset.refl _⟩
  | forget key | advance d => exact ⟨h, rfl, List.Subset.refl _⟩

theorem run_of_closed (h : s.place.queue.Closed) (ops : List (Operation κ τ)) :
    (s.run ops).place.queue.Closed ∧ (s.run ops).place.queue.dirty = s.place.queue.dirty ∧
    (s.run ops).held ⊆ s.held := by
  induction ops generalizing s with
  | nil => exact ⟨h, rfl, List.Subset.refl _⟩
  | cons op rest ih =>
    obtain ⟨hclosed, hdirty, hheld⟩ := perform_of_closed h op
    obtain ⟨hclosed', hdirty', hheld'⟩ := ih hclosed
    exact ⟨hclosed', hdirty'.trans hdirty, List.Subset.trans hheld' hheld⟩

end InUse

/-! ## A worker at a closed queue -/

/-- `r.Lessens weight`: processing takes fewer moves from each point than `weight` says, whatever others do. -/
def Routine.Lessens {κ ρ σ : Type} (r : Routine κ ρ σ) (weight : ρ → Nat) : Prop :=
  ∀ point subject point' subject', r.move point subject = (.resume point', subject') → weight point' < weight point

namespace Stage

variable {κ τ ρ σ : Type} [DecidableEq κ]

/-- The key on which an attempt is under way. -/
def trying? : Stage κ τ ρ → Option κ
  | busy key _ => some key
  | _ => none

/-- The key on which the next move ends the attempt. -/
def ending? (r : Routine κ ρ σ) (subject : σ) : Stage κ τ ρ → Option κ
  | busy key point =>
    match (r.move point subject).1 with
    | .resume _ => none
    | .finish _ => some key
  | _ => none

/-- The key that the worker is done with in its next move. -/
def leaving? : Stage κ τ ρ → Option κ
  | leaving key => some key
  | _ => none

/-- How many moves a worker has to make at most before it is free. -/
def movesLeft (weight : ρ → Nat) : Stage κ τ ρ → Nat
  | free => 0
  | busy _ point => weight point + 5
  | failed _ _ => 4
  | retrying _ | surrendering _ _ => 3
  | succeeded _ | delaying _ _ | reporting _ _ => 2
  | leaving _ => 1

omit [DecidableEq κ] in
theorem eq_free_of_movesLeft {weight : ρ → Nat} {s : Stage κ τ ρ} (h : s.movesLeft weight = 0) : s = free := by
  cases s with
  | free => rfl
  | _ => exact nomatch h

variable [Add τ] [Zero τ] [LE τ] [DecidableLE τ] [LT τ] [DecidableLT τ]

/-- A move ends the attempt, or the worker goes on trying. -/
theorem ending?_move (r : Routine κ ρ σ) (s : Stage κ τ ρ) (w : Workplace κ τ σ) :
    (s.ending? r w.subject).toList ++ (s.move r w).1.trying?.toList = s.trying?.toList := by
  cases s with
  | busy key point =>
    cases hm : r.move point w.subject with
    | mk progress subject => rcases progress with point' | _ | cause <;> simp [ending?, move, trying?, hm]
  | failed key cause =>
    simp only [move]
    split <;> rfl
  | _ => rfl

/-- A worker is done with its key in a move, or goes on having it. -/
theorem leaving?_move (r : Routine κ ρ σ) (s : Stage κ τ ρ) (w : Workplace κ τ σ) :
    s.leaving?.toList ++ (s.move r w).1.key?.toList = s.key?.toList := by
  -- `key?_move` is about the moves that keep the key, which is all of them but one
  by_cases hl : ∃ key, s = leaving key
  · obtain ⟨key, rfl⟩ := hl
    rfl
  · have hstays : ∀ key, s ≠ leaving key := fun key hk => hl ⟨key, hk⟩
    have hnone : s.leaving? = none := by
      cases s with
      | leaving key => exact absurd rfl (hstays key)
      | _ => rfl
    rw [key?_move hstays, hnone]
    rfl

theorem movesLeft_move {r : Routine κ ρ σ} {weight : ρ → Nat} (hweight : r.Lessens weight) (s : Stage κ τ ρ)
    (w : Workplace κ τ σ) : (s.move r w).1.movesLeft weight ≤ s.movesLeft weight - 1 := by
  cases s with
  | busy key point =>
    cases hm : r.move point w.subject with
    | mk progress subject =>
      rcases progress with point' | _ | cause
      · have hless := hweight point w.subject point' subject hm
        simp only [move, hm, movesLeft]
        omega
      · simp only [move, hm, movesLeft]
        omega
      · simp only [move, hm, movesLeft]
        omega
  | failed key cause =>
    simp only [move]
    split <;> simp [movesLeft]
  | _ => exact le_rfl

end Stage

namespace Crew

variable {κ τ ρ σ : Type} [DecidableEq κ] [Add τ] [Sub τ] [Zero τ] [LE τ] [DecidableLE τ] [LT τ]
  [DecidableLT τ]

omit [Add τ] in
theorem look_of_shuttingDown (r : Routine κ ρ σ) {c : Crew κ τ ρ σ} (h : c.place.queue.shuttingDown = true)
    (worker : Nat) (deadline : Option τ) : c.look r worker deadline = c := by
  unfold look
  rw [WorkQueue.look_of_shuttingDown h]
  split <;> rfl

end Crew

namespace Shift

variable {κ τ ρ σ : Type} [DecidableEq κ] [Add τ] [Sub τ] [Zero τ] [LE τ] [DecidableLE τ] [LT τ]
  [DecidableLT τ] {r : Routine κ ρ σ} {s : Shift κ τ ρ σ}

/-! ## A crew at a closed queue -/

/-- What `tell` says of the moves of a worker, in order. -/
def told (tell : Stage κ τ ρ → σ → Option κ) (r : Routine κ ρ σ) (worker : Nat) :
    Shift κ τ ρ σ → List (ShiftStep κ τ) → List κ
  | _, [] => []
  | s, .move w :: rest =>
    (if w = worker then (tell (s.crew.stage worker) s.place.subject).toList else []) ++
      told tell r worker (s.step r (.move w)) rest
  | s, next :: rest => told tell r worker (s.step r next) rest

/-- The keys on which a worker has ended an attempt. -/
def endings (r : Routine κ ρ σ) : (worker : Nat) → Shift κ τ ρ σ → List (ShiftStep κ τ) → List κ :=
  told (fun stage subject => stage.ending? r subject) r

/-- The keys that a worker was done with. -/
def dones (r : Routine κ ρ σ) : (worker : Nat) → Shift κ τ ρ σ → List (ShiftStep κ τ) → List κ :=
  told (fun stage _ => stage.leaving?) r

/-- The queue stays closed, and no step but a worker's own move takes it to another stage. -/
theorem shuttingDown_step (h : s.place.queue.shuttingDown = true) (next : ShiftStep κ τ) :
    (s.step r next).place.queue.shuttingDown = true := by
  cases next with
  | add key => exact (WorkQueue.shuttingDown_add _ key).trans h
  | addAfter key delay => exact (WorkQueue.shuttingDown_addAfter _ _ key delay).trans h
  | look worker deadline =>
    show (s.crew.look r worker deadline).place.queue.shuttingDown = true
    rw [Crew.look_of_shuttingDown r h]
    exact h
  | move worker =>
    show ((s.crew.stage worker).move r s.place).2.queue.shuttingDown = true
    rw [Stage.queue_move]
    cases s.crew.stage worker with
    | delaying key delay => exact (WorkQueue.shuttingDown_addAfter _ _ key delay).trans h
    | _ => exact h
  | pass d => exact h
  | shutDown => rfl

/-- A worker is taken on by its own moves only. -/
theorem stage_step (h : s.place.queue.shuttingDown = true) (worker : Nat) (next : ShiftStep κ τ) :
    (s.step r next).crew.stage worker =
      match next with
      | .move w => if w = worker then ((s.crew.stage worker).move r s.place).1 else s.crew.stage worker
      | _ => s.crew.stage worker := by
  cases next with
  | look worker' deadline =>
    show (s.crew.look r worker' deadline).stage worker = s.crew.stage worker
    rw [Crew.look_of_shuttingDown r h]
  | move w =>
    show Function.update s.crew.stage w ((s.crew.stage w).move r s.place).1 worker = _
    by_cases hw : w = worker
    · subst hw
      simp
    · simp [hw, Ne.symm hw]
  | add key | addAfter key delay | pass d | shutDown => rfl

/-- By induction on the steps: what the moves of a worker tell of and what is left of its work are together what
there was, if this is so of each move. -/
theorem told_append_left {tell : Stage κ τ ρ → σ → Option κ} {left : Stage κ τ ρ → Option κ}
    (hmove : ∀ (stage : Stage κ τ ρ) (w : Workplace κ τ σ),
      (tell stage w.subject).toList ++ (left (stage.move r w).1).toList = (left stage).toList)
    (h : s.place.queue.shuttingDown = true) (worker : Nat) (later : List (ShiftStep κ τ)) :
    s.told tell r worker later ++ (left ((s.run r later).crew.stage worker)).toList =
      (left (s.crew.stage worker)).toList := by
  induction later generalizing s with
  | nil => rfl
  | cons next rest ih =>
    have hrest := ih (shuttingDown_step (r := r) h next)
    rw [stage_step h] at hrest
    cases next with
    | move w =>
      rw [told, List.append_assoc]
      show _ ++ (told tell r worker _ rest ++ (left ((run r _ rest).crew.stage worker)).toList) = _
      rw [hrest]
      -- a move of somebody else tells nothing of this worker and leaves its stage alone
      by_cases hw : w = worker
      · simp only [hw, if_true]
        exact hmove (s.crew.stage worker) s.place
      · simp only [hw, if_false]
        rfl
    | add key | addAfter key delay | look worker' deadline | pass d | shutDown => exact hrest

/-- A step is a move of `worker`. -/
def isMoveOf (worker : Nat) : ShiftStep κ τ → Bool
  | .move w => w = worker
  | _ => false

/-- Every move of a worker is one less that it has to make. -/
theorem movesLeft_run {weight : ρ → Nat} (hweight : r.Lessens weight) (h : s.place.queue.shuttingDown = true)
    (worker : Nat) (later : List (ShiftStep κ τ)) :
    ((s.run r later).crew.stage worker).movesLeft weight ≤
      (s.crew.stage worker).movesLeft weight - later.countP (isMoveOf worker) := by
  induction later generalizing s with
  | nil => exact le_rfl
  | cons next rest ih =>
    have hrest := ih (shuttingDown_step (r := r) h next)
    rw [stage_step h] at hrest
    rw [List.countP_cons]
    refine hrest.trans ?_
    cases next with
    | move w =>
      by_cases hw : w = worker
      · have hless := Stage.movesLeft_move hweight (s.crew.stage worker) s.place
        simp only [isMoveOf, hw, if_true, decide_true]
        omega
      · simp only [isMoveOf, hw, if_false, decide_false]
        exact le_rfl
    | add key | addAfter key delay | look worker' deadline | pass d | shutDown => exact le_rfl

/-- Nobody starts on a key. -/
theorem starts_of_shuttingDown (h : s.place.queue.shuttingDown = true) (later : List (ShiftStep κ τ)) :
    s.starts r later = [] := by
  induction later generalizing s with
  | nil => rfl
  | cons next rest ih =>
    have hnone : s.started r next = none := by
      cases next with
      | look worker deadline =>
        exact Crew.taken_eq_none (by rw [Crew.look_of_shuttingDown r h])
      | _ => rfl
    rw [starts, hnone, ih (shuttingDown_step h next)]
    rfl

theorem shuttingDown_run (h : s.place.queue.shuttingDown = true) (later : List (ShiftStep κ τ)) :
    (s.run r later).place.queue.shuttingDown = true := by
  induction later generalizing s with
  | nil => exact h
  | cons next rest ih => exact ih (shuttingDown_step h next)

theorem staffed_step (h : s.crew.Staffed) (next : ShiftStep κ τ) : (s.step r next).crew.Staffed := by
  cases next with
  | add key => exact h.of_place (h.sound.add key) (WorkQueue.processing_add _ key)
  | addAfter key delay => exact h.of_place (h.sound.addAfter _ key delay) (WorkQueue.processing_addAfter _ _ key delay)
  | look worker deadline => exact h.look r worker deadline
  | move worker => exact h.move r worker
  | pass d => exact h.of_place h.sound rfl
  | shutDown => exact h.of_place h.sound.shutDown rfl

theorem staffed_run (h : s.crew.Staffed) (steps : List (ShiftStep κ τ)) : (s.run r steps).crew.Staffed := by
  induction steps generalizing s with
  | nil => exact h
  | cons next rest ih => exact ih (staffed_step h next)

end Shift

/-! ## The result -/

namespace Shift

variable {κ τ ρ σ : Type} [DecidableEq κ] [Add τ] [Sub τ] [Zero τ] [LE τ] [DecidableLE τ] [LT τ]
  [DecidableLT τ]

/-- **A shutdown is final, and work under way is finished.**  Whatever callers do with a queue after it was shut
down, no key is handed out, none is delayed, and the dirty keys stay the same.  If workers were at it, each key
that was processing is the key of one of them.  From then on nobody starts on a key; what a worker ends and is
done with is what it had at that time, once, as soon as it has it no longer; and if processing takes finitely many
moves, it has nothing any more once it has made as many moves as were left.  The next turn of each worker is its
last one. -/
theorem shutDown_drains :
    (∀ (s : InUse κ τ σ) (ops : List (Operation κ τ)),
      let t := (s.perform .shutDown).run ops
      t.place.queue.waiting = [] ∧ t.place.queue.dirty = s.place.queue.dirty ∧ t.held ⊆ s.held ∧
      (∀ deadline, t.place.queue.look deadline t.place.now = (.answer .nothing, t.place.queue)) ∧
      ∀ timeout, t.place.take timeout = (.nothing, t.place)) ∧
    ∀ (r : Routine κ ρ σ) (base limit now : τ) (subject : σ) (steps later : List (ShiftStep κ τ)),
      let s := (new base limit now subject : Shift κ τ ρ σ).run r steps
      let closed := s.step r .shutDown
      let t := closed.run r later
      (∀ key ∈ s.place.queue.processing, ∃! worker, s.crew.Has worker key) ∧
      closed.starts r later = [] ∧
      (∀ worker, closed.endings r worker later ++ (t.crew.stage worker).trying?.toList =
        (s.crew.stage worker).trying?.toList) ∧
      (∀ worker, closed.dones r worker later ++ (t.crew.stage worker).key?.toList =
        (s.crew.stage worker).key?.toList) ∧
      (∀ weight, r.Lessens weight → ∀ worker,
        (s.crew.stage worker).movesLeft weight ≤ later.countP (isMoveOf worker) → t.crew.stage worker = .free) ∧
      ∀ (d : Dispatcher κ τ σ) timeout, d.turn timeout t.place = (.over, t.place) := by
  refine ⟨fun s ops => ?_, fun r base limit now subject steps later => ?_⟩
  · intro t
    obtain ⟨hclosed, hdirty, hheld⟩ := InUse.run_of_closed
      (s := s.perform .shutDown) (WorkQueue.closed_shutDown s.place.queue) ops
    refine ⟨hclosed.waiting, hdirty, hheld, fun deadline => ?_, fun timeout => ?_⟩
    · exact WorkQueue.look_of_shuttingDown hclosed.shuttingDown deadline _
    · exact Workplace.take_of_shuttingDown hclosed.shuttingDown timeout
  · intro s closed t
    have hstaffed : s.crew.Staffed := staffed_run (Crew.staffed_new rfl) steps
    have hshut : closed.place.queue.shuttingDown = true := rfl
    refine ⟨fun key hkey => ?_, starts_of_shuttingDown hshut later,
      fun worker => told_append_left (Stage.ending?_move r) hshut worker later,
      fun worker => told_append_left (Stage.leaving?_move r) hshut worker later,
      fun weight hweight worker hmoves => ?_, fun d timeout => ?_⟩
    · -- the invariant of crews: the keys that are processing are those that workers have, each has one
      obtain ⟨worker, hworker⟩ := (hstaffed.heldBy.mem_processing key).mp hkey
      exact ⟨worker, hworker, fun other hother => hstaffed.heldBy.unique other worker key hother hworker⟩
    · have hleft : (t.crew.stage worker).movesLeft weight ≤
          (s.crew.stage worker).movesLeft weight - later.countP (isMoveOf worker) :=
        movesLeft_run hweight hshut worker later
      have hnone : (t.crew.stage worker).movesLeft weight = 0 := by omega
      exact Stage.eq_free_of_movesLeft hnone
    · exact d.turn_of_shuttingDown (shuttingDown_run hshut later) timeout

/-- When the queue is shut down, one worker has failed on key 1 and another one is about to try key 2; key 1 is
added once more, and a third worker looks for it in vain. -/
theorem shutDown_drains_two_workers :
    let r : Routine Nat Unit (List (Option Failure)) :=
      ⟨fun _ => (), fun _ outcomes => (.finish outcomes.head?.join, outcomes.tail), 3, fun _ rest => rest⟩
    let steps : List (ShiftStep Nat Nat) := [.add 1, .add 2, .look 0 none, .look 1 none, .move 0]
    let later : List (ShiftStep Nat Nat) :=
      [.add 1, .look 2 none, .move 1, .move 0, .move 0, .move 1, .move 0, .move 0, .move 1, .move 1, .move 1]
    let s := (new 1 10 0 [some (.crash "first"), none] : Shift Nat Nat Unit (List (Option Failure))).run r steps
    let closed := s.step r .shutDown
    let t := closed.run r later
    r.Lessens (fun _ => 0) ∧ s.place.queue.processing = [2, 1] ∧ closed.starts r later = [] ∧
    closed.dones r 0 later = [1] ∧ t.crew.stage 0 = .free ∧ closed.dones r 1 later = [2] ∧ t.crew.stage 1 = .free := by
  intro r steps later s closed t
  have hlessens : r.Lessens fun _ => 0 := fun _ _ _ _ h => by cases h
  have hprocessing : s.place.queue.processing = [2, 1] := by decide +kernel
  have hkey₀ : (s.crew.stage 0).key? = some 1 := by decide +kernel
  have hkey₁ : (s.crew.stage 1).key? = some 2 := by decide +kernel
  have hmoves₀ : (s.crew.stage 0).movesLeft (fun _ => 0) ≤ later.countP (isMoveOf 0) := by decide +kernel
  have hmoves₁ : (s.crew.stage 1).movesLeft (fun _ => 0) ≤ later.countP (isMoveOf 1) := by decide +kernel
  -- from here on it does not matter any more what the steps are
  clear_value steps later
  obtain ⟨-, hstarts, -, hdones, hfree, -⟩ :=
    (shutDown_drains (κ := Nat) (τ := Nat) (ρ := Unit) (σ := List (Option Failure))).2 r 1 10 0
      [some (.crash "first"), none] steps later
  have hfree₀ : t.crew.stage 0 = .free := hfree _ hlessens 0 hmoves₀
  have hfree₁ : t.crew.stage 1 = .free := hfree _ hlessens 1 hmoves₁
  have hdones₀ : closed.dones r 0 later ++ (t.crew.stage 0).key?.toList = (s.crew.stage 0).key?.toList := hdones 0
  have hdones₁ : closed.dones r 1 later ++ (t.crew.stage 1).key?.toList = (s.crew.stage 1).key?.toList := hdones 1
  rw [hfree₀, hkey₀] at hdones₀
  rw [hfree₁, hkey₁] at hdones₁
  exact ⟨hlessens, hprocessing, hstarts, (List.append_nil _).symm.trans hdones₀, hfree₀,
    (List.append_nil _).symm.trans hdones₁, hfree₁⟩

end Shift

end NetAttach
