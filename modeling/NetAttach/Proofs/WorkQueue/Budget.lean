/-
  How often keys are tried in all.

  A key that fails is tried again, a success clears its record, and a retry may still be delayed when the key succeeds
  on behalf of somebody else; so the count of failures does not tell how often a key will be tried.  What does is the
  count together with the number of times that the queue has yet to hand the key out.

  Structure:
  1. `outstanding` is that number.  Adding and delaying a key raises it by one at most, handing the key out lowers it,
     and nothing else raises it;
  2. `triesLeft` is how often a key may still be tried if nobody adds it, by where the worker stands who has the key.
     A move does not raise it (`triesLeft_move`), starting on the key lowers it (`triesLeft_start`), and an addition
     raises it by the ceiling at most (`triesLeft_le_add`);
  3. `Budgeted`: the starts of a key and its tries left are within the ceiling for each of its additions, at every point
     of every shift (`budgeted_run`).
-/
import NetAttach.Proofs.WorkQueue.Journal
import NetAttach.Proofs.WorkQueue.Retries

namespace NetAttach

theorem count_singleton_of_ne {κ : Type} [DecidableEq κ] {key k : κ} (h : k ≠ key) : [key].count k = 0 :=
  List.count_eq_zero.mpr fun hk => h (List.mem_singleton.mp hk)

/-! ## How often a key is still to be handed out -/

namespace WorkQueue

variable {κ τ : Type} [DecidableEq κ]

/-- How often a key is to be handed out at most, if nobody adds it: once if it is dirty, and once for each time that it
is delayed. -/
def outstanding (q : WorkQueue κ τ) (key : κ) : Nat := q.dirty.count key + q.waiting.countP fun e => e.key = key

theorem outstanding_add_le (q : WorkQueue κ τ) (key k : κ) :
    (q.add key).outstanding k ≤ q.outstanding k + [key].count k := by
  have hdirty := count_dirty_add_le q key k
  unfold outstanding
  rw [waiting_add]
  omega

section Delays

variable [LE τ] [DecidableLE τ]

theorem outstanding_addAfter_le [Add τ] [Zero τ] (q : WorkQueue κ τ) (now : τ) (key : κ) (delay : τ) (k : κ) :
    (q.addAfter now key delay).outstanding k ≤ q.outstanding k + [key].count k := by
  unfold addAfter
  split
  · exact outstanding_add_le q key k
  · split
    · exact Nat.le_add_right _ _
    · unfold outstanding
      rw [(insertDelayed_perm _ q.waiting).countP_eq, List.countP_cons, List.count_singleton]
      simp only [beq_iff_eq, decide_eq_true_eq]
      omega

/-- A delayed key whose time has come is dirty and not delayed any more; it may have been dirty before. -/
theorem outstanding_promoteFrom_le (now : τ) (k : κ) : ∀ (waiting : List (Delayed κ τ)) (q : WorkQueue κ τ),
    (promoteFrom now waiting q).outstanding k ≤ q.dirty.count k + waiting.countP fun e => e.key = k
  | [], _ => le_rfl
  | e :: rest, q => by
    unfold promoteFrom
    split
    · have hrest := outstanding_promoteFrom_le now k rest (q.add e.key)
      have hdirty := count_dirty_add_le q e.key k
      rw [List.count_singleton] at hdirty
      rw [List.countP_cons]
      simp only [beq_iff_eq, decide_eq_true_eq] at hdirty ⊢
      omega
    · exact le_rfl

theorem outstanding_promote_le (q : WorkQueue κ τ) (now : τ) (k : κ) :
    (q.promote now).outstanding k ≤ q.outstanding k :=
  outstanding_promoteFrom_le now k q.waiting q

end Delays

/-- A key that is handed out is outstanding once less. -/
theorem Sound.outstanding_handOut {q q' : WorkQueue κ τ} {key : κ} (h : Sound q) (ho : q.handOut = some (key, q'))
    (k : κ) : q'.outstanding k + [key].count k = q.outstanding k := by
  obtain ⟨hready, hdirty, -, hwaiting, -⟩ := handOut_eq_some ho
  have hmem : key ∈ q.dirty := ((h.mem_ready key).mp (hready ▸ List.mem_cons_self)).1
  have hcount : q.dirty.count k = (q.dirty.erase key).count k + [key].count k := by
    rw [(List.perm_cons_erase hmem).count_eq, ← List.singleton_append, List.count_append, Nat.add_comm]
  unfold outstanding
  rw [hdirty, hwaiting, hcount]
  omega

theorem outstanding_shutDown_le (q : WorkQueue κ τ) (k : κ) : q.shutDown.outstanding k ≤ q.outstanding k :=
  Nat.add_le_add_left (Nat.zero_le _) _

end WorkQueue

/-! ## How often a key may still be tried -/

namespace Stage

variable {κ τ ρ σ : Type} [DecidableEq κ]

/-- How often a key may still be tried, with `most` tries for each time that it is handed out: those that are
outstanding, and those that are left of the attempt of the worker who has the key, less the failures that are held
against it.  A success and a drop use up what was left of an attempt. -/
def triesLeft (most outstanding failed : Nat) : Option (Stage κ τ ρ) → Nat
  | none | some .free | some (.leaving _) => outstanding * most - failed
  | some (.busy _ _) | some (.failed _ _) | some (.retrying _) => (outstanding + 1) * most - (failed + 1)
  | some (.delaying _ _) => (outstanding + 1) * most - failed
  | some (.succeeded _) | some (.surrendering _ _) | some (.reporting _ _) => outstanding * most

variable {most out out' failed : Nat}

omit [DecidableEq κ] in
/-- Each time that a key is outstanding is worth `most` tries. -/
theorem triesLeft_le_add {extra : Nat} (h : out' ≤ out + extra) (holder : Option (Stage κ τ ρ)) :
    triesLeft most out' failed holder ≤ triesLeft most out failed holder + most * extra := by
  have hworth : out' * most ≤ out * most + most * extra :=
    (Nat.mul_le_mul_right most h).trans_eq (by rw [Nat.add_mul, Nat.mul_comm extra])
  match holder with
  | none | some .free | some (.leaving _) | some (.busy _ _) | some (.failed _ _) | some (.retrying _)
  | some (.delaying _ _) | some (.succeeded _) | some (.surrendering _ _) | some (.reporting _ _) =>
    simp only [triesLeft, Nat.add_mul, Nat.one_mul]
    omega

omit [DecidableEq κ] in
theorem triesLeft_mono (h : out' ≤ out) (holder : Option (Stage κ τ ρ)) :
    triesLeft most out' failed holder ≤ triesLeft most out failed holder :=
  triesLeft_le_add (show out' ≤ out + 0 from h) holder

omit [DecidableEq κ] in
/-- Nobody has more tries left of a key than a worker who has it. -/
theorem triesLeft_none_le (hmost : 1 ≤ most) (holder : Option (Stage κ τ ρ)) :
    triesLeft most out failed (none : Option (Stage κ τ ρ)) ≤ triesLeft most out failed holder := by
  match holder with
  | none | some .free | some (.leaving _) | some (.busy _ _) | some (.failed _ _) | some (.retrying _)
  | some (.delaying _ _) | some (.succeeded _) | some (.surrendering _ _) | some (.reporting _ _) =>
    simp only [triesLeft, Nat.add_mul, Nat.one_mul]
    omega

omit [DecidableEq κ] in
/-- Starting on a key takes one of its tries. -/
theorem triesLeft_start (hfailed : failed < most) (key : κ) (point : ρ) :
    triesLeft most out failed (some (.busy key point : Stage κ τ ρ)) + 1 ≤
      triesLeft most (out + 1) failed (none : Option (Stage κ τ ρ)) := by
  simp only [triesLeft, Nat.add_mul, Nat.one_mul]
  omega

variable [Add τ] [Zero τ] [LE τ] [DecidableLE τ] [LT τ] [DecidableLT τ]

/-- Only a worker who delays its key makes the queue hand it out once more. -/
theorem outstanding_move_le (r : Routine κ ρ σ) (s : Stage κ τ ρ) (w : Workplace κ τ σ) (k : κ) :
    (s.move r w).2.queue.outstanding k ≤ w.queue.outstanding k +
      match s with
      | delaying key _ => [key].count k
      | _ => 0 := by
  rw [queue_move]
  cases s with
  | delaying key delay => exact WorkQueue.outstanding_addAfter_le w.queue w.now key delay k
  | _ => exact le_rfl

theorem outstanding_move_of_ne (r : Routine κ ρ σ) {s : Stage κ τ ρ} {key k : κ} (hs : s.key? = some key)
    (hk : k ≠ key) (w : Workplace κ τ σ) : (s.move r w).2.queue.outstanding k ≤ w.queue.outstanding k := by
  have hout := outstanding_move_le r s w k
  cases s with
  | delaying key' delay =>
    obtain rfl : key' = key := Option.some.inj hs
    simp only [count_singleton_of_ne hk] at hout
    exact hout
  | _ => exact hout

/-- No move raises the number of tries that are left of the worker's key. -/
theorem triesLeft_move (r : Routine κ ρ σ) {s : Stage κ τ ρ} {key : κ} (hs : s.key? = some key)
    (w : Workplace κ τ σ) (hfailed : w.backoff.count key < most) :
    triesLeft most ((s.move r w).2.queue.outstanding key) ((s.move r w).2.backoff.count key)
      (s.move r w).1.holding ≤
    triesLeft most (w.queue.outstanding key) (w.backoff.count key) (some s) := by
  have hout := outstanding_move_le r s w key
  rw [backoff_move]
  cases s with
  | free => exact nomatch hs
  | busy k point =>
    refine (triesLeft_mono hout _).trans ?_
    simp only [move]
    -- an attempt that goes on or fails leaves as much as before, one that succeeds at most as much
    split <;> simp only [holding, triesLeft, Nat.add_mul, Nat.one_mul] <;> omega
  | failed k cause =>
    refine (triesLeft_mono hout _).trans ?_
    simp only [move]
    split <;> simp only [holding, triesLeft, Nat.add_mul, Nat.one_mul] <;> omega
  | retrying k =>
    obtain rfl : k = key := Option.some.inj hs
    refine (triesLeft_mono hout _).trans ?_
    rw [Backoff.count_fail, if_pos rfl]
    exact le_rfl
  | delaying k delay =>
    obtain rfl : k = key := Option.some.inj hs
    have hmore : _ ≤ w.queue.outstanding k + [k].count k := hout
    rw [List.count_singleton_self] at hmore
    exact Nat.sub_le_sub_right (Nat.mul_le_mul_right most hmore) _
  | succeeded k => exact (Nat.sub_le _ _).trans (Nat.mul_le_mul_right most hout)
  | surrendering k cause => exact Nat.mul_le_mul_right most hout
  | reporting k cause => exact (Nat.sub_le _ _).trans (Nat.mul_le_mul_right most hout)
  | leaving k => exact Nat.sub_le_sub_right (Nat.mul_le_mul_right most hout) _

end Stage

/-- How often a key that nobody has may still be tried. -/
def Workplace.triesLeft {κ τ σ : Type} [DecidableEq κ] (most : Nat) (w : Workplace κ τ σ) (key : κ) : Nat :=
  w.queue.outstanding key * most - w.backoff.count key

/-! ## A shift and its budget -/

/-- The key that somebody adds, at once or for later. -/
def ShiftStep.added? {κ τ : Type} : ShiftStep κ τ → Option κ
  | add key | addAfter key _ => some key
  | _ => none

namespace Crew

variable {κ τ ρ σ : Type} [DecidableEq κ] [Sub τ] [Zero τ] [LE τ] [DecidableLE τ] [LT τ]
  [DecidableLT τ]

/-- The key that a worker has after looking and had not before. -/
def taken (r : Routine κ ρ σ) (worker : Nat) (deadline : Option τ) (c : Crew κ τ ρ σ) : Option κ :=
  match c.stage worker with
  | .free => ((c.look r worker deadline).stage worker).key?
  | _ => none

theorem taken_eq_none {r : Routine κ ρ σ} {worker : Nat} {deadline : Option τ} {c : Crew κ τ ρ σ}
    (h : (c.look r worker deadline).stage = c.stage) : c.taken r worker deadline = none := by
  unfold taken
  split
  · rename_i hfree
    rw [h, hfree]
    rfl
  · rfl

/-- A worker who looks takes nothing, and due keys are promoted or not, or it takes the first ready key. -/
theorem taken_cases (r : Routine κ ρ σ) (worker : Nat) (deadline : Option τ) (c : Crew κ τ ρ σ) :
    (c.taken r worker deadline = none ∧ ∃ queue,
      (queue = c.place.queue ∨ queue = c.place.queue.promote c.place.now) ∧
      c.look r worker deadline = { c with place := { c.place with queue } }) ∨
    (c.stage worker = .free ∧ ∃ key queue, c.taken r worker deadline = some key ∧
      (c.place.queue.promote c.place.now).handOut = some (key, queue) ∧
      c.look r worker deadline = c.receive r worker (some key) queue) := by
  rcases look_cases r worker deadline c with hl | ⟨hfree, key, queue, ho, hl⟩ | hl
  · exact Or.inl ⟨taken_eq_none (by rw [hl]), c.place.queue, Or.inl rfl, hl⟩
  · refine Or.inr ⟨hfree, key, queue, ?_, ho, hl⟩
    unfold taken
    rw [hfree, hl]
    simp [receive, Stage.key?]
  · exact Or.inl ⟨taken_eq_none (by rw [hl]), _, Or.inr rfl, hl⟩

end Crew

namespace Shift

open Stage (triesLeft)

variable {κ τ ρ σ : Type}

/-- The keys that somebody adds, in order. -/
def additions (steps : List (ShiftStep κ τ)) : List κ := steps.filterMap ShiftStep.added?

theorem additions_cons (next : ShiftStep κ τ) (rest : List (ShiftStep κ τ)) :
    additions (next :: rest) = next.added?.toList ++ additions rest := by
  cases h : next.added? <;> simp [additions, h]

variable [DecidableEq κ]

/-- Of every key, the starts so far and the tries that are left are within the ceiling for each addition. -/
structure Budgeted (ceiling : Int) (s : Shift κ τ ρ σ) (tried added : List κ) : Prop where
  balanced : Balanced ceiling s
  covered : s.crew.Each fun key holder =>
    tried.count key + triesLeft ceiling.toNat (s.place.queue.outstanding key) (s.count key) holder ≤
      ceiling.toNat * added.count key

theorem budgeted_new (ceiling : Int) (base limit now : τ) (subject : σ) :
    Budgeted ceiling (new base limit now subject : Shift κ τ ρ σ) [] [] := by
  refine ⟨balanced_new ceiling base limit now subject, fun key => ⟨none, fun worker => ?_, ?_⟩⟩
  · simp [new, Crew.new, Crew.Has, Stage.key?]
  · simp [triesLeft, new, Crew.new, place, Workplace.new, WorkQueue.outstanding, WorkQueue.empty]

variable {ceiling : Int} {s : Shift κ τ ρ σ} {tried added : List κ}

theorem Budgeted.count_lt (h : Budgeted ceiling s tried added) (hc : 1 ≤ ceiling) (key : κ) :
    s.count key < ceiling.toNat := by
  obtain ⟨_, -, hstanding⟩ := h.balanced.standing key
  exact Int.lt_toNat.mpr (hstanding.count_lt hc)

/-- What has been tried of a key and what is left of it at the place are within the ceiling for each addition. -/
theorem Budgeted.triesLeft_le (h : Budgeted ceiling s tried added) (hc : 1 ≤ ceiling) (key : κ) :
    tried.count key + s.place.triesLeft ceiling.toNat key ≤ ceiling.toNat * added.count key := by
  obtain ⟨holder, -, hcovered⟩ := h.covered key
  have hleft : s.place.triesLeft ceiling.toNat key ≤ _ := Stage.triesLeft_none_le (Int.lt_toNat.mpr hc) holder
  exact (Nat.add_le_add_left hleft _).trans hcovered

/-- What only concerns the queue is paid for by what is added. -/
theorem Budgeted.of_queue (h : Budgeted ceiling s tried added) (place : Workplace κ τ σ)
    (hb : place.backoff = s.place.backoff) (hs : place.queue.Sound)
    (hp : place.queue.processing = s.place.queue.processing) {more : List κ}
    (hout : ∀ key, place.queue.outstanding key ≤ s.place.queue.outstanding key + more.count key) :
    Budgeted ceiling (s.moveTo place) tried (added ++ more) := by
  refine ⟨h.balanced.of_queue place hb hs hp, (h.covered.of_place place).mono fun key holder hcovered => ?_⟩
  have hcount : (s.moveTo place).count key = s.count key := by
    show place.backoff.count key = s.place.backoff.count key
    rw [hb]
  have hworth : triesLeft ceiling.toNat ((s.moveTo place).place.queue.outstanding key) (s.count key) holder ≤ _ :=
    Stage.triesLeft_le_add (hout key) holder
  rw [hcount, List.count_append, Nat.mul_add]
  omega

/-- The same for what adds nothing. -/
theorem Budgeted.of_queue_le (h : Budgeted ceiling s tried added) (place : Workplace κ τ σ)
    (hb : place.backoff = s.place.backoff) (hs : place.queue.Sound)
    (hp : place.queue.processing = s.place.queue.processing)
    (hout : ∀ key, place.queue.outstanding key ≤ s.place.queue.outstanding key) :
    Budgeted ceiling (s.moveTo place) tried added := by
  rw [← List.append_nil added]
  exact h.of_queue place hb hs hp hout

variable [Add τ] [Sub τ] [Zero τ] [LE τ] [DecidableLE τ] [LT τ] [DecidableLT τ]

/-- The key that a worker starts on. -/
def started (r : Routine κ ρ σ) (s : Shift κ τ ρ σ) : ShiftStep κ τ → Option κ
  | .look worker deadline => s.crew.taken r worker deadline
  | _ => none

/-- The keys that workers start on, in order. -/
def starts (r : Routine κ ρ σ) : Shift κ τ ρ σ → List (ShiftStep κ τ) → List κ
  | _, [] => []
  | s, next :: rest => (s.started r next).toList ++ starts r (s.step r next) rest

theorem Budgeted.look (h : Budgeted ceiling s tried added) (hc : 1 ≤ ceiling) (r : Routine κ ρ σ) (worker : Nat)
    (deadline : Option τ) :
    Budgeted ceiling (s.step r (.look worker deadline)) (tried ++ (s.started r (.look worker deadline)).toList)
      added := by
  have hbalanced : Balanced ceiling { s with crew := s.crew.look r worker deadline } :=
    h.balanced.look r worker deadline
  have hsound := h.balanced.staffed.sound
  show Budgeted ceiling { s with crew := s.crew.look r worker deadline }
    (tried ++ (s.crew.taken r worker deadline).toList) added
  rcases Crew.taken_cases r worker deadline s.crew with
    ⟨htaken, queue, hqueue, hl⟩ | ⟨hfree, key, queue, htaken, ho, hl⟩
  · rw [htaken, hl, Option.toList_none, List.append_nil]
    rcases hqueue with rfl | rfl
    · exact h
    · exact h.of_queue_le _ rfl (hsound.promote _) (WorkQueue.processing_promote _ _)
        (WorkQueue.outstanding_promote_le _ _)
  · rw [hl] at hbalanced
    rw [htaken, hl]
    have hg : s.place.queue.Given (some key) queue :=
      ⟨_, hsound.promote _, WorkQueue.processing_promote _ _, ho⟩
    have hnone : ∀ i, ¬s.crew.Has i key := (hg.heldBy h.balanced.staffed.heldBy worker).1 key rfl
    have hout : ∀ k, queue.outstanding k + [key].count k ≤ s.place.queue.outstanding k := fun k =>
      ((hsound.promote _).outstanding_handOut ho k).trans_le (WorkQueue.outstanding_promote_le _ _ k)
    refine ⟨hbalanced, h.covered.receive r hfree hnone queue (fun hcovered => ?_) fun k hk holder hcovered => ?_⟩
    · -- the start is paid for by the handing out
      have hless := hout key
      rw [List.count_singleton_self] at hless
      have hpaid := (Stage.triesLeft_start (h.count_lt hc key) key (r.start key)).trans
        (Stage.triesLeft_mono hless (none : Option (Stage κ τ ρ)))
      rw [List.count_append, Option.toList_some, List.count_singleton_self]
      show _ + triesLeft ceiling.toNat (queue.outstanding key) (s.count key) _ ≤ _
      omega
    · have hfewer : triesLeft ceiling.toNat (queue.outstanding k) (s.count k) holder ≤ _ :=
        Stage.triesLeft_mono ((Nat.le_add_right _ _).trans (hout k)) holder
      rw [List.count_append, Option.toList_some, count_singleton_of_ne hk]
      exact (Nat.add_le_add_left hfewer _).trans hcovered

theorem Budgeted.move {r : Routine κ ρ σ} (hr : 1 ≤ r.maxRetries) (h : Budgeted r.maxRetries s tried added)
    (worker : Nat) : Budgeted r.maxRetries (s.step r (.move worker)) tried added := by
  cases hkey : (s.crew.stage worker).key? with
  | none =>
    rw [step_move_of_free r hkey]
    exact h
  | some key =>
    refine ⟨h.balanced.move hr worker, h.covered.move h.balanced.staffed r hkey (fun hcovered => ?_) ?_⟩
    · exact (Nat.add_le_add_left (Stage.triesLeft_move r hkey s.place (h.count_lt hr key)) _).trans hcovered
    · intro k hk holder hcovered
      have hcount : (s.step r (.move worker)).count k = s.count k := Stage.count_move_of_ne r hkey hk s.place
      have hfewer : triesLeft r.maxRetries.toNat ((s.step r (.move worker)).place.queue.outstanding k) (s.count k)
          holder ≤ _ :=
        Stage.triesLeft_mono (Stage.outstanding_move_of_ne r hkey hk s.place) holder
      rw [hcount]
      exact (Nat.add_le_add_left hfewer _).trans hcovered

/-- Every step stays within the budget. -/
theorem Budgeted.step {r : Routine κ ρ σ} (hr : 1 ≤ r.maxRetries) (h : Budgeted r.maxRetries s tried added)
    (next : ShiftStep κ τ) :
    Budgeted r.maxRetries (s.step r next) (tried ++ (s.started r next).toList) (added ++ next.added?.toList) := by
  have hsound := h.balanced.staffed.sound
  cases next with
  | look worker deadline =>
    show Budgeted _ _ _ (added ++ [])
    rw [List.append_nil]
    exact h.look hr r worker deadline
  | add key =>
    show Budgeted _ _ (tried ++ []) (added ++ [key])
    rw [List.append_nil]
    exact h.of_queue (s.place.add key) rfl (hsound.add key) (WorkQueue.processing_add _ key)
      (WorkQueue.outstanding_add_le _ key)
  | addAfter key delay =>
    show Budgeted _ _ (tried ++ []) (added ++ [key])
    rw [List.append_nil]
    exact h.of_queue (s.place.addAfter key delay) rfl (hsound.addAfter _ key delay)
      (WorkQueue.processing_addAfter _ _ key delay) (WorkQueue.outstanding_addAfter_le _ _ key delay)
  | move worker =>
    show Budgeted _ _ (tried ++ []) (added ++ [])
    rw [List.append_nil, List.append_nil]
    exact h.move hr worker
  | pass d =>
    show Budgeted _ _ (tried ++ []) (added ++ [])
    rw [List.append_nil, List.append_nil]
    exact h.of_queue_le _ rfl hsound rfl fun key => le_rfl
  | shutDown =>
    show Budgeted _ _ (tried ++ []) (added ++ [])
    rw [List.append_nil, List.append_nil]
    exact h.of_queue_le _ rfl hsound.shutDown rfl (WorkQueue.outstanding_shutDown_le _)

/-- Every run stays within the budget, by induction on its steps. -/
theorem Budgeted.run {r : Routine κ ρ σ} (hr : 1 ≤ r.maxRetries) (h : Budgeted r.maxRetries s tried added)
    (steps : List (ShiftStep κ τ)) :
    Budgeted r.maxRetries (s.run r steps) (tried ++ s.starts r steps) (added ++ additions steps) := by
  induction steps generalizing s tried added with
  | nil =>
    show Budgeted _ s (tried ++ []) (added ++ [])
    rw [List.append_nil, List.append_nil]
    exact h
  | cons next rest ih =>
    rw [additions_cons, starts, ← List.append_assoc, ← List.append_assoc]
    exact ih (h.step hr next)

theorem budgeted_run {r : Routine κ ρ σ} (hr : 1 ≤ r.maxRetries) (base limit now : τ) (subject : σ)
    (steps : List (ShiftStep κ τ)) :
    Budgeted r.maxRetries ((new base limit now subject).run r steps) ((new base limit now subject).starts r steps)
      (additions steps) :=
  (budgeted_new r.maxRetries base limit now subject).run hr steps

end Shift

end NetAttach
