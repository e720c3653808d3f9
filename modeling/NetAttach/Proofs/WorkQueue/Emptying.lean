/-
  A worker who is alone empties the queue.

  How often a key has been tried is within the ceiling for each of its additions, whoever works on it; so a worker who
  goes on while nobody adds anything comes to an end.

  Structure:
  1. `get_forever`: who waits for ever on an open queue is given a key, or nothing is ready or delayed any more, as long
     as the clock comes to the time that was waited for; a key that is given was outstanding (`Sound.get_key`);
  2. `Settles`: what is left when an attempt has been settled, in a success, a retry or a drop; it is one try less than
     there were before the key was handed out (`Settles.triesLeft_add_le`);
  3. `turn_cases`: a turn takes one of the tries that are left of its key, or finds the queue empty; and no turn
     raises the number of tries that are left of any key;
  4. so a worker ends by induction on the tries that are left of all keys (`work_blocked`), and there are no more of
     these than the budget of the shift before it allows (`tries_bounded_by_additions`).
-/
import NetAttach.Proofs.WorkQueue.Budget
import NetAttach.Proofs.WorkQueue.Waiting

namespace NetAttach

/-! ## Waiting for ever -/

namespace WorkQueue

variable {κ τ : Type} [DecidableEq κ]

theorem shuttingDown_addAfter [Add τ] [Zero τ] [LE τ] [DecidableLE τ] (q : WorkQueue κ τ) (now : τ) (key : κ)
    (delay : τ) : (q.addAfter now key delay).shuttingDown = q.shuttingDown := by
  unfold addAfter
  split
  · exact shuttingDown_add q key
  · split <;> rfl

variable [Add τ] [Sub τ] [Zero τ] [LE τ] [DecidableLE τ] [LT τ] [DecidableLT τ]

/-- Who waits for a key adds what is due, again and again, and may be handed a key in the end. -/
theorem getWithin_of_promote {P : WorkQueue κ τ → Prop} (hpromote : ∀ q now, P q → P (q.promote now))
    (deadline : Option τ) (looks : Nat) {q : WorkQueue κ τ} (now : τ) (h : P q) :
    ∃ r, P r ∧ ∀ key, (getWithin deadline looks q now).1 = .key key →
      r.handOut = some (key, (getWithin deadline looks q now).2.1) := by
  induction looks generalizing q now with
  | zero => exact ⟨q, h, fun _ hkey => by cases hkey⟩
  | succ looks ih =>
    unfold getWithin
    rcases look_cases deadline q now with ⟨-, hl⟩ | ⟨-, key, q', ho, hl⟩ | ⟨-, -, l, hk, hl⟩
    · rw [hl]
      exact ⟨q, h, fun _ hkey => by cases hkey⟩
    · rw [hl]
      refine ⟨q.promote now, hpromote q now h, fun k hkey => ?_⟩
      obtain rfl : key = k := Handout.key.inj hkey
      exact ho
    · rw [hl]
      cases l with
      | answer answer =>
        refine ⟨q.promote now, hpromote q now h, fun k hkey => ?_⟩
        obtain rfl : answer = .key k := hkey
        cases hk
      | wait d => exact ih (now + d) (hpromote q now h)

/-- What is outstanding after a key was handed out, and the key, were outstanding before. -/
theorem Sound.get_key {q queue : WorkQueue κ τ} (h : q.Sound) {now now' : τ} {timeout : Option τ} {key : κ}
    (hget : q.get now timeout = (.key key, queue, now')) :
    queue.Sound ∧ key ∈ queue.processing ∧ queue.shuttingDown = q.shuttingDown ∧
      ∀ k, queue.outstanding k + [key].count k ≤ q.outstanding k := by
  -- the queue that the key is handed out of
  obtain ⟨r, ⟨hsound, hshut, hout⟩, hgiven⟩ := getWithin_of_promote
    (P := fun r => r.Sound ∧ r.shuttingDown = q.shuttingDown ∧ ∀ k, r.outstanding k ≤ q.outstanding k)
    (fun q' now hq => ⟨hq.1.promote now, (shuttingDown_promote q' now).trans hq.2.1,
      fun k => (outstanding_promote_le q' now k).trans (hq.2.2 k)⟩)
    (timeout.map (now + ·)) q.looksNeeded now ⟨h, rfl, fun _ => le_rfl⟩
  change ∀ key, (q.get now timeout).1 = .key key → r.handOut = some (key, (q.get now timeout).2.1) at hgiven
  rw [hget] at hgiven
  have ho : r.handOut = some (key, queue) := hgiven key rfl
  obtain ⟨-, -, hprocessing, -, hshut'⟩ := handOut_eq_some ho
  refine ⟨hsound.handOut ho, ?_, hshut'.trans hshut, fun k => ?_⟩
  · rw [hprocessing]
    exact List.mem_insert_self
  · exact (hsound.outstanding_handOut ho k).trans_le (hout k)

omit [Add τ] in
theorem look_of_shuttingDown {q : WorkQueue κ τ} (h : q.shuttingDown = true) (deadline : Option τ) (now : τ) :
    q.look deadline now = (.answer .nothing, q) := by
  simp [look, h]

theorem get_of_shuttingDown {q : WorkQueue κ τ} (h : q.shuttingDown = true) (now : τ) (timeout : Option τ) :
    q.get now timeout = (.nothing, q, now) := by
  have hlooks : q.looksNeeded = 4 * q.waiting.length + 7 + 1 := by
    unfold looksNeeded
    omega
  unfold get
  rw [hlooks, getWithin, look_of_shuttingDown h]

/-- By induction on how often somebody looks; a look that is not the last one is followed by one at which there are
fewer delayed keys. -/
theorem getWithin_forever (hclock : ∀ due now : τ, ¬due ≤ now → due ≤ now + later (due - now) 0) :
    ∀ (looks : Nat) (q : WorkQueue κ τ) (now : τ), q.shuttingDown = false →
      (q.promote now).waiting.length < looks →
      (∃ key, (getWithin none looks q now).1 = .key key) ∨
      (getWithin none looks q now).1 = .blocked ∧ (getWithin none looks q now).2.1.ready = [] ∧
        (getWithin none looks q now).2.1.waiting = []
  | 0, _, _, _, hlooks => absurd hlooks (Nat.not_lt_zero _)
  | looks + 1, q, now, hopen, hlooks => by
    unfold getWithin
    cases ho : (q.promote now).handOut with
    | some p =>
      obtain ⟨key, q'⟩ := p
      have hl : q.look none now = (.answer (.key key), q') := by simp [look, hopen, ho]
      rw [hl]
      exact Or.inl ⟨key, rfl⟩
    | none =>
      cases hw : (q.promote now).waiting.head? with
      | none =>
        have hl : q.look none now = (.answer .blocked, q.promote now) := by simp [look, hopen, ho, pause, hw]
        rw [hl]
        exact Or.inr ⟨rfl, handOut_eq_none ho, List.head?_eq_none_iff.mp hw⟩
      | some e =>
        have hl : q.look none now = (.wait (later (e.due - now) 0), q.promote now) := by
          simp [look, hopen, ho, pause, hw]
        rw [hl]
        have hdue := hclock e.due now (not_due_of_head?_promote hw)
        have hfewer := length_waiting_promote_lt hw hdue
        exact getWithin_forever hclock looks _ _ ((shuttingDown_promote q now).trans hopen) (by omega)

theorem get_forever (hclock : ∀ due now : τ, ¬due ≤ now → due ≤ now + later (due - now) 0) {q : WorkQueue κ τ}
    (hopen : q.shuttingDown = false) (now : τ) :
    (∃ key, (q.get now none).1 = .key key) ∨
    (q.get now none).1 = .blocked ∧ (q.get now none).2.1.ready = [] ∧ (q.get now none).2.1.waiting = [] := by
  refine getWithin_forever hclock q.looksNeeded q now hopen ?_
  have hle := length_waiting_promote_le q now
  unfold looksNeeded
  omega

end WorkQueue

/-! ## A worker who is alone -/

namespace Workplace

variable {κ τ σ : Type} [DecidableEq κ]

/-- The queue is sound, and no key has failed as often as the ceiling. -/
structure Fit (ceiling : Int) (w : Workplace κ τ σ) : Prop where
  sound : w.queue.Sound
  count_lt : ∀ key, (w.backoff.count key : Int) < ceiling

/-- `w'` is left of `w` when an attempt at `key` has been settled: of this key at most as many tries are left as one
more handing out would be worth, less one more failure. -/
structure Settles (ceiling : Int) (key : κ) (w w' : Workplace κ τ σ) : Prop where
  fit : Fit ceiling w'
  shuttingDown : w'.queue.shuttingDown = w.queue.shuttingDown
  triesLeft_le : ∀ k, w'.triesLeft ceiling.toNat k ≤
    (w.queue.outstanding k + [key].count k) * ceiling.toNat - (w.backoff.count k + [key].count k)

variable {ceiling : Int} {w : Workplace κ τ σ} {key : κ}

/-- An attempt takes one of the tries that were left of its key before it was handed out. -/
theorem Settles.triesLeft_add_le {w' : Workplace κ τ σ} (h : Settles ceiling key w w')
    (hlt : (w.backoff.count key : Int) < ceiling) {k : κ} {outstanding : Nat}
    (hout : w.queue.outstanding k + [key].count k ≤ outstanding) :
    w'.triesLeft ceiling.toNat k + [key].count k ≤ outstanding * ceiling.toNat - w.backoff.count k := by
  have hworth := Nat.mul_le_mul_right ceiling.toNat hout
  have hleft := h.triesLeft_le k
  by_cases hk : k = key
  · subst hk
    have hfewer := Int.lt_toNat.mpr hlt
    rw [List.count_singleton_self, Nat.add_mul, Nat.one_mul] at hworth hleft
    rw [List.count_singleton_self]
    omega
  · rw [count_singleton_of_ne hk] at hworth hleft ⊢
    omega

/-- A success or a drop clears the record of the key. -/
theorem Fit.settles_forget (h : Fit ceiling w) (hkey : key ∈ w.queue.processing) (subject : σ) :
    Settles ceiling key w ({ w.forget key with subject }.done key) := by
  have hcount : ∀ k, ({ w.forget key with subject }.done key).backoff.count k =
      if k = key then 0 else w.backoff.count k := Backoff.count_forget w.backoff key
  refine ⟨⟨h.sound.done hkey, fun k => ?_⟩, rfl, fun k => ?_⟩
  · have hlt := h.count_lt k
    rw [hcount]
    split <;> omega
  · show w.queue.outstanding k * ceiling.toNat - _ ≤ _
    rw [hcount]
    split
    · rename_i hk
      subst hk
      have hlt := Int.lt_toNat.mpr (h.count_lt k)
      rw [List.count_singleton_self, Nat.add_mul, Nat.one_mul]
      omega
    · rename_i hk
      rw [count_singleton_of_ne hk]
      exact le_rfl

variable [Add τ] [Sub τ] [Zero τ] [LE τ] [DecidableLE τ] [LT τ] [DecidableLT τ]

theorem take_of_shuttingDown (h : w.queue.shuttingDown = true) (timeout : Option τ) :
    w.take timeout = (.nothing, w) := by
  unfold take
  rw [WorkQueue.get_of_shuttingDown h]

omit [Sub τ] in
/-- A retry holds one more failure against the key, and delays it once more. -/
theorem Fit.settles_retry (h : Fit ceiling w) (hkey : key ∈ w.queue.processing)
    (hlt : (w.backoff.count key + 1 : Int) < ceiling) :
    Settles ceiling key w ((w.addRateLimited key).done key) := by
  have hqueue : (w.addRateLimited key).queue = w.queue.addAfter w.now key (w.backoff.fail key).1 := rfl
  have hcount : ∀ k, ((w.addRateLimited key).done key).backoff.count k =
      if k = key then w.backoff.count key + 1 else w.backoff.count k := Backoff.count_fail w.backoff key
  refine ⟨⟨?_, fun k => ?_⟩, WorkQueue.shuttingDown_addAfter _ _ key _, fun k => ?_⟩
  · refine (hqueue ▸ h.sound.addAfter w.now key _ : (w.addRateLimited key).queue.Sound).done ?_
    rw [hqueue, WorkQueue.processing_addAfter]
    exact hkey
  · have hk := h.count_lt k
    rw [hcount]
    split <;> omega
  · have hout := Nat.mul_le_mul_right ceiling.toNat
      (WorkQueue.outstanding_addAfter_le w.queue w.now key (w.backoff.fail key).1 k)
    show (w.queue.addAfter w.now key (w.backoff.fail key).1).outstanding k * ceiling.toNat - _ ≤ _
    rw [hcount]
    split
    · rename_i hk
      subst hk
      rw [List.count_singleton_self] at hout ⊢
      omega
    · rename_i hk
      rw [count_singleton_of_ne hk] at hout ⊢
      omega

end Workplace

namespace Dispatcher

open Workplace (Fit Settles)

variable {κ τ σ : Type} [DecidableEq κ] [Add τ] [Sub τ] [Zero τ] [LE τ] [DecidableLE τ] [LT τ]
  [DecidableLT τ]

omit [Sub τ] in
theorem settles (d : Dispatcher κ τ σ) {w : Workplace κ τ σ} (h : Fit d.maxRetries w) {key : κ}
    (hkey : key ∈ w.queue.processing) (cause : Option Failure) :
    Settles d.maxRetries key w (d.settle key cause w) := by
  cases cause with
  | none => exact h.settles_forget hkey w.subject
  | some cause =>
    show Settles d.maxRetries key w ((d.settleFailure key cause w).done key)
    unfold settleFailure
    split
    · exact h.settles_retry hkey ‹_›
    · exact h.settles_forget hkey _

variable {d : Dispatcher κ τ σ} {w : Workplace κ τ σ}

/-- A turn on an open queue takes a try from what is left of a key, and none of the other keys gains any, or it finds
nothing that is ready or delayed. -/
theorem turn_cases
    (hprocess : ∀ key w, (d.process key w).1.queue = w.queue ∧ (d.process key w).1.backoff = w.backoff)
    (hclock : ∀ due now : τ, ¬due ≤ now → due ≤ now + later (due - now) 0)
    (h : Fit d.maxRetries w) (hopen : w.queue.shuttingDown = false) :
    (∃ key w', d.turn none w = (.worked, w') ∧ Fit d.maxRetries w' ∧ w'.queue.shuttingDown = false ∧
      ∀ k, w'.triesLeft d.maxRetries.toNat k + [key].count k ≤ w.triesLeft d.maxRetries.toNat k) ∨
    ∃ w', d.turn none w = (.blocked, w') ∧ w'.queue.ready = [] ∧ w'.queue.waiting = [] := by
  have hends := WorkQueue.get_forever hclock hopen w.now
  cases hget : w.queue.get w.now none with
  | mk answer rest =>
  obtain ⟨queue, now⟩ := rest
  rw [hget] at hends
  rcases hends with ⟨key, rfl⟩ | ⟨rfl, hready, hwaiting⟩
  · obtain ⟨hsound, hprocessing, hshut, hout⟩ := h.sound.get_key hget
    obtain ⟨hqueue, hbackoff⟩ := hprocess key { w with queue, now }
    have hturn : d.turn none w = (.worked, d.attempt key { w with queue, now }) := by
      simp only [turn, Workplace.take, hget]
    have hfit : Fit d.maxRetries (d.process key { w with queue, now }).1 := by
      refine ⟨hqueue ▸ hsound, fun k => ?_⟩
      rw [hbackoff]
      exact h.count_lt k
    have hsettles : Settles d.maxRetries key _ (d.attempt key { w with queue, now }) :=
      d.settles hfit (by rw [hqueue]; exact hprocessing) _
    refine Or.inl ⟨key, _, hturn, hsettles.fit, ?_, fun k => ?_⟩
    · rw [hsettles.shuttingDown, hqueue]
      exact hshut.trans hopen
    · have hpaid := hsettles.triesLeft_add_le (hfit.count_lt key) (hqueue ▸ hout k :
        (d.process key { w with queue, now }).1.queue.outstanding k + [key].count k ≤ w.queue.outstanding k)
      rw [hbackoff] at hpaid
      exact hpaid
  · refine Or.inr ⟨{ w with queue, now }, ?_, hready, hwaiting⟩
    simp only [turn, Workplace.take, hget]

/-- By induction on the turns; there are more of them than tries that are left of all keys. -/
theorem work_blocked
    (hprocess : ∀ key w, (d.process key w).1.queue = w.queue ∧ (d.process key w).1.backoff = w.backoff)
    (hclock : ∀ due now : τ, ¬due ≤ now → due ≤ now + later (due - now) 0) (keys : Finset κ) :
    ∀ (most : Nat) {w : Workplace κ τ σ}, Fit d.maxRetries w → w.queue.shuttingDown = false →
      (∀ k, k ∉ keys → w.triesLeft d.maxRetries.toNat k = 0) →
      ∑ k ∈ keys, w.triesLeft d.maxRetries.toNat k < most →
      (d.work most w).1 = .blocked ∧ (d.work most w).2.queue.ready = [] ∧ (d.work most w).2.queue.waiting = []
  | 0, _, _, _, _, hmost => absurd hmost (Nat.not_lt_zero _)
  | most + 1, w, h, hopen, hkeys, hmost => by
    unfold work
    rcases turn_cases hprocess hclock h hopen with ⟨key, w', hturn, hfit, hstill, hleft⟩ | ⟨w', hturn, hempty⟩
    · rw [hturn]
      have hkey : key ∈ keys := by
        by_contra hnot
        have hpaid := hleft key
        rw [hkeys key hnot, List.count_singleton_self] at hpaid
        omega
      have hless : ∑ k ∈ keys, w'.triesLeft d.maxRetries.toNat k < ∑ k ∈ keys, w.triesLeft d.maxRetries.toNat k := by
        refine Finset.sum_lt_sum (fun k _ => (Nat.le_add_right _ _).trans (hleft k)) ⟨key, hkey, ?_⟩
        have hpaid := hleft key
        rwa [List.count_singleton_self] at hpaid
      refine work_blocked hprocess hclock keys most hfit hstill (fun k hk => ?_) (by omega)
      exact Nat.le_zero.mp (((Nat.le_add_right _ _).trans (hleft k)).trans_eq (hkeys k hk))
    · rw [hturn]
      exact ⟨rfl, hempty⟩

/-- A turn is the last one when the queue is shutting down. -/
theorem turn_of_shuttingDown (d : Dispatcher κ τ σ) (h : w.queue.shuttingDown = true) (timeout : Option τ) :
    d.turn timeout w = (.over, w) := by
  simp only [turn, Workplace.take_of_shuttingDown h, h, if_true]

/-- A worker ends at once then. -/
theorem work_of_shuttingDown (d : Dispatcher κ τ σ) (h : w.queue.shuttingDown = true) (most : Nat) :
    d.work (most + 1) w = (.over, w) := by
  rw [work, d.turn_of_shuttingDown h]

end Dispatcher

namespace Shift

variable {κ τ ρ σ : Type} [DecidableEq κ] [Add τ] [Sub τ] [Zero τ] [LE τ] [DecidableLE τ] [LT τ]
  [DecidableLT τ]

/-- **Additions bound the tries.**  Whatever workers and others do, a key is tried at most as often as the ceiling
allows for each time that it was added.  So when one worker goes on alone, with whatever outcomes, and nothing is added,
it comes to an end after finitely many tries, no more than the ceiling for each addition that there was: then nothing
is ready or delayed any more.  Only when the queue is shutting down does it end at once, and leaves what is there. -/
theorem tries_bounded_by_additions {r : Routine κ ρ σ} (hr : 1 ≤ r.maxRetries) (base limit now : τ) (subject : σ)
    (steps : List (ShiftStep κ τ)) :
    let start : Shift κ τ ρ σ := new base limit now subject
    let s := start.run r steps
    (∀ key, ((start.starts r steps).count key : Int) ≤ r.maxRetries * (additions steps).count key) ∧
    ∀ d : Dispatcher κ τ σ, d.maxRetries = r.maxRetries →
      (∀ key w, (d.process key w).1.queue = w.queue ∧ (d.process key w).1.backoff = w.backoff) →
      (∀ due now : τ, ¬due ≤ now → due ≤ now + later (due - now) 0) →
      let last := d.work (r.maxRetries.toNat * (additions steps).length + 1) s.place
      (s.place.queue.shuttingDown = false →
        last.1 = .blocked ∧ last.2.queue.ready = [] ∧ last.2.queue.waiting = []) ∧
      (s.place.queue.shuttingDown = true → last = (.over, s.place)) := by
  intro start s
  have hbudget : Budgeted r.maxRetries s (start.starts r steps) (additions steps) :=
    budgeted_run hr base limit now subject steps
  refine ⟨fun key => ?_, fun d hd hprocess hclock => ⟨fun hopen => ?_, fun hshut => ?_⟩⟩
  · have hstarts := (Nat.le_add_right _ _).trans (hbudget.triesLeft_le hr key)
    have hceiling : (r.maxRetries.toNat : Int) = r.maxRetries := Int.toNat_of_nonneg (by omega)
    rw [← hceiling]
    exact_mod_cast hstarts
  · have hleft : ∀ key, s.place.triesLeft d.maxRetries.toNat key ≤ d.maxRetries.toNat * (additions steps).count key :=
      fun key => (Nat.le_add_left _ _).trans (hd ▸ hbudget.triesLeft_le hr key)
    have hfit : Workplace.Fit d.maxRetries s.place :=
      ⟨hbudget.balanced.staffed.sound, fun key => hd ▸ Int.lt_toNat.mp (hbudget.count_lt hr key)⟩
    refine Dispatcher.work_blocked hprocess hclock (additions steps).toFinset _ hfit hopen (fun key hkey => ?_) ?_
    · have hnone : (additions steps).count key = 0 := List.count_eq_zero.mpr fun hk => hkey (List.mem_toFinset.mpr hk)
      have hzero := hleft key
      rw [hnone, Nat.mul_zero] at hzero
      exact Nat.le_zero.mp hzero
    · refine Nat.lt_succ_of_le ((Finset.sum_le_sum fun key _ => hleft key).trans_eq ?_)
      rw [← Finset.mul_sum, List.sum_toFinset_count_eq_length, hd]
  · exact d.work_of_shuttingDown hshut _

/-- Key 1 fails and is added once more; the second try succeeds while the retry is still delayed.  A worker who fails
whenever it tries has two tries left. -/
theorem tries_bounded_by_two_additions :
    let r : Routine Nat Unit (List (Option Failure)) :=
      ⟨fun _ => (), fun _ outcomes => (.finish outcomes.head?.join, outcomes.tail), 2, fun _ rest => rest⟩
    let d : Dispatcher Nat Nat (List (Option Failure)) :=
      ⟨fun _ w => (w, some (.crash "again")), 2, fun _ rest => rest⟩
    let start : Shift Nat Nat Unit (List (Option Failure)) := new 5 10 0 [some (.crash "first"), none]
    let steps : List (ShiftStep Nat Nat) :=
      [.add 1, .look 0 none, .move 0, .move 0, .move 0, .move 0, .move 0, .add 1, .look 0 none, .move 0, .move 0,
        .move 0]
    let s := start.run r steps
    let last := d.work (r.maxRetries.toNat * (additions steps).length + 1) s.place
    1 ≤ r.maxRetries ∧ start.starts r steps = [1, 1] ∧ additions steps = [1, 1] ∧
    ((start.starts r steps).count 1 : Int) ≤ r.maxRetries * (additions steps).count 1 ∧
    last.1 = .blocked ∧ last.2.queue.ready = [] ∧ last.2.queue.waiting = [] := by
  intro r d start steps s last
  have hceiling : 1 ≤ r.maxRetries := by decide
  have hopen : s.place.queue.shuttingDown = false := by decide +kernel
  have hclock : ∀ due now : Nat, ¬due ≤ now → due ≤ now + later (due - now) 0 := by
    intro due now hdue
    unfold later
    split <;> omega
  refine ⟨hceiling, by decide +kernel, by decide, ?_⟩
  -- from here on it does not matter any more what the steps are
  clear_value steps
  obtain ⟨hstarts, hworker⟩ := tries_bounded_by_additions hceiling 5 10 0 [some (.crash "first"), none] steps
  exact ⟨hstarts 1, (hworker d rfl (fun _ _ => ⟨rfl, rfl⟩) hclock).1 hopen⟩

/-- A worker does not empty a queue that is shutting down, however many turns it has. -/
theorem not_emptied_of_shutDown :
    let r : Routine Nat Unit Unit := ⟨fun _ => (), fun _ _ => (.finish none, ()), 1, fun _ _ => ()⟩
    let d : Dispatcher Nat Nat Unit := ⟨fun _ w => (w, none), 1, fun _ _ => ()⟩
    let s := (new 1 10 0 () : Shift Nat Nat Unit Unit).run r [.add 1, .shutDown]
    ∀ most, (d.work most s.place).2.queue.ready = [1] := by
  intro r d s most
  cases most with
  | zero => rfl
  | succ most =>
    rw [d.work_of_shuttingDown rfl most]
    rfl

end Shift

end NetAttach
