/-
  When somebody who waits for a key gets one.

  Times are exact here, as whole numbers and rationals are.  A queue is ripe at a time if a key is ready once all
  delayed keys that are due have been added; a key that is dirty or held already does not make it ripe when its time
  comes.  Who asks for a key is answered at the first time at which the queue is ripe.

  Structure:
  1. adding what is due in two steps is adding it in one (`promote_promote`), and before the next key is due nothing
     changes (`promote_eq_self`); so a time at which nobody looks is not missed (`ripe_promote`);
  2. `Glance` are the four things that looking once comes to;
  3. `Timely` is what waiting comes to, by induction on how often one looks (`getWithin_timely`): each look but the
     first is the last one, or takes at least one of the delayed keys.
-/
import NetAttach.Proofs.WorkQueue.Expected

namespace NetAttach.WorkQueue

variable {κ τ : Type} [DecidableEq κ]

/-! ## Adding what is due -/

section Promoting

variable [LE τ] [DecidableLE τ]

/-- Who goes through some delayed keys does not look at those that the queue has. -/
theorem promoteFrom_withWaiting (now : τ) (other : List (Delayed κ τ)) : ∀ (waiting : List (Delayed κ τ))
    (q : WorkQueue κ τ), promoteFrom now waiting { q with waiting := other } = promoteFrom now waiting q
  | [], _ => rfl
  | e :: rest, q => by
    unfold promoteFrom
    rw [add_withWaiting, promoteFrom_withWaiting now other rest]

theorem waiting_promoteFrom (now : τ) : ∀ (waiting : List (Delayed κ τ)) (q : WorkQueue κ τ),
    (promoteFrom now waiting q).waiting = waiting.dropWhile fun e => e.due ≤ now
  | [], _ => rfl
  | e :: rest, q => by
    unfold promoteFrom
    rw [List.dropWhile_cons]
    by_cases h : e.due ≤ now
    · rw [if_pos h, if_pos (decide_eq_true h)]
      exact waiting_promoteFrom now rest (q.add e.key)
    · rw [if_neg h, if_neg (by simpa using h)]

/-- The delayed keys that are due are in front. -/
theorem waiting_promote (q : WorkQueue κ τ) (now : τ) :
    (q.promote now).waiting = q.waiting.dropWhile fun e => e.due ≤ now :=
  waiting_promoteFrom now q.waiting q

@[simp] theorem shuttingDown_promote (q : WorkQueue κ τ) (now : τ) :
    (q.promote now).shuttingDown = q.shuttingDown :=
  promote_induct (P := fun r => r.shuttingDown = q.shuttingDown)
    (fun r key hr => (shuttingDown_add r key).trans hr) (fun _ _ hr => hr) rfl now

theorem length_waiting_promote_le (q : WorkQueue κ τ) (now : τ) :
    (q.promote now).waiting.length ≤ q.waiting.length := by
  rw [waiting_promote]
  exact (List.dropWhile_suffix _).length_le

/-- The first of the delayed keys that are left is not due yet. -/
theorem not_due_of_head?_promote {q : WorkQueue κ τ} {now : τ} {e : Delayed κ τ}
    (h : e ∈ (q.promote now).waiting.head?) : ¬e.due ≤ now := by
  rw [waiting_promote] at h
  have hnot := List.head?_dropWhile_not (fun e : Delayed κ τ => decide (e.due ≤ now)) q.waiting
  rw [Option.mem_def.mp h] at hnot
  simpa using hnot

/-- If the first delayed key is due, there are fewer afterwards. -/
theorem length_waiting_promote_lt {q : WorkQueue κ τ} {now : τ} {e : Delayed κ τ} (h : e ∈ q.waiting.head?)
    (hdue : e.due ≤ now) : (q.promote now).waiting.length < q.waiting.length := by
  obtain ⟨rest, hw⟩ := List.head?_eq_some_iff.mp h
  rw [waiting_promote, hw, List.dropWhile_cons, if_pos (decide_eq_true hdue)]
  exact Nat.lt_succ_of_le (List.dropWhile_suffix _).length_le

/-- Before the first delayed key is due, nothing is added. -/
theorem promote_eq_self {q : WorkQueue κ τ} {now : τ} (h : ∀ e ∈ q.waiting.head?, ¬e.due ≤ now) :
    q.promote now = q := by
  obtain ⟨ready, dirty, processing, waiting, shuttingDown⟩ := q
  cases waiting with
  | nil => rfl
  | cons e rest => exact if_neg (h e rfl)

end Promoting

/-- What was due earlier is due later. -/
theorem promote_promote [Preorder τ] [DecidableLE τ] (q : WorkQueue κ τ) {s t : τ} (h : s ≤ t) :
    (q.promote s).promote t = q.promote t := by
  have hfrom : ∀ (waiting : List (Delayed κ τ)) (q : WorkQueue κ τ),
      (promoteFrom s waiting q).promote t = promoteFrom t waiting q := by
    intro waiting
    induction waiting with
    | nil => exact fun q => rfl
    | cons e rest ih =>
      intro q
      by_cases hdue : e.due ≤ s
      · simp only [promoteFrom, if_pos hdue, if_pos (hdue.trans h)]
        exact ih (q.add e.key)
      · simp only [promoteFrom, if_neg hdue]
        exact promoteFrom_withWaiting t (e :: rest) (e :: rest) q
  exact hfrom q.waiting q

/-! ## Looking once, with exact times -/

section Exact

variable [AddCommGroup τ] [LinearOrder τ] [IsOrderedAddMonoid τ]

theorem later_sub_zero {now t : τ} (h : ¬t ≤ now) : later (t - now) 0 = t - now :=
  if_neg (not_lt.mpr (sub_pos.mpr (not_le.mp h)).le)

theorem earlier_sub_sub (now s t : τ) : earlier (s - now) (t - now) = min s t - now := by
  unfold earlier
  split
  · rename_i hlt
    rw [min_eq_right ((sub_lt_sub_iff_right now).mp hlt).le]
  · rename_i hle
    rw [min_eq_left ((sub_le_sub_iff_right now).mp (not_lt.mp hle))]

/-- The times from `now` to the deadline at which a key is ready once what is due has been added. -/
def ripe (q : WorkQueue κ τ) (now : τ) (deadline : Option τ) : Set τ :=
  {t | now ≤ t ∧ (∀ last ∈ deadline, t ≤ last) ∧ (q.promote t).ready ≠ []}

/-- The four things that looking for a key comes to. -/
inductive Glance (q : WorkQueue κ τ) (deadline : Option τ) (now : τ) : Look κ τ × WorkQueue κ τ → Prop where
  | found {key : κ} {q' : WorkQueue κ τ} (ho : (q.promote now).handOut = some (key, q')) :
    Glance q deadline now (.answer (.key key), q')
  | expired (hready : (q.promote now).ready = []) (hlast : deadline = some now) :
    Glance q deadline now (.answer .nothing, q.promote now)
  | forsaken (hready : (q.promote now).ready = []) (hlast : deadline = none)
    (hwaiting : (q.promote now).waiting = []) : Glance q deadline now (.answer .blocked, q.promote now)
  /-- Nobody looks again before the deadline or the time of the next delayed key, and not later than either. -/
  | wait {next : τ} (hready : (q.promote now).ready = []) (hnow : now < next) (hlast : ∀ last ∈ deadline, next ≤ last)
    (hdue : ∀ e ∈ (q.promote now).waiting.head?, next ≤ e.due)
    (hnext : deadline = some next ∨ ∃ e ∈ (q.promote now).waiting.head?, e.due = next) :
    Glance q deadline now (.wait (next - now), q.promote now)

theorem glance (q : WorkQueue κ τ) (deadline : Option τ) (now : τ) (hopen : q.shuttingDown = false)
    (hnow : ∀ last ∈ deadline, now ≤ last) : Glance q deadline now (q.look deadline now) := by
  cases ho : (q.promote now).handOut with
  | some p =>
    obtain ⟨key, q'⟩ := p
    have hl : q.look deadline now = (.answer (.key key), q') := by simp [look, hopen, ho]
    exact hl ▸ .found ho
  | none =>
    have hready := handOut_eq_none ho
    have hnotDue : ∀ e ∈ (q.promote now).waiting.head?, ¬e.due ≤ now := fun e => not_due_of_head?_promote
    cases deadline with
    | none =>
      cases hw : (q.promote now).waiting.head? with
      | none =>
        have hl : q.look none now = (.answer .blocked, q.promote now) := by simp [look, hopen, ho, pause, hw]
        exact hl ▸ .forsaken hready rfl (List.head?_eq_none_iff.mp hw)
      | some e =>
        have hl : q.look none now = (.wait (e.due - now), q.promote now) := by
          simp [look, hopen, ho, pause, hw, later_sub_zero (hnotDue e hw)]
        rw [hl]
        refine .wait hready (not_le.mp (hnotDue e hw)) (by simp) ?_ (Or.inr ⟨e, hw, rfl⟩)
        simp [hw]
    | some last =>
      by_cases hleft : last ≤ now
      · have hl : q.look (some last) now = (.answer .nothing, q.promote now) := by
          simp [look, hopen, ho, pause, hleft]
        exact hl ▸ .expired hready (congrArg some (hleft.antisymm (hnow last rfl)))
      · cases hw : (q.promote now).waiting.head? with
        | none =>
          have hl : q.look (some last) now = (.wait (last - now), q.promote now) := by
            simp [look, hopen, ho, pause, hw, hleft]
          rw [hl]
          exact .wait hready (not_le.mp hleft) (by simp) (by simp [hw]) (Or.inl rfl)
        | some e =>
          have hl : q.look (some last) now = (.wait (min e.due last - now), q.promote now) := by
            simp [look, hopen, ho, pause, hw, hleft, later_sub_zero (hnotDue e hw), earlier_sub_sub]
          rw [hl]
          refine .wait hready (lt_min (not_le.mp (hnotDue e hw)) (not_le.mp hleft)) (by simp) (by simp [hw]) ?_
          rcases min_choice e.due last with hmin | hmin
          · exact Or.inr ⟨e, hw, hmin.symm⟩
          · exact Or.inl (congrArg some hmin.symm)

/-! ## Waiting -/

omit [AddCommGroup τ] [IsOrderedAddMonoid τ] in
/-- Who finds nothing ready and looks again before anything else can be due has missed nothing. -/
theorem ripe_promote {q : WorkQueue κ τ} {now next : τ} (deadline : Option τ)
    (hready : (q.promote now).ready = []) (hnext : now ≤ next)
    (hdue : ∀ e ∈ (q.promote now).waiting.head?, next ≤ e.due) :
    (q.promote now).ripe next deadline = q.ripe now deadline := by
  ext t
  constructor
  · rintro ⟨ht, hlast, hripe⟩
    rw [promote_promote q (hnext.trans ht)] at hripe
    exact ⟨hnext.trans ht, hlast, hripe⟩
  · rintro ⟨ht, hlast, hripe⟩
    rw [← promote_promote q ht] at hripe
    refine ⟨not_lt.mp fun hlt => hripe ?_, hlast, hripe⟩
    rw [promote_eq_self fun e he => not_le.mpr (hlt.trans_le (hdue e he)), hready]

/-- What waiting for a key comes to: the first ready key as soon as there is one, or none at all. -/
inductive Timely (q : WorkQueue κ τ) (deadline : Option τ) (now : τ) : Handout κ × WorkQueue κ τ × τ → Prop where
  | served {key : κ} {q' : WorkQueue κ τ} {t : τ} (hleast : IsLeast (q.ripe now deadline) t)
    (ho : (q.promote t).handOut = some (key, q')) : Timely q deadline now (.key key, q', t)
  | expired {t : τ} (hlast : deadline = some t) (hripe : q.ripe now deadline = ∅) :
    Timely q deadline now (.nothing, q.promote t, t)
  | forsaken {t : τ} (hlast : deadline = none) (hnow : now ≤ t) (hripe : q.ripe now deadline = ∅)
    (hwaiting : (q.promote t).waiting = []) : Timely q deadline now (.blocked, q.promote t, t)

variable {q : WorkQueue κ τ} {deadline : Option τ} {now : τ} {got : Handout κ × WorkQueue κ τ × τ}

omit [AddCommGroup τ] [IsOrderedAddMonoid τ] in
theorem Timely.of_nonempty (h : Timely q deadline now got) (hripe : (q.ripe now deadline).Nonempty) :
    IsLeast (q.ripe now deadline) got.2.2 ∧
      ∃ key, got.1 = .key key ∧ (q.promote got.2.2).handOut = some (key, got.2.1) := by
  cases h with
  | @served key _ _ hleast ho => exact ⟨hleast, key, rfl, ho⟩
  | expired _ hnone | forsaken _ _ hnone => exact absurd hripe (hnone ▸ Set.not_nonempty_empty)

omit [AddCommGroup τ] [IsOrderedAddMonoid τ] in
theorem Timely.of_empty (h : Timely q deadline now got) (hripe : q.ripe now deadline = ∅) :
    got.2.1 = q.promote got.2.2 ∧ deadline.elim (got.1 = .blocked ∧ got.2.1.waiting = []) fun last =>
      got.1 = .nothing ∧ got.2.2 = last := by
  cases h with
  | served hleast => exact absurd (hripe ▸ hleast.1) (Set.notMem_empty _)
  | expired hlast =>
    subst hlast
    exact ⟨rfl, rfl, rfl⟩
  | forsaken hlast _ _ hwaiting =>
    subst hlast
    exact ⟨rfl, rfl, hwaiting⟩

omit [AddCommGroup τ] [IsOrderedAddMonoid τ] in
/-- The delayed keys that are left are those that are not due when somebody is answered. -/
theorem Timely.waiting (h : Timely q deadline now got) : got.2.1.waiting = (q.promote got.2.2).waiting := by
  cases h with
  | served _ ho => exact (handOut_eq_some ho).2.2.2.1
  | expired | forsaken => rfl

omit [AddCommGroup τ] [IsOrderedAddMonoid τ] in
/-- Who is answered by the queue that is left after looking is answered in time. -/
theorem Timely.of_promote {next : τ} (h : Timely (q.promote now) deadline next got)
    (hready : (q.promote now).ready = []) (hnext : now ≤ next) (hlast : ∀ last ∈ deadline, now ≤ last)
    (hdue : ∀ e ∈ (q.promote now).waiting.head?, next ≤ e.due) : Timely q deadline now got := by
  have hripe := ripe_promote deadline hready hnext hdue
  cases h with
  | served hleast ho =>
    rw [promote_promote q (hnext.trans hleast.1.1)] at ho
    exact .served (hripe ▸ hleast) ho
  | expired hend hnone =>
    rw [promote_promote q (hlast _ hend)]
    exact .expired hend (hripe ▸ hnone)
  | forsaken hend hlater hnone hwaiting =>
    rw [promote_promote q (hnext.trans hlater)] at hwaiting ⊢
    exact .forsaken hend (hnext.trans hlater) (hripe ▸ hnone) hwaiting

/-- By induction on how often one looks.  A look that is not the last one is followed by one at the deadline, or by one
at which there are fewer delayed keys. -/
theorem getWithin_timely (deadline : Option τ) : ∀ (looks : Nat) (q : WorkQueue κ τ) (now : τ),
    q.shuttingDown = false → (∀ last ∈ deadline, now ≤ last) →
    (q.promote now).waiting.length + 1 < looks ∨ deadline = some now ∧ 0 < looks →
    Timely q deadline now (getWithin deadline looks q now)
  | 0, _, _, _, _, hlooks => absurd hlooks (by omega)
  | looks + 1, q, now, hopen, hnow, hlooks => by
    have hglance := glance q deadline now hopen hnow
    unfold getWithin
    cases hl : q.look deadline now with
    | mk l r =>
    rw [hl] at hglance
    cases hglance with
    | found ho =>
      refine .served ⟨⟨le_rfl, hnow, fun hready => ?_⟩, fun t ht => ht.1⟩ ho
      rw [(handOut_eq_some ho).1] at hready
      exact List.cons_ne_nil _ _ hready
    | expired hready hlast =>
      refine .expired hlast (Set.eq_empty_of_forall_notMem fun t ht => ht.2.2 ?_)
      rw [le_antisymm (ht.2.1 now hlast) ht.1, hready]
    | forsaken hready hlast hwaiting =>
      refine .forsaken hlast le_rfl (Set.eq_empty_of_forall_notMem fun t ht => ht.2.2 ?_) hwaiting
      rw [← promote_promote q ht.1, promote_eq_self (by simp [hwaiting]), hready]
    | @wait next hready hlt hlast hdue hnext =>
      have henough : ((q.promote now).promote next).waiting.length + 1 < looks ∨
          deadline = some next ∧ 0 < looks := by
        rcases hlooks with hlooks | ⟨hlooks, -⟩
        · rcases hnext with hnext | ⟨e, he, hedue⟩
          · exact Or.inr ⟨hnext, by omega⟩
          · have hfewer := length_waiting_promote_lt he hedue.le
            exact Or.inl (by omega)
        · exact absurd (hlast now hlooks) (not_le.mpr hlt)
      have hrest := getWithin_timely deadline looks (q.promote now) next
        ((shuttingDown_promote q now).trans hopen) hlast henough
      show Timely q deadline now (getWithin deadline looks (q.promote now) (now + (next - now)))
      rw [add_sub_cancel]
      exact hrest.of_promote hready hlt.le hnow hdue

theorem get_timely {q : WorkQueue κ τ} (hopen : q.shuttingDown = false) (now : τ) {timeout : Option τ}
    (htimeout : ∀ d ∈ timeout, 0 ≤ d) :
    Timely q (timeout.map fun d => now + d) now (q.get now timeout) := by
  refine getWithin_timely _ _ q now hopen (fun last hlast => ?_) (Or.inl ?_)
  · obtain ⟨d, hd, rfl⟩ := Option.mem_map.mp hlast
    exact le_add_of_nonneg_right (htimeout d hd)
  · have hle := length_waiting_promote_le q now
    unfold looksNeeded
    omega

end Exact

end NetAttach.WorkQueue
