/-
  Keys that will still be handed out.

  `q.Expects key` says that there is work for a key: it is dirty, or it is delayed and will be added when its
  time has come.  A queue that is shutting down hands out nothing any more; there the question has no meaning
  and every key counts as expected, so that no lemma below needs to assume that the queue is open.

  The only operation that ends an expectation is handing out the key (`Expects.handOut` is about the others),
  and in a sound queue with nothing ready, delayed or processing no key is expected (`not_expects_of_idle`).
-/
import NetAttach.Proofs.WorkQueue.Soundness

namespace NetAttach.WorkQueue

variable {κ τ : Type} [DecidableEq κ]

/-- There is work for `key` that the queue has not handed out, or the queue is shutting down. -/
def Expects (q : WorkQueue κ τ) (key : κ) : Prop :=
  q.shuttingDown = true ∨ key ∈ q.dirty ∨ ∃ e ∈ q.waiting, e.key = key

omit [DecidableEq κ] in
theorem Expects.of_le {q r : WorkQueue κ τ} {key : κ} (h : q.Expects key)
    (hs : q.shuttingDown = true → r.shuttingDown = true) (hd : key ∈ q.dirty → r.Expects key)
    (hw : ∀ e ∈ q.waiting, e.key = key → r.Expects key) : r.Expects key := by
  rcases h with h | h | ⟨e, he, hk⟩
  · exact Or.inl (hs h)
  · exact hd h
  · exact hw e he hk

/-! ## Adding -/

@[simp] theorem shuttingDown_add (q : WorkQueue κ τ) (key : κ) :
    (q.add key).shuttingDown = q.shuttingDown := by
  unfold add
  split
  · rfl
  · split <;> rfl

@[simp] theorem waiting_add (q : WorkQueue κ τ) (key : κ) : (q.add key).waiting = q.waiting := by
  unfold add
  split
  · rfl
  · split <;> rfl

/-- Adding does not look at the delayed keys. -/
theorem add_withWaiting (q : WorkQueue κ τ) (waiting : List (Delayed κ τ)) (key : κ) :
    ({ q with waiting } : WorkQueue κ τ).add key = { q.add key with waiting } := by
  unfold add
  split
  · rfl
  · split <;> rfl

theorem expects_add (q : WorkQueue κ τ) (key : κ) : (q.add key).Expects key := by
  cases hs : q.shuttingDown with
  | true => exact Or.inl (by rw [shuttingDown_add, hs])
  | false => exact Or.inr (Or.inl ((mem_dirty_add q key key hs).mpr (Or.inl rfl)))

theorem Expects.add {q : WorkQueue κ τ} {k : κ} (h : q.Expects k) (key : κ) :
    (q.add key).Expects k := by
  cases hs : q.shuttingDown with
  | true => exact Or.inl (by rw [shuttingDown_add, hs])
  | false =>
    refine h.of_le (fun hq => absurd hq (by simp [hs])) ?_ ?_
    · intro hd
      exact Or.inr (Or.inl ((mem_dirty_add q key k hs).mpr (Or.inr hd)))
    · intro e he hk
      exact Or.inr (Or.inr ⟨e, by rwa [waiting_add], hk⟩)

section Delays

variable [LE τ] [DecidableLE τ]

omit [DecidableEq κ] in
theorem insertDelayed_perm (e : Delayed κ τ) : ∀ waiting : List (Delayed κ τ),
    (insertDelayed e waiting).Perm (e :: waiting)
  | [] => .refl _
  | f :: rest => by
    unfold insertDelayed
    split
    · exact ((insertDelayed_perm e rest).cons f).trans (.swap e f rest)
    · exact .refl _

omit [DecidableEq κ] in
theorem mem_insertDelayed (e f : Delayed κ τ) (waiting : List (Delayed κ τ)) :
    f ∈ insertDelayed e waiting ↔ f = e ∨ f ∈ waiting := by
  rw [(insertDelayed_perm e waiting).mem_iff, List.mem_cons]

theorem expects_addAfter [Add τ] [Zero τ] (q : WorkQueue κ τ) (now : τ) (key : κ) (delay : τ) :
    (q.addAfter now key delay).Expects key := by
  unfold addAfter
  split
  · exact expects_add q key
  · split
    · exact Or.inl ‹_›
    · exact Or.inr (Or.inr ⟨⟨now + delay, key⟩, (mem_insertDelayed _ _ _).mpr (Or.inl rfl), rfl⟩)

theorem Expects.addAfter [Add τ] [Zero τ] {q : WorkQueue κ τ} {k : κ} (h : q.Expects k) (now : τ)
    (key : κ) (delay : τ) : (q.addAfter now key delay).Expects k := by
  unfold WorkQueue.addAfter
  split
  · exact h.add key
  · split
    · exact h
    · refine h.of_le id (fun hd => Or.inr (Or.inl hd)) ?_
      intro e he hk
      exact Or.inr (Or.inr ⟨e, (mem_insertDelayed _ _ _).mpr (Or.inr he), hk⟩)

/-- A key is expected while the delayed keys are gone through: it is already, or it is yet to come. -/
theorem expects_promoteFrom (now : τ) (key : κ) : ∀ (waiting : List (Delayed κ τ)) (q : WorkQueue κ τ),
    (q.shuttingDown = true ∨ key ∈ q.dirty ∨ ∃ e ∈ waiting, e.key = key) →
    (promoteFrom now waiting q).Expects key
  | [], q, h => by
    rcases h with h | h | ⟨e, he, -⟩
    · exact Or.inl h
    · exact Or.inr (Or.inl h)
    · exact absurd he List.not_mem_nil
  | f :: rest, q, h => by
    unfold promoteFrom
    split
    · refine expects_promoteFrom now key rest (q.add f.key) ?_
      rw [shuttingDown_add]
      -- `f` goes from the delayed keys to the dirty ones, unless nothing is added any more
      cases hs : q.shuttingDown with
      | true => exact Or.inl rfl
      | false =>
        rw [mem_dirty_add q f.key key hs]
        rcases h with h | h | ⟨e, he, hk⟩
        · exact absurd h (by simp [hs])
        · exact Or.inr (Or.inl (Or.inr h))
        · rcases List.mem_cons.mp he with rfl | he
          · exact Or.inr (Or.inl (Or.inl hk.symm))
          · exact Or.inr (Or.inr ⟨e, he, hk⟩)
    · rcases h with h | h | h
      · exact Or.inl h
      · exact Or.inr (Or.inl h)
      · exact Or.inr (Or.inr h)

theorem Expects.promote {q : WorkQueue κ τ} {key : κ} (h : q.Expects key) (now : τ) :
    (q.promote now).Expects key :=
  expects_promoteFrom now key q.waiting q h

end Delays

/-! ## Handing out, being done, shutting down -/

theorem Expects.handOut {q q' : WorkQueue κ τ} {k key : κ} (h : q.Expects k)
    (ho : q.handOut = some (key, q')) (hne : k ≠ key) : q'.Expects k := by
  obtain ⟨-, hd, -, hw, hs⟩ := handOut_eq_some ho
  refine h.of_le (fun h => hs ▸ h) ?_ ?_
  · intro hk
    exact Or.inr (Or.inl (by rw [hd]; exact (List.mem_erase_of_ne hne).mpr hk))
  · intro e he hk
    exact Or.inr (Or.inr ⟨e, by rwa [hw], hk⟩)

theorem Expects.done {q : WorkQueue κ τ} {k : κ} (h : q.Expects k) (key : κ) :
    (q.done key).Expects k := h

omit [DecidableEq κ] in
theorem expects_shutDown (q : WorkQueue κ τ) (key : κ) : q.shutDown.Expects key := Or.inl rfl

omit [DecidableEq κ] in
/-- Where nothing is ready, delayed or processing, all work has been handed out. -/
theorem not_expects_of_idle {q : WorkQueue κ τ} (h : Sound q) (hs : q.shuttingDown = false)
    (hr : q.ready = []) (hw : q.waiting = []) {key : κ} (hp : key ∉ q.processing) :
    ¬q.Expects key := by
  rintro (hq | hd | ⟨e, he, -⟩)
  · exact absurd hq (by simp [hs])
  · -- a dirty key that nobody holds would be ready
    have hm := (h.mem_ready key).mpr ⟨hd, hp⟩
    rw [hr] at hm
    exact absurd hm List.not_mem_nil
  · rw [hw] at he
    exact absurd he List.not_mem_nil

end NetAttach.WorkQueue
