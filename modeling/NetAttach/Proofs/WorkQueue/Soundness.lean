/-
  Where the keys of a queue are, and who holds them.

  A queue keeps three overlapping sets of keys.  `Sound` says how they fit together: no key is ready twice, and
  a key is ready exactly when it is dirty and nobody is processing it.  `HeldBy` ties the third set to those
  who use the queue: the keys that are processing are the ones that somebody holds, and nobody else holds them.

  Structure:
  1. `add`, `addAfter`, `promote` and `shutDown` keep a queue sound and leave the processing keys alone;
  2. `handOut` gives a key to a new holder, and by soundness it is a key that nobody holds;
  3. `done` takes a key from its holder, who has it, so it cannot be ready yet;
  4. asking for a key, once (`look`) or until there is one (`getWithin`), is promoting and then at most one
     `handOut`: that is `Given`, and 2 carries over.
-/
import Mathlib
import NetAttach.WorkQueue.Dispatch

namespace NetAttach

/-- The key that is handed out, if one is. -/
def Handout.key? {κ : Type} : Handout κ → Option κ
  | .key k => some k
  | _ => none

/-- A place in a list that is longer by one is the new last place, or it was there before. -/
theorem snoc_eq_append_cons {α : Type} {l before after : List α} {x o : α}
    (h : l ++ [o] = before ++ x :: after) :
    (after = [] ∧ before = l ∧ x = o) ∨ ∃ rest, after = rest ++ [o] ∧ l = before ++ x :: rest := by
  rcases List.eq_nil_or_concat' after with rfl | ⟨rest, last, rfl⟩
  · obtain ⟨hl, ho⟩ := List.append_inj' h rfl
    exact Or.inl ⟨rfl, hl.symm, (List.singleton_inj.mp ho).symm⟩
  · rw [← List.cons_append, ← List.append_assoc] at h
    obtain ⟨hl, ho⟩ := List.append_inj' h rfl
    obtain rfl := List.singleton_inj.mp ho
    exact Or.inr ⟨rest, rfl, hl⟩

namespace WorkQueue

variable {κ τ : Type} [DecidableEq κ]

/-! ## The three sets fit together -/

omit [DecidableEq κ] in
theorem nodup_snoc {keys : List κ} {key : κ} (h : keys.Nodup) (hk : key ∉ keys) :
    (keys ++ [key]).Nodup := by
  rw [← List.concat_eq_append]
  exact List.Nodup.concat hk h

/-- `Sound q`: the ready keys are the dirty ones that are not processing, each once. -/
structure Sound (q : WorkQueue κ τ) : Prop where
  ready_nodup : q.ready.Nodup
  dirty_nodup : q.dirty.Nodup
  processing_nodup : q.processing.Nodup
  mem_ready : ∀ k, k ∈ q.ready ↔ k ∈ q.dirty ∧ k ∉ q.processing

omit [DecidableEq κ] in
theorem sound_empty : Sound (empty : WorkQueue κ τ) :=
  ⟨List.nodup_nil, List.nodup_nil, List.nodup_nil, fun k => by simp [empty]⟩

omit [DecidableEq κ] in
/-- Soundness does not look at the delayed keys, nor at whether the queue is shutting down. -/
theorem Sound.congr {q r : WorkQueue κ τ} (h : Sound q) (hr : r.ready = q.ready)
    (hd : r.dirty = q.dirty) (hp : r.processing = q.processing) : Sound r :=
  ⟨hr ▸ h.ready_nodup, hd ▸ h.dirty_nodup, hp ▸ h.processing_nodup, fun k => by
    rw [hr, hd, hp]; exact h.mem_ready k⟩

theorem Sound.add {q : WorkQueue κ τ} (h : Sound q) (key : κ) : Sound (q.add key) := by
  unfold WorkQueue.add
  by_cases hd : q.shuttingDown || q.dirty.contains key
  · rw [if_pos hd]; exact h
  · rw [if_neg hd]
    have hdirty : key ∉ q.dirty := by
      intro hk
      exact hd (by simp [hk])
    by_cases hp : key ∈ q.processing
    · rw [if_pos (by simpa using hp)]
      refine ⟨h.ready_nodup, List.nodup_cons.mpr ⟨hdirty, h.dirty_nodup⟩, h.processing_nodup, ?_⟩
      intro k
      rw [List.mem_cons, h.mem_ready k]
      constructor
      · rintro ⟨hk, hn⟩; exact ⟨Or.inr hk, hn⟩
      · rintro ⟨rfl | hk, hn⟩
        · exact absurd hp hn
        · exact ⟨hk, hn⟩
    · rw [if_neg (by simpa using hp)]
      have hready : key ∉ q.ready := fun hk => hdirty ((h.mem_ready key).mp hk).1
      refine ⟨?_, List.nodup_cons.mpr ⟨hdirty, h.dirty_nodup⟩, h.processing_nodup, ?_⟩
      · exact nodup_snoc h.ready_nodup hready
      · intro k
        rw [List.mem_append, List.mem_singleton, List.mem_cons, h.mem_ready k]
        constructor
        · rintro (⟨hk, hn⟩ | rfl)
          · exact ⟨Or.inr hk, hn⟩
          · exact ⟨Or.inl rfl, hp⟩
        · rintro ⟨rfl | hk, hn⟩
          · exact Or.inr rfl
          · exact Or.inl ⟨hk, hn⟩

section Delays

variable [LE τ] [DecidableLE τ]

theorem Sound.addAfter [Add τ] [Zero τ] {q : WorkQueue κ τ} (h : Sound q) (now : τ) (key : κ)
    (delay : τ) : Sound (q.addAfter now key delay) := by
  unfold WorkQueue.addAfter
  split
  · exact h.add key
  · split
    · exact h
    · exact h.congr rfl rfl rfl

@[simp] theorem processing_addAfter [Add τ] [Zero τ] (q : WorkQueue κ τ) (now : τ) (key : κ)
    (delay : τ) : (q.addAfter now key delay).processing = q.processing := by
  unfold WorkQueue.addAfter
  split
  · exact processing_add q key
  · split <;> rfl

theorem promoteFrom_induct {P : WorkQueue κ τ → Prop} (hadd : ∀ r key, P r → P (r.add key))
    (hwaiting : ∀ r waiting, P r → P { r with waiting }) (now : τ) :
    ∀ (waiting : List (Delayed κ τ)) {q : WorkQueue κ τ}, P q → P (promoteFrom now waiting q)
  | [], q, h => hwaiting q [] h
  | e :: rest, q, h => by
    unfold WorkQueue.promoteFrom
    split
    · exact promoteFrom_induct hadd hwaiting now rest (hadd q e.key h)
    · exact hwaiting q (e :: rest) h

/-- What is true of a queue, whatever is delayed, and is kept by adding keys is kept by promoting them. -/
theorem promote_induct {P : WorkQueue κ τ → Prop} (hadd : ∀ r key, P r → P (r.add key))
    (hwaiting : ∀ r waiting, P r → P { r with waiting }) {q : WorkQueue κ τ} (h : P q) (now : τ) :
    P (q.promote now) :=
  promoteFrom_induct hadd hwaiting now q.waiting h

theorem Sound.promote {q : WorkQueue κ τ} (h : Sound q) (now : τ) : Sound (q.promote now) :=
  promote_induct (fun _ key hr => hr.add key) (fun _ _ hr => hr.congr rfl rfl rfl) h now

@[simp] theorem processing_promote (q : WorkQueue κ τ) (now : τ) :
    (q.promote now).processing = q.processing := by
  have hadd : ∀ (r : WorkQueue κ τ) key, r.processing = q.processing →
      (r.add key).processing = q.processing := fun r key hr => (processing_add r key).trans hr
  exact promote_induct hadd (fun _ _ hr => hr) rfl now

end Delays

omit [DecidableEq κ] in
theorem Sound.shutDown {q : WorkQueue κ τ} (h : Sound q) : Sound q.shutDown := h.congr rfl rfl rfl

/-! ## Handing out and being done -/

/-- Everything that handing out does: the first ready key is neither ready nor dirty any more, and it is
processing. -/
theorem handOut_eq_some {q q' : WorkQueue κ τ} {key : κ} (h : q.handOut = some (key, q')) :
    q.ready = key :: q'.ready ∧ q'.dirty = q.dirty.erase key ∧
      q'.processing = q.processing.insert key ∧ q'.waiting = q.waiting ∧
      q'.shuttingDown = q.shuttingDown := by
  unfold handOut at h
  split at h
  · cases h
  · rename_i k rest hr
    cases h
    exact ⟨hr, rfl, rfl, rfl, rfl⟩

theorem handOut_eq_none {q : WorkQueue κ τ} (h : q.handOut = none) : q.ready = [] := by
  unfold handOut at h
  split at h
  · assumption
  · cases h

theorem Sound.handOut {q q' : WorkQueue κ τ} {key : κ} (h : Sound q)
    (ho : q.handOut = some (key, q')) : Sound q' := by
  obtain ⟨hr, hd, hp, -, -⟩ := handOut_eq_some ho
  have hnodup := h.ready_nodup
  rw [hr, List.nodup_cons] at hnodup
  refine ⟨hnodup.2, hd ▸ h.dirty_nodup.erase key, hp ▸ h.processing_nodup.insert, ?_⟩
  intro k
  rw [hd, hp, h.dirty_nodup.mem_erase_iff, List.mem_insert_iff]
  -- `hk` says of the queue before what is to be shown of the queue after
  have hk := h.mem_ready k
  rw [hr, List.mem_cons] at hk
  constructor
  · intro hm
    obtain ⟨hkd, hkp⟩ := hk.mp (Or.inr hm)
    have hne : k ≠ key := fun he => hnodup.1 (he ▸ hm)
    exact ⟨⟨hne, hkd⟩, fun h => h.elim hne hkp⟩
  · rintro ⟨⟨hne, hkd⟩, hkp⟩
    exact (hk.mpr ⟨hkd, fun hm => hkp (Or.inr hm)⟩).resolve_left hne

/-- A key that is handed out was not being processed. -/
theorem Sound.not_mem_processing_of_handOut {q q' : WorkQueue κ τ} {key : κ} (h : Sound q)
    (ho : q.handOut = some (key, q')) : key ∉ q.processing := by
  have hr := (handOut_eq_some ho).1
  exact ((h.mem_ready key).mp (by rw [hr]; exact List.mem_cons_self)).2

theorem Sound.done {q : WorkQueue κ τ} {key : κ} (h : Sound q) (hkey : key ∈ q.processing) :
    Sound (q.done key) := by
  -- the holder has the key, so it is not ready yet and may be put there
  have hready : key ∉ q.ready := fun hk => ((h.mem_ready key).mp hk).2 hkey
  refine ⟨?_, h.dirty_nodup, h.processing_nodup.erase key, ?_⟩
  · show (if q.dirty.contains key then q.ready ++ [key] else q.ready).Nodup
    split
    · exact nodup_snoc h.ready_nodup hready
    · exact h.ready_nodup
  · intro k
    show k ∈ (if q.dirty.contains key then q.ready ++ [key] else q.ready) ↔
      k ∈ q.dirty ∧ k ∉ q.processing.erase key
    rw [h.processing_nodup.mem_erase_iff]
    by_cases hk : k = key
    · subst hk
      by_cases hd : k ∈ q.dirty <;> simp [hd, hready]
    · have hm : k ∈ (if q.dirty.contains key then q.ready ++ [key] else q.ready) ↔ k ∈ q.ready := by
        split <;> simp [hk]
      rw [hm, h.mem_ready k]
      simp [hk]

/-! ## Who holds which key -/

/-- `HeldBy q holds`: the processing keys are those that somebody holds, and each has one holder. -/
structure HeldBy {ι : Type} (q : WorkQueue κ τ) (holds : ι → κ → Prop) : Prop where
  mem_processing : ∀ k, k ∈ q.processing ↔ ∃ i, holds i k
  unique : ∀ i j k, holds i k → holds j k → i = j

variable {ι : Type} {holds : ι → κ → Prop}

omit [DecidableEq κ] in
theorem HeldBy.congr {q r : WorkQueue κ τ} (h : HeldBy q holds) (hp : r.processing = q.processing) :
    HeldBy r holds :=
  ⟨fun k => by rw [hp]; exact h.mem_processing k, h.unique⟩

omit [DecidableEq κ] in
theorem HeldBy.of_iff {q : WorkQueue κ τ} {holds' : ι → κ → Prop} (h : HeldBy q holds)
    (hiff : ∀ i k, holds' i k ↔ holds i k) : HeldBy q holds' := by
  have he : holds' = holds := funext fun i => funext fun k => propext (hiff i k)
  exact he ▸ h

theorem HeldBy.handOut {q q' : WorkQueue κ τ} {key : κ} (h : HeldBy q holds) (hs : Sound q)
    (ho : q.handOut = some (key, q')) (w : ι) :
    (∀ i, ¬holds i key) ∧ HeldBy q' (fun i k => holds i k ∨ i = w ∧ k = key) := by
  have hfree : ∀ i, ¬holds i key := fun i hi =>
    hs.not_mem_processing_of_handOut ho ((h.mem_processing key).mpr ⟨i, hi⟩)
  refine ⟨hfree, ?_, ?_⟩
  · intro k
    rw [(handOut_eq_some ho).2.2.1, List.mem_insert_iff, h.mem_processing k]
    constructor
    · rintro (rfl | ⟨i, hi⟩)
      · exact ⟨w, Or.inr ⟨rfl, rfl⟩⟩
      · exact ⟨i, Or.inl hi⟩
    · rintro ⟨i, hi | ⟨-, hk⟩⟩
      · exact Or.inr ⟨i, hi⟩
      · exact Or.inl hk
  · rintro i j k (hi | ⟨hi, rfl⟩) (hj | ⟨hj, hk⟩)
    · exact h.unique i j k hi hj
    · exact absurd (hk ▸ hi) (hfree i)
    · exact absurd hj (hfree j)
    · exact hi.trans hj.symm

theorem HeldBy.done {q : WorkQueue κ τ} {key : κ} (h : HeldBy q holds) (hs : Sound q) :
    HeldBy (q.done key) (fun i k => holds i k ∧ k ≠ key) := by
  refine ⟨?_, fun i j k hi hj => h.unique i j k hi.1 hj.1⟩
  intro k
  show k ∈ q.processing.erase key ↔ _
  rw [hs.processing_nodup.mem_erase_iff, h.mem_processing k]
  constructor
  · rintro ⟨hne, i, hi⟩; exact ⟨i, hi, hne⟩
  · rintro ⟨i, hi, hne⟩; exact ⟨hne, i, hi⟩

/-! ## Asking for a key -/

/-- The key that was found by looking once. -/
def Look.key? : Look κ τ → Option κ
  | .answer h => h.key?
  | .wait _ => none

/-- `Given q given q'`: from `q` on, at most one key was handed out, which is `given`, and `q'` is left.
Whatever came before was about keys that nobody holds. -/
def Given (q : WorkQueue κ τ) (given : Option κ) (q' : WorkQueue κ τ) : Prop :=
  ∃ r, Sound r ∧ r.processing = q.processing ∧
    match given with
    | some key => r.handOut = some (key, q')
    | none => q' = r

theorem Given.sound {q q' : WorkQueue κ τ} {given : Option κ} (h : Given q given q') : Sound q' := by
  obtain ⟨r, hr, -, hg⟩ := h
  cases given with
  | none => exact hg ▸ hr
  | some key => exact hr.handOut hg

/-- A key that is given is not held by anyone, and then it is held by the one who asked. -/
theorem Given.heldBy {q q' : WorkQueue κ τ} {given : Option κ} (hg : Given q given q')
    (h : HeldBy q holds) (w : ι) :
    (∀ key, given = some key → ∀ i, ¬holds i key) ∧
      HeldBy q' (fun i k => holds i k ∨ i = w ∧ given = some k) := by
  obtain ⟨r, hr, hp, hg⟩ := hg
  cases given with
  | none =>
    subst hg
    refine ⟨fun key hk => absurd hk (by simp), ?_⟩
    simpa using h.congr hp
  | some key =>
    obtain ⟨hfree, hheld⟩ := (h.congr hp).handOut hr hg w
    refine ⟨fun k hk => Option.some.inj hk ▸ hfree, ?_⟩
    simpa only [Option.some.injEq, eq_comm] using hheld

section Looking

variable [Sub τ] [Zero τ] [LE τ] [DecidableLE τ] [LT τ] [DecidableLT τ]

/-- The three things that looking for a key can come to. -/
theorem look_cases (deadline : Option τ) (q : WorkQueue κ τ) (now : τ) :
    (q.shuttingDown = true ∧ q.look deadline now = (.answer .nothing, q)) ∨
    (q.shuttingDown = false ∧ ∃ key q', (q.promote now).handOut = some (key, q') ∧
      q.look deadline now = (.answer (.key key), q')) ∨
    (q.shuttingDown = false ∧ (q.promote now).ready = [] ∧
      ∃ l : Look κ τ, l.key? = none ∧ q.look deadline now = (l, q.promote now)) := by
  cases hs : q.shuttingDown with
  | true => exact Or.inl ⟨rfl, by simp [look, hs]⟩
  | false =>
    cases ho : (q.promote now).handOut with
    | some p =>
      obtain ⟨key, q'⟩ := p
      exact Or.inr (Or.inl ⟨rfl, key, q', rfl, by simp [look, hs, ho]⟩)
    | none =>
      refine Or.inr (Or.inr ⟨rfl, handOut_eq_none ho, ?_⟩)
      cases hp : (q.promote now).pause deadline now with
      | expired => exact ⟨.answer .nothing, rfl, by simp [look, hs, ho, hp]⟩
      | forever => exact ⟨.answer .blocked, rfl, by simp [look, hs, ho, hp]⟩
      | span d => exact ⟨.wait d, rfl, by simp [look, hs, ho, hp]⟩

theorem Sound.look_given {q : WorkQueue κ τ} (h : Sound q) (deadline : Option τ) (now : τ) :
    Given q (q.look deadline now).1.key? (q.look deadline now).2 := by
  rcases look_cases deadline q now with ⟨-, hl⟩ | ⟨-, key, q', ho, hl⟩ | ⟨-, -, l, hk, hl⟩
  · rw [hl]; exact ⟨q, h, rfl, rfl⟩
  · rw [hl]; exact ⟨q.promote now, h.promote now, processing_promote q now, ho⟩
  · rw [hl, hk]; exact ⟨q.promote now, h.promote now, processing_promote q now, rfl⟩

/-- The same for a worker that waits: by induction on how often it looks. -/
theorem Sound.getWithin_given [Add τ] (deadline : Option τ) :
    ∀ (looks : Nat) {q : WorkQueue κ τ} (now : τ), Sound q →
      Given q (getWithin deadline looks q now).1.key? (getWithin deadline looks q now).2.1
  | 0, q, _, h => ⟨q, h, rfl, rfl⟩
  | looks + 1, q, now, h => by
    have hl := h.look_given deadline now
    unfold getWithin
    split
    · rename_i answer q' ho
      rw [ho] at hl
      exact hl
    · rename_i d q' ho
      rw [ho] at hl
      obtain ⟨r, hr, hp, hq⟩ := hl
      obtain rfl : q' = r := hq
      obtain ⟨r', hr', hp', hg⟩ := Sound.getWithin_given deadline looks (now + d) hr
      exact ⟨r', hr', hp'.trans hp, hg⟩

theorem Sound.get_given [Add τ] {q : WorkQueue κ τ} (h : Sound q) (now : τ) (timeout : Option τ) :
    Given q (q.get now timeout).1.key? (q.get now timeout).2.1 :=
  Sound.getWithin_given _ _ now h

end Looking

end WorkQueue

end NetAttach
