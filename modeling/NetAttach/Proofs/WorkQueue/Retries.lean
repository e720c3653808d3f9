/-
  How often a key is tried before it is dropped.

  The count of failures of a key lives beside the queue, and dealing with a failed attempt takes several moves:
  the count is read, then raised or cleared, and other workers go on in between.  A `Shift` is a crew at work
  together with what was seen of it: which attempts ended and how, and which keys were dropped.

  Structure:
  1. `Orderly` is the grammar of the log of a key: an attempt that is the last one that the key is allowed to
     fail in a row is followed by a drop for its cause, and all other attempts stand alone.  Where drops stand
     in such a log is read off it (`Orderly.dropped_follows`, `Orderly.dropped_at`);
  2. `Standing` says how log and count of a key fit together, by where the worker stands who has the key; one
     move keeps that (`standing_move`), since no other worker touches the count of a key that somebody has;
  3. `Deed.perform`: what is seen comes together with what is done to the subject, so that a drop in the log is
     one that somebody was told of (`performed_run`);
  4. `Balanced`: every key is in such a standing, at every point of every shift (`balanced_run`);
  5. so the count is the number of failures in a row whenever no attempt is being settled, it stays below the
     ceiling, and a key is dropped exactly when it gets there (`dropped_at_ceiling`).
-/
import NetAttach.Proofs.WorkQueue.Crew

namespace NetAttach

/-! ## The log of a key -/

/-- What is seen of the work on keys: an attempt ends, in a failure or not, or a key is dropped. -/
inductive Trial (κ : Type) where
  | ended (key : κ) (cause : Option Failure)
  | dropped (d : Drop κ)
deriving DecidableEq

namespace Trial

variable {κ : Type}

/-- The key that is tried. -/
def key : Trial κ → κ
  | ended key _ => key
  | dropped d => d.key

/-- An attempt has failed. -/
def isFailure : Trial κ → Bool
  | ended _ (some _) => true
  | _ => false

/-- How many attempts have failed since the last success or drop. -/
def failures (log : List (Trial κ)) : Nat := (log.rtakeWhile isFailure).length

@[simp] theorem failures_nil : failures ([] : List (Trial κ)) = 0 := by simp [failures]

theorem failures_snoc_failed (log : List (Trial κ)) (key : κ) (cause : Failure) :
    failures (log ++ [.ended key (some cause)]) = failures log + 1 := by
  unfold failures
  rw [List.rtakeWhile_concat_pos _ _ _ rfl, List.length_append, List.length_singleton]

theorem failures_snoc {o : Trial κ} (h : o.isFailure = false) (log : List (Trial κ)) :
    failures (log ++ [o]) = 0 := by
  unfold failures
  rw [List.rtakeWhile_concat_neg _ _ _ (by simp [h]), List.length_nil]

/-- `Orderly ceiling key log`: in the log of a key whose attempts are all settled, an attempt that fails for
the `ceiling`-th time in a row is followed by a drop for its cause, and nothing else is. -/
inductive Orderly (ceiling : Int) (key : κ) : List (Trial κ) → Prop where
  | nil : Orderly ceiling key []
  | succeed {log : List (Trial κ)} : Orderly ceiling key log → Orderly ceiling key (log ++ [.ended key none])
  | retry {log : List (Trial κ)} {cause : Failure} : Orderly ceiling key log →
    (failures log + 1 : Int) < ceiling → Orderly ceiling key (log ++ [.ended key (some cause)])
  | drop {log : List (Trial κ)} {cause : Failure} : Orderly ceiling key log →
    (failures log + 1 : Int) = ceiling →
    Orderly ceiling key (log ++ [.ended key (some cause)] ++ [.dropped ⟨key, cause⟩])

variable {ceiling : Int} {key : κ} {log : List (Trial κ)}

theorem Orderly.failures_lt (h : Orderly ceiling key log) (hc : 1 ≤ ceiling) :
    (failures log : Int) < ceiling := by
  cases h with
  | nil =>
    rw [failures_nil]
    omega
  | succeed h =>
    rw [failures_snoc rfl]
    omega
  | retry h hlt =>
    rw [failures_snoc_failed]
    exact_mod_cast hlt
  | drop h heq =>
    rw [failures_snoc rfl]
    omega

/-- A drop comes right behind a failure with its cause, the `ceiling`-th in a row. -/
theorem Orderly.dropped_follows (h : Orderly ceiling key log) {before after : List (Trial κ)} {d : Drop κ}
    (hlog : log = before ++ .dropped d :: after) :
    ∃ earlier cause, d = ⟨key, cause⟩ ∧ before = earlier ++ [.ended key (some cause)] ∧
      (failures earlier + 1 : Int) = ceiling := by
  induction h generalizing after with
  | nil => exact absurd hlog (by simp)
  | succeed h ih | retry h hlt ih =>
    rcases snoc_eq_append_cons hlog with ⟨-, -, ho⟩ | ⟨rest, -, hl⟩
    · exact nomatch ho
    · exact ih hl
  | @drop log cause h heq ih =>
    rcases snoc_eq_append_cons hlog with ⟨-, hb, ho⟩ | ⟨rest, -, hl⟩
    · cases ho
      exact ⟨log, cause, rfl, hb, heq⟩
    · rcases snoc_eq_append_cons hl with ⟨-, -, ho⟩ | ⟨rest', -, hl'⟩
      · exact nomatch ho
      · exact ih hl'

/-- Right behind the `ceiling`-th failure in a row comes a drop with its cause. -/
theorem Orderly.dropped_at (h : Orderly ceiling key log) {before after : List (Trial κ)} {k : κ}
    {cause : Failure} (hlog : log = before ++ .ended k (some cause) :: after)
    (hb : (failures before + 1 : Int) = ceiling) : after.head? = some (.dropped ⟨key, cause⟩) := by
  induction h generalizing after with
  | nil => exact absurd hlog (by simp)
  | succeed h ih =>
    rcases snoc_eq_append_cons hlog with ⟨-, -, ho⟩ | ⟨rest, rfl, hl⟩
    · exact nomatch ho
    · rw [List.head?_append, ih hl, Option.some_or]
  | retry h hlt ih =>
    rcases snoc_eq_append_cons hlog with ⟨-, rfl, -⟩ | ⟨rest, rfl, hl⟩
    · exact absurd hb (by omega)
    · rw [List.head?_append, ih hl, Option.some_or]
  | @drop log cause' h heq ih =>
    -- the drop is the last one, and the failure is right before it or somewhere before that
    rcases snoc_eq_append_cons hlog with ⟨-, -, ho⟩ | ⟨rest, rfl, hl⟩
    · exact nomatch ho
    · rcases snoc_eq_append_cons hl with ⟨rfl, -, ho⟩ | ⟨rest', rfl, hl'⟩
      · cases ho
        rfl
      · rw [List.head?_append, List.head?_append, ih hl', Option.some_or, Option.some_or]

/-! ## How the log and the count fit together -/

variable {τ ρ σ : Type} {count : Nat}

/-- An attempt has ended with an outcome that has not been dealt with. -/
def Unsettled (ceiling : Int) (key : κ) (log : List (Trial κ)) (count : Nat) (cause : Option Failure) : Prop :=
  ∃ before, log = before ++ [.ended key cause] ∧ Orderly ceiling key before ∧ count = failures before

/-- How the log and the count of a key fit together, by where the worker stands who has the key. -/
def Standing (ceiling : Int) (key : κ) (log : List (Trial κ)) (count : Nat) : Option (Stage κ τ ρ) → Prop
  | none | some .free | some (.busy _ _) | some (.delaying _ _) | some (.leaving _) =>
    Orderly ceiling key log ∧ count = failures log
  | some (.succeeded _) => Unsettled ceiling key log count none
  | some (.failed _ cause) => Unsettled ceiling key log count (some cause)
  | some (.retrying _) => Orderly ceiling key log ∧ count + 1 = failures log
  | some (.surrendering _ cause) =>
    Unsettled ceiling key log count (some cause) ∧ (count + 1 : Int) = ceiling
  | some (.reporting _ cause) =>
    ∃ before, log = before ++ [.ended key (some cause)] ∧ Orderly ceiling key before ∧
      (failures before + 1 : Int) = ceiling ∧ count = 0

variable {holder : Option (Stage κ τ ρ)}

theorem Standing.count_lt (h : Standing ceiling key log count holder) (hc : 1 ≤ ceiling) :
    (count : Int) < ceiling := by
  match holder, h with
  | none, ⟨ho, hcount⟩ | some .free, ⟨ho, hcount⟩ | some (.busy _ _), ⟨ho, hcount⟩
  | some (.delaying _ _), ⟨ho, hcount⟩ | some (.leaving _), ⟨ho, hcount⟩ =>
    rw [hcount]
    exact ho.failures_lt hc
  | some (.succeeded _), ⟨_, _, ho, hcount⟩ | some (.failed _ _), ⟨_, _, ho, hcount⟩
  | some (.surrendering _ _), ⟨⟨_, _, ho, hcount⟩, _⟩ =>
    rw [hcount]
    exact ho.failures_lt hc
  | some (.retrying _), ⟨ho, hcount⟩ =>
    have hlt := ho.failures_lt hc
    omega
  | some (.reporting _ _), ⟨_, _, _, _, hcount⟩ => omega

/-- Either all attempts are settled, or the last one is not, and a worker has the key. -/
theorem Standing.orderly (h : Standing ceiling key log count holder) :
    Orderly ceiling key log ∨
      ∃ s before cause, holder = some s ∧ log = before ++ [.ended key cause] ∧ Orderly ceiling key before := by
  match holder, h with
  | none, ⟨ho, _⟩ | some .free, ⟨ho, _⟩ | some (.busy _ _), ⟨ho, _⟩ | some (.delaying _ _), ⟨ho, _⟩
  | some (.leaving _), ⟨ho, _⟩ | some (.retrying _), ⟨ho, _⟩ => exact Or.inl ho
  | some (.succeeded _), ⟨before, hlog, ho, _⟩ | some (.failed _ _), ⟨before, hlog, ho, _⟩
  | some (.surrendering _ _), ⟨⟨before, hlog, ho, _⟩, _⟩ | some (.reporting _ _), ⟨before, hlog, ho, _, _⟩ =>
    exact Or.inr ⟨_, before, _, rfl, hlog, ho⟩

end Trial

/-! ## One move -/

/-- What workers do to the subject: they go on with an attempt at a key, or tell that a key was dropped. -/
inductive Deed (κ ρ : Type) where
  | process (key : κ) (point : ρ)
  | report (d : Drop κ)

/-- Do something to the subject, and note in the log what is seen of it: an attempt that comes to its end, or a
drop that was told of. -/
def Deed.perform {κ ρ σ : Type} (r : Routine κ ρ σ) (x : σ × List (Trial κ)) : Deed κ ρ → σ × List (Trial κ)
  | process key point =>
    match r.move point x.1 with
    | (.resume _, subject) => (subject, x.2)
    | (.finish cause, subject) => (subject, x.2 ++ [.ended key cause])
  | report d => (r.onDrop d x.1, x.2 ++ [.dropped d])

namespace Stage

variable {κ τ ρ σ : Type} [DecidableEq κ]

/-- What the next move of a worker does to the subject, if anything. -/
def deed? : Stage κ τ ρ → Option (Deed κ ρ)
  | busy key point => some (.process key point)
  | reporting key cause => some (.report ⟨key, cause⟩)
  | _ => none

/-- What is seen of the next move of a worker. -/
def seen (r : Routine κ ρ σ) (subject : σ) : Stage κ τ ρ → List (Trial κ)
  | busy key point =>
    match (r.move point subject).1 with
    | .resume _ => []
    | .finish cause => [.ended key cause]
  | reporting key cause => [.dropped ⟨key, cause⟩]
  | _ => []

omit [DecidableEq κ] in
theorem key_of_mem_seen {r : Routine κ ρ σ} {subject : σ} {s : Stage κ τ ρ} {o : Trial κ}
    (h : o ∈ s.seen r subject) : s.key? = some o.key := by
  cases s with
  | busy key point =>
    simp only [seen] at h
    split at h
    · exact absurd h List.not_mem_nil
    · rw [List.mem_singleton.mp h]
      rfl
  | reporting key cause =>
    rw [List.mem_singleton.mp h]
    rfl
  | _ => exact absurd h List.not_mem_nil

variable [Add τ] [Zero τ] [LE τ] [DecidableLE τ] [LT τ] [DecidableLT τ]

/-- A move does its deed to the subject, and what is seen of it is what is seen of the deed. -/
theorem perform_move (r : Routine κ ρ σ) (s : Stage κ τ ρ) (w : Workplace κ τ σ) (log : List (Trial κ)) :
    ((s.move r w).2.subject, log ++ s.seen r w.subject) =
      s.deed?.toList.foldl (Deed.perform r) (w.subject, log) := by
  cases s with
  | busy key point =>
    cases hm : r.move point w.subject with
    | mk progress subject =>
      rcases progress with _ | _ | _ <;> simp [deed?, Deed.perform, move, seen, hm]
  | _ => simp [deed?, Deed.perform, move, seen, Workplace.forget, Workplace.addAfter, Workplace.done]

/-- Three moves touch the counts of failures, each at the key of the worker. -/
theorem backoff_move (r : Routine κ ρ σ) (s : Stage κ τ ρ) (w : Workplace κ τ σ) :
    (s.move r w).2.backoff =
      match s with
      | succeeded key | surrendering key _ => w.backoff.forget key
      | retrying key => (w.backoff.fail key).2
      | _ => w.backoff := by
  cases s with
  | busy key point =>
    simp only [move]
    split <;> rfl
  | delaying key delay =>
    simp only [move, Workplace.addAfter]
  | _ => rfl

/-- The counts of other keys stay as they are. -/
theorem count_move_of_ne (r : Routine κ ρ σ) {s : Stage κ τ ρ} {key k : κ} (hs : s.key? = some key)
    (hk : k ≠ key) (w : Workplace κ τ σ) : (s.move r w).2.backoff.count k = w.backoff.count k := by
  rw [backoff_move]
  cases s with
  | succeeded key' | surrendering key' cause =>
    obtain rfl : key' = key := Option.some.inj hs
    exact (Backoff.count_forget w.backoff key' k).trans (if_neg hk)
  | retrying key' =>
    obtain rfl : key' = key := Option.some.inj hs
    exact (Backoff.count_fail w.backoff key' k).trans (if_neg hk)
  | _ => rfl

open Trial (Orderly Standing failures)

/-- A move keeps the standing of the key that the worker has. -/
theorem standing_move {r : Routine κ ρ σ} (hr : 1 ≤ r.maxRetries) {s : Stage κ τ ρ} {key : κ}
    (hs : s.key? = some key) (w : Workplace κ τ σ) {log : List (Trial κ)}
    (h : Standing r.maxRetries key log (w.backoff.count key) (some s)) :
    Standing r.maxRetries key (log ++ s.seen r w.subject) ((s.move r w).2.backoff.count key)
      (s.move r w).1.holding := by
  rw [backoff_move]
  cases s with
  | free => exact nomatch hs
  | busy k point =>
    obtain rfl : k = key := Option.some.inj hs
    cases hm : r.move point w.subject with
    | mk progress subject =>
      cases progress with
      | resume point' =>
        simp only [seen, move, hm, holding, List.append_nil]
        exact h
      | finish cause =>
        -- the attempt ends, and what was the whole log is the log before it
        cases cause <;>
          · simp only [seen, move, hm, holding]
            exact ⟨log, rfl, h⟩
  | succeeded k =>
    obtain rfl : k = key := Option.some.inj hs
    obtain ⟨before, rfl, ho, -⟩ := h
    show Standing _ _ (before ++ [.ended k none] ++ []) ((w.backoff.forget k).count k) (some (.leaving k))
    rw [List.append_nil, Backoff.count_forget, if_pos rfl]
    exact ⟨ho.succeed, (Trial.failures_snoc rfl before).symm⟩
  | failed k cause =>
    obtain rfl : k = key := Option.some.inj hs
    have hlt := h.count_lt hr
    obtain ⟨before, rfl, ho, hcount⟩ := h
    show Standing _ _ (before ++ [.ended k (some cause)] ++ []) (w.backoff.count k)
      (holding (if (w.backoff.count k + 1 : Int) < r.maxRetries then retrying k else surrendering k cause))
    rw [List.append_nil]
    -- the ceiling is asked for here, and `hlt` leaves nothing above it
    split
    · rename_i hretry
      rw [hcount] at hretry ⊢
      exact ⟨ho.retry hretry, (Trial.failures_snoc_failed before k cause).symm⟩
    · exact ⟨⟨before, rfl, ho, hcount⟩, by omega⟩
  | retrying k =>
    obtain rfl : k = key := Option.some.inj hs
    obtain ⟨ho, hcount⟩ := h
    show Standing _ _ (log ++ []) ((w.backoff.fail k).2.count k) (some (.delaying k _))
    rw [List.append_nil, Backoff.count_fail, if_pos rfl]
    exact ⟨ho, hcount⟩
  | delaying k delay =>
    obtain rfl : k = key := Option.some.inj hs
    show Standing _ _ (log ++ []) (w.backoff.count k) (some (.leaving k))
    rw [List.append_nil]
    exact h
  | surrendering k cause =>
    obtain rfl : k = key := Option.some.inj hs
    obtain ⟨⟨before, rfl, ho, hcount⟩, hceiling⟩ := h
    show Standing _ _ (before ++ [.ended k (some cause)] ++ []) ((w.backoff.forget k).count k)
      (some (.reporting k cause))
    rw [List.append_nil, Backoff.count_forget, if_pos rfl]
    exact ⟨before, rfl, ho, hcount ▸ hceiling, rfl⟩
  | reporting k cause =>
    obtain rfl : k = key := Option.some.inj hs
    obtain ⟨before, rfl, ho, hceiling, hcount⟩ := h
    show Standing _ _ (before ++ [.ended k (some cause)] ++ [.dropped ⟨k, cause⟩]) (w.backoff.count k)
      (some (.leaving k))
    exact ⟨ho.drop hceiling, hcount.trans (Trial.failures_snoc rfl _).symm⟩
  | leaving k =>
    obtain rfl : k = key := Option.some.inj hs
    show Standing _ _ (log ++ []) (w.backoff.count k) none
    rw [List.append_nil]
    exact h

end Stage

/-! ## A shift -/

/-- A crew at work, and what was seen of its work. -/
structure Shift (κ τ ρ σ : Type) where
  crew : Crew κ τ ρ σ
  history : List (Trial κ)

/-- What happens next. -/
inductive ShiftStep (κ τ : Type) where
  | add (key : κ)
  | addAfter (key : κ) (delay : τ)
  | look (worker : Nat) (deadline : Option τ)
  | move (worker : Nat)
  | pass (d : τ)
  | shutDown

namespace Shift

open Trial (Orderly Standing failures)

variable {κ τ ρ σ : Type} [DecidableEq κ]

/-- The place where the workers are. -/
def place (s : Shift κ τ ρ σ) : Workplace κ τ σ := s.crew.place

/-- Nothing has been done yet. -/
def new (base limit now : τ) (subject : σ) : Shift κ τ ρ σ := ⟨.new (.new base limit now subject), []⟩

/-- Put the workers to another place. -/
def moveTo (s : Shift κ τ ρ σ) (place : Workplace κ τ σ) : Shift κ τ ρ σ :=
  { s with crew := { s.crew with place } }

/-- What was seen of the work on one key. -/
def log (s : Shift κ τ ρ σ) (key : κ) : List (Trial κ) := s.history.filter fun o => o.key = key

/-- How often a key has failed, by the record at the place. -/
def count (s : Shift κ τ ρ σ) (key : κ) : Nat := s.place.backoff.count key

/-- The crew is staffed, and the log and the count of every key fit together. -/
structure Balanced (ceiling : Int) (s : Shift κ τ ρ σ) : Prop where
  staffed : s.crew.Staffed
  standing : s.crew.Each fun key holder => Standing ceiling key (s.log key) (s.count key) holder

theorem balanced_new (ceiling : Int) (base limit now : τ) (subject : σ) :
    Balanced ceiling (new base limit now subject : Shift κ τ ρ σ) := by
  refine ⟨Crew.staffed_new rfl, fun key => ⟨none, fun worker => ?_, .nil, ?_⟩⟩
  · simp [new, Crew.new, Crew.Has, Stage.key?]
  · exact Trial.failures_nil.symm

variable {ceiling : Int}

/-- What only concerns the queue touches neither logs nor counts. -/
theorem Balanced.of_queue {s : Shift κ τ ρ σ} (h : Balanced ceiling s) (place : Workplace κ τ σ)
    (hb : place.backoff = s.place.backoff) (hs : place.queue.Sound)
    (hp : place.queue.processing = s.place.queue.processing) : Balanced ceiling (s.moveTo place) := by
  refine ⟨h.staffed.of_place hs hp, ?_⟩
  have hcount : (s.moveTo place).count = s.count := by
    funext key
    show place.backoff.count key = s.place.backoff.count key
    rw [hb]
  rw [hcount]
  exact h.standing.of_place place

variable [Add τ] [Sub τ] [Zero τ] [LE τ] [DecidableLE τ] [LT τ] [DecidableLT τ]

/-- One step: somebody adds a key, a worker looks for one or makes its next move, time goes by, or the queue
is shut down. -/
def step (r : Routine κ ρ σ) (s : Shift κ τ ρ σ) : ShiftStep κ τ → Shift κ τ ρ σ
  | .add key => s.moveTo (s.place.add key)
  | .addAfter key delay => s.moveTo (s.place.addAfter key delay)
  | .look worker deadline => { s with crew := s.crew.look r worker deadline }
  | .move worker =>
    { crew := s.crew.move r worker
      history := s.history ++ (s.crew.stage worker).seen r s.place.subject }
  | .pass d => s.moveTo (s.place.advance d)
  | .shutDown => s.moveTo s.place.shutDown

/-- One step after another. -/
def run (r : Routine κ ρ σ) (s : Shift κ τ ρ σ) (steps : List (ShiftStep κ τ)) : Shift κ τ ρ σ :=
  steps.foldl (step r) s

theorem Balanced.look {s : Shift κ τ ρ σ} (h : Balanced ceiling s) (r : Routine κ ρ σ) (worker : Nat)
    (deadline : Option τ) : Balanced ceiling (s.step r (.look worker deadline)) := by
  show Balanced ceiling { s with crew := s.crew.look r worker deadline }
  rcases Crew.look_cases r worker deadline s.crew with hl | ⟨hfree, key, queue, ho, hl⟩ | hl
  · rw [hl]
    exact h
  · rw [hl]
    have hg : s.place.queue.Given (some key) queue :=
      ⟨_, h.staffed.sound.promote _, WorkQueue.processing_promote _ _, ho⟩
    have hnone : ∀ i, ¬s.crew.Has i key := (hg.heldBy h.staffed.heldBy worker).1 key rfl
    refine ⟨h.staffed.receive r hfree hg, ?_⟩
    -- a worker who has just taken the key stands to its log as nobody did before
    exact h.standing.receive r hfree hnone queue (fun hp => hp) (fun _ _ _ hp => hp)
  · rw [hl]
    exact h.of_queue _ rfl (h.staffed.sound.promote _) (WorkQueue.processing_promote _ _)

theorem step_move_of_free (r : Routine κ ρ σ) {s : Shift κ τ ρ σ} {worker : Nat}
    (h : (s.crew.stage worker).key? = none) : s.step r (.move worker) = s := by
  have hfree := Stage.eq_free_of_key? h
  show (⟨s.crew.move r worker, s.history ++ _⟩ : Shift κ τ ρ σ) = s
  rw [Crew.move_of_free r hfree, hfree]
  simp [Stage.seen]

theorem Balanced.move {r : Routine κ ρ σ} (hr : 1 ≤ r.maxRetries) {s : Shift κ τ ρ σ}
    (h : Balanced r.maxRetries s) (worker : Nat) : Balanced r.maxRetries (s.step r (.move worker)) := by
  cases hkey : (s.crew.stage worker).key? with
  | none =>
    rw [step_move_of_free r hkey]
    exact h
  | some key =>
    have hlog : ∀ k, (s.step r (.move worker)).log k =
        s.log k ++ ((s.crew.stage worker).seen r s.place.subject).filter fun o => o.key = k :=
      fun k => List.filter_append _ _
    have hseen : ∀ o ∈ (s.crew.stage worker).seen r s.place.subject, o.key = key := fun o ho =>
      Option.some.inj ((Stage.key_of_mem_seen ho).symm.trans hkey)
    refine ⟨h.staffed.move r worker, h.standing.move h.staffed r hkey ?_ ?_⟩
    · intro hstanding
      rw [hlog, List.filter_eq_self.mpr fun o ho => decide_eq_true (hseen o ho)]
      exact Stage.standing_move hr hkey s.place hstanding
    · intro k hk holder hstanding
      have hnothing : ((s.crew.stage worker).seen r s.place.subject).filter (fun o => o.key = k) = [] :=
        List.filter_eq_nil_iff.mpr fun o ho hok => hk ((of_decide_eq_true hok).symm.trans (hseen o ho))
      have hcount : (s.step r (.move worker)).count k = s.count k := Stage.count_move_of_ne r hkey hk s.place
      rw [hlog, hnothing, List.append_nil, hcount]
      exact hstanding

/-- Every step keeps the balance. -/
theorem Balanced.step {r : Routine κ ρ σ} (hr : 1 ≤ r.maxRetries) {s : Shift κ τ ρ σ}
    (h : Balanced r.maxRetries s) (next : ShiftStep κ τ) : Balanced r.maxRetries (s.step r next) := by
  cases next with
  | add key => exact h.of_queue _ rfl (h.staffed.sound.add key) (WorkQueue.processing_add _ key)
  | addAfter key delay =>
    exact h.of_queue _ rfl (h.staffed.sound.addAfter _ key delay)
      (WorkQueue.processing_addAfter _ _ key delay)
  | look worker deadline => exact h.look r worker deadline
  | move worker => exact h.move hr worker
  | pass d => exact h.of_queue _ rfl h.staffed.sound rfl
  | shutDown => exact h.of_queue _ rfl h.staffed.sound.shutDown rfl

theorem Balanced.run {r : Routine κ ρ σ} (hr : 1 ≤ r.maxRetries) {s : Shift κ τ ρ σ}
    (h : Balanced r.maxRetries s) (steps : List (ShiftStep κ τ)) : Balanced r.maxRetries (s.run r steps) := by
  induction steps generalizing s with
  | nil => exact h
  | cons next rest ih => exact ih (h.step hr next)

theorem balanced_run {r : Routine κ ρ σ} (hr : 1 ≤ r.maxRetries) (base limit now : τ) (subject : σ)
    (steps : List (ShiftStep κ τ)) : Balanced r.maxRetries ((new base limit now subject).run r steps) :=
  (balanced_new r.maxRetries base limit now subject).run hr steps

/-! ## What is done to the subject -/

/-- Nothing but the deeds of workers concerns the subject and the log. -/
theorem performed_step (r : Routine κ ρ σ) (s : Shift κ τ ρ σ) (next : ShiftStep κ τ) :
    ∃ deeds : List (Deed κ ρ), ((s.step r next).place.subject, (s.step r next).history) =
      deeds.foldl (Deed.perform r) (s.place.subject, s.history) := by
  cases next with
  | move worker => exact ⟨_, Stage.perform_move r (s.crew.stage worker) s.place s.history⟩
  | look worker deadline =>
    refine ⟨[], Prod.ext ?_ rfl⟩
    show (s.crew.look r worker deadline).place.subject = s.crew.place.subject
    rcases Crew.look_cases r worker deadline s.crew with hl | ⟨-, key, queue, -, hl⟩ | hl <;>
      exact congrArg (fun c => c.place.subject) hl
  | _ => exact ⟨[], rfl⟩

theorem performed_run (r : Routine κ ρ σ) (s : Shift κ τ ρ σ) (steps : List (ShiftStep κ τ)) :
    ∃ deeds : List (Deed κ ρ), ((s.run r steps).place.subject, (s.run r steps).history) =
      deeds.foldl (Deed.perform r) (s.place.subject, s.history) := by
  induction steps generalizing s with
  | nil => exact ⟨[], rfl⟩
  | cons next rest ih =>
    obtain ⟨first, hfirst⟩ := performed_step r s next
    obtain ⟨later, hlater⟩ := ih (s.step r next)
    refine ⟨first ++ later, ?_⟩
    rw [List.foldl_append, ← hfirst]
    exact hlater

/-! ## The result -/

/-- **A key is dropped exactly when it has failed as often in a row as it may.**  Whatever workers and others
do: the count of a key is the number of its failures since its last success or drop, as long as nobody is
settling an attempt at it, and it is always below the ceiling.  A drop of a key stands right behind the
failure that got there, with its cause, and each such failure is followed by a drop, unless it is the last
that was seen of the key and a worker is still about to report it.  And the log tells what was done: it has come
about together with the subject, by deeds of which each either goes on with an attempt or tells of a drop, once
for each drop in the log. -/
theorem dropped_at_ceiling {r : Routine κ ρ σ} (hr : 1 ≤ r.maxRetries) (base limit now : τ) (subject : σ)
    (steps : List (ShiftStep κ τ)) (key : κ) :
    let s := (new base limit now subject : Shift κ τ ρ σ).run r steps
    ((∀ worker, s.crew.Has worker key → ∃ point, s.crew.stage worker = .busy key point) →
      s.count key = failures (s.log key)) ∧
    (s.count key : Int) < r.maxRetries ∧
    (∀ before after d, s.log key = before ++ .dropped d :: after →
      ∃ earlier cause, d = ⟨key, cause⟩ ∧ before = earlier ++ [.ended key (some cause)] ∧
        (failures earlier + 1 : Int) = r.maxRetries) ∧
    (∀ before after cause, s.log key = before ++ .ended key (some cause) :: after →
      (failures before + 1 : Int) = r.maxRetries →
      after.head? = some (.dropped ⟨key, cause⟩) ∨ after = [] ∧ ∃ worker, s.crew.Has worker key) ∧
    ∃ deeds : List (Deed κ ρ), (s.place.subject, s.history) = deeds.foldl (Deed.perform r) (subject, []) := by
  intro s
  obtain ⟨holder, hholder, hstanding⟩ := (balanced_run hr base limit now subject steps).standing key
  refine ⟨fun hbusy => ?_, hstanding.count_lt hr, fun before after d hlog => ?_,
    fun before after cause hlog hb => ?_, performed_run r (new base limit now subject) steps⟩
  · cases holder with
    | none => exact hstanding.2
    | some stage =>
      obtain ⟨worker, rfl, hkey⟩ := hholder
      obtain ⟨point, hpoint⟩ := hbusy worker hkey
      rw [hpoint] at hstanding
      exact hstanding.2
  · -- an attempt that is not settled is no drop, so the drop stands in the orderly part
    rcases hstanding.orderly with ho | ⟨_, l, _, -, hl, ho⟩
    · exact ho.dropped_follows hlog
    · rcases snoc_eq_append_cons (hl.symm.trans hlog) with ⟨-, -, hlast⟩ | ⟨rest, -, hrest⟩
      · exact nomatch hlast
      · exact ho.dropped_follows hrest
  · -- the failure may be the one that is not settled; then somebody still has the key
    rcases hstanding.orderly with ho | ⟨_, l, _, rfl, hl, ho⟩
    · exact Or.inl (ho.dropped_at hlog hb)
    · obtain ⟨worker, rfl, hkey⟩ := hholder
      rcases snoc_eq_append_cons (hl.symm.trans hlog) with ⟨hafter, -, -⟩ | ⟨rest, hafter, hrest⟩
      · exact Or.inr ⟨hafter, worker, hkey⟩
      · refine Or.inl ?_
        rw [hafter, List.head?_append, ho.dropped_at hrest hb, Option.some_or]

/-- Two workers, two keys and two tries for each: key 1 fails, and fails again while key 2 is tried.  Whoever is
told of drops keeps a list of them beside the outcomes that are to come. -/
theorem dropped_at_ceiling_of_two_workers :
    let first := Failure.crash "first"
    let second := Failure.crash "second"
    let r : Routine Nat Unit (List (Option Failure) × List (Drop Nat)) :=
      ⟨fun _ => (), fun _ (outcomes, told) => (.finish outcomes.head?.join, outcomes.tail, told), 2,
        fun d (outcomes, told) => (outcomes, told ++ [d])⟩
    let start : Shift Nat Nat Unit (List (Option Failure) × List (Drop Nat)) :=
      new 1 10 0 ([some first, none, some second], [])
    let s := start.run r
      [.add 1, .add 2, .look 0 none, .look 1 none, .move 0, .move 1, .move 0, .move 0, .move 0, .move 0,
        .pass 1, .look 0 none, .move 0, .move 0, .move 1, .add 1, .move 0, .move 0, .move 0]
    1 ≤ r.maxRetries ∧ s.count 1 = failures (s.log 1) ∧ (s.count 1 : Int) < r.maxRetries ∧
    (∃ after, s.log 1 = [.ended 1 (some first)] ++ .ended 1 (some second) :: after ∧
      after.head? = some (.dropped ⟨1, second⟩)) ∧
    (∃ deeds : List (Deed Nat Unit),
      (s.place.subject, s.history) = deeds.foldl (Deed.perform r) (start.place.subject, [])) ∧
    s.place.subject.2 = [⟨1, second⟩] := by
  intro first second r start s
  have hlog : s.log 1 = [.ended 1 (some first)] ++ .ended 1 (some second) :: [.dropped ⟨1, second⟩] := by
    decide +kernel
  have hmem : 1 ∉ s.crew.place.queue.processing := by decide +kernel
  have htold : s.place.subject.2 = [⟨1, second⟩] := by decide +kernel
  have hstaffed : s.crew.Staffed := (balanced_run (r := r) (by decide) 1 10 0 _ _).staffed
  obtain ⟨hcount, hlt, -, hdropped, hdeeds⟩ := dropped_at_ceiling (r := r) (by decide) 1 10 0 _ _ 1
  refine ⟨by decide, hcount fun worker hw => ?_, hlt, ⟨_, hlog, ?_⟩, hdeeds, htold⟩
  · exact absurd ((hstaffed.heldBy.mem_processing 1).mpr ⟨worker, hw⟩) hmem
  · exact (hdropped _ _ _ hlog (by decide)).resolve_right fun h => nomatch h.1

end Shift

end NetAttach
