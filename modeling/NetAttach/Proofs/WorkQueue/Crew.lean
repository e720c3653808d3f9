/-
  Several workers at one queue.

  A worker takes a key, processes it, settles the attempt and is done with the key.  Others are at work at the
  same time, so a worker does this in moves, each of which is one access to what the workers share: `Stage`
  says where a worker stands between two moves, and `Stage.move` is its next move.  A `Crew` is the workplace
  with the stage of each worker; there are as many workers as numbers, and those who never do anything do not
  matter.

  Structure:
  1. the moves, and what each of them does to the queue (`queue_move`) and to the key a worker has
     (`key?_move`);
  2. `Staffed`: the queue is sound and what is processing is what the workers have; `Holder`: the stage of the one
     worker who has a key, if there is one; `Each`: what is true of every key, given its holder;
  3. all moves leave the crew staffed (`Staffed.move`), and only the key of the worker who moves is concerned by a
     move (`Each.move`);
  4. a worker that nobody interrupts does what `Dispatcher.attempt` does (`moves_attempt`).
-/
import NetAttach.Proofs.WorkQueue.Expected

namespace NetAttach

/-! ## Moves -/

/-- What a move of processing comes to: it goes on from another point, or it is over. -/
inductive Progress (ρ : Type) where
  | resume (point : ρ)
  | finish (cause : Option Failure)

/-- How keys are processed: from `start` in moves, each of them one access to the subject. -/
structure Routine (κ ρ σ : Type) where
  start : κ → ρ
  move : ρ → σ → Progress ρ × σ
  maxRetries : Int
  onDrop : Drop κ → σ → σ

/-- Where a worker stands between two moves. -/
inductive Stage (κ τ ρ : Type) where
  | free
  | busy (key : κ) (point : ρ)
  | succeeded (key : κ)
  | failed (key : κ) (cause : Failure)
  /-- The key is to be tried again. -/
  | retrying (key : κ)
  /-- It is known how long the key has to wait. -/
  | delaying (key : κ) (delay : τ)
  /-- The key is to be dropped. -/
  | surrendering (key : κ) (cause : Failure)
  /-- Its record is cleared, and somebody is to be told. -/
  | reporting (key : κ) (cause : Failure)
  | leaving (key : κ)

namespace Stage

variable {κ τ ρ σ : Type}

/-- The key that a worker has. -/
def key? : Stage κ τ ρ → Option κ
  | free => none
  | busy key _ | succeeded key | failed key _ | retrying key | delaying key _ | surrendering key _
  | reporting key _ | leaving key => some key

/-- The stage of a worker who has a key. -/
def holding : Stage κ τ ρ → Option (Stage κ τ ρ)
  | free => none
  | s => some s

theorem holding_eq_some {s : Stage κ τ ρ} {key : κ} (h : s.key? = some key) : s.holding = some s := by
  cases s with
  | free => exact nomatch h
  | _ => rfl

theorem eq_free_of_key? {s : Stage κ τ ρ} (h : s.key? = none) : s = free := by
  cases s with
  | free => rfl
  | _ => exact nomatch h

variable [DecidableEq κ]

/-- The next move of a worker.  One that is free makes no move; it has to look for a key first. -/
def move [Add τ] [Zero τ] [LE τ] [DecidableLE τ] [LT τ] [DecidableLT τ] (r : Routine κ ρ σ) :
    Stage κ τ ρ → Workplace κ τ σ → Stage κ τ ρ × Workplace κ τ σ
  | free, w => (free, w)
  | busy key point, w =>
    match r.move point w.subject with
    | (.resume point, subject) => (busy key point, { w with subject })
    | (.finish none, subject) => (succeeded key, { w with subject })
    | (.finish (some cause), subject) => (failed key cause, { w with subject })
  | succeeded key, w => (leaving key, w.forget key)
  | failed key cause, w =>
    (if (w.backoff.count key + 1 : Int) < r.maxRetries then retrying key else surrendering key cause, w)
  | retrying key, w =>
    let (delay, backoff) := w.backoff.fail key
    (delaying key delay, { w with backoff })
  | delaying key delay, w => (leaving key, w.addAfter key delay)
  | surrendering key cause, w => (reporting key cause, w.forget key)
  | reporting key cause, w =>
    (leaving key, { w with subject := r.onDrop ⟨key, cause⟩ w.subject })
  | leaving key, w => (free, w.done key)

variable [Add τ] [Zero τ] [LE τ] [DecidableLE τ] [LT τ] [DecidableLT τ]

/-- Only two moves touch the queue: delaying a key and being done with one. -/
theorem queue_move (r : Routine κ ρ σ) (s : Stage κ τ ρ) (w : Workplace κ τ σ) :
    (s.move r w).2.queue =
      match s with
      | delaying key delay => w.queue.addAfter w.now key delay
      | leaving key => w.queue.done key
      | _ => w.queue := by
  cases s with
  | busy key point =>
    simp only [move]
    split <;> rfl
  | _ => rfl

/-- A worker keeps its key until it leaves. -/
theorem key?_move {s : Stage κ τ ρ} (h : ∀ key, s ≠ leaving key) (r : Routine κ ρ σ)
    (w : Workplace κ τ σ) : (s.move r w).1.key? = s.key? := by
  cases s with
  | busy key point =>
    simp only [move]
    split <;> rfl
  | failed key cause =>
    simp only [move]
    split <;> rfl
  | leaving key => exact absurd rfl (h key)
  | _ => rfl

/-- Until then the queue stays sound, and it goes on processing what it was. -/
theorem queue_move_sound {s : Stage κ τ ρ} (h : ∀ key, s ≠ leaving key) (r : Routine κ ρ σ)
    {w : Workplace κ τ σ} (hw : w.queue.Sound) :
    (s.move r w).2.queue.Sound ∧ (s.move r w).2.queue.processing = w.queue.processing := by
  rw [queue_move]
  cases s with
  | delaying key delay =>
    exact ⟨hw.addAfter w.now key delay, WorkQueue.processing_addAfter _ _ key delay⟩
  | leaving key => exact absurd rfl (h key)
  | _ => exact ⟨hw, rfl⟩

/-- No move ends the expectation that a key is handed out. -/
theorem expects_move (r : Routine κ ρ σ) (s : Stage κ τ ρ) {w : Workplace κ τ σ} {k : κ}
    (h : w.queue.Expects k) : (s.move r w).2.queue.Expects k := by
  rw [queue_move]
  cases s with
  | delaying key delay => exact h.addAfter w.now key delay
  | leaving key => exact h.done key
  | _ => exact h

end Stage

/-! ## The crew -/

/-- A workplace and where each worker stands. -/
structure Crew (κ τ ρ σ : Type) where
  place : Workplace κ τ σ
  stage : Nat → Stage κ τ ρ

namespace Crew

variable {κ τ ρ σ : Type}

/-- All workers are free. -/
def new (place : Workplace κ τ σ) : Crew κ τ ρ σ := ⟨place, fun _ => .free⟩

/-- `worker` has `key`. -/
def Has (c : Crew κ τ ρ σ) (worker : Nat) (key : κ) : Prop := (c.stage worker).key? = some key

theorem has_update (stage : Nat → Stage κ τ ρ) (place : Workplace κ τ σ) (worker i : Nat)
    (s : Stage κ τ ρ) (k : κ) :
    (⟨place, Function.update stage worker s⟩ : Crew κ τ ρ σ).Has i k ↔
      (i = worker ∧ s.key? = some k) ∨ (i ≠ worker ∧ (stage i).key? = some k) := by
  unfold Has
  by_cases hi : i = worker
  · subst hi
    simp
  · simp [hi]

/-! ## What is processing is what the workers have -/

/-- The queue is sound, and its processing keys are those that the workers have, one worker each. -/
structure Staffed (c : Crew κ τ ρ σ) : Prop where
  sound : c.place.queue.Sound
  heldBy : c.place.queue.HeldBy c.Has

theorem staffed_new {place : Workplace κ τ σ} (h : place.queue = .empty) :
    Staffed (new place : Crew κ τ ρ σ) := by
  refine ⟨?_, ?_, ?_⟩
  · rw [show (new place : Crew κ τ ρ σ).place.queue = place.queue from rfl, h]
    exact WorkQueue.sound_empty
  · intro k
    rw [show (new place : Crew κ τ ρ σ).place.queue = place.queue from rfl, h]
    simp [WorkQueue.empty, new, Has, Stage.key?]
  · intro i j k hi
    exact absurd hi (by simp [new, Has, Stage.key?])

/-- The workers have what they had, and the queue is processing what it was. -/
theorem Staffed.of_place {c : Crew κ τ ρ σ} (h : Staffed c) {place : Workplace κ τ σ}
    (hs : place.queue.Sound) (hp : place.queue.processing = c.place.queue.processing) :
    Staffed { c with place } :=
  ⟨hs, h.heldBy.congr hp⟩

/-! ## The one worker who has a key -/

/-- `c.Holder key s`: the worker who has `key` stands at `s`, or `s` is absent and nobody has it. -/
def Holder (c : Crew κ τ ρ σ) (key : κ) : Option (Stage κ τ ρ) → Prop
  | some s => ∃ worker, c.stage worker = s ∧ s.key? = some key
  | none => ∀ worker, ¬c.Has worker key

theorem Staffed.eq_of_holder {c : Crew κ τ ρ σ} (h : Staffed c) {worker : Nat} {key : κ}
    (hw : c.Has worker key) {holder : Option (Stage κ τ ρ)} (hh : c.Holder key holder) :
    holder = some (c.stage worker) := by
  cases holder with
  | none => exact absurd hw (hh worker)
  | some s =>
    obtain ⟨i, rfl, hi⟩ := hh
    rw [h.heldBy.unique i worker key hi hw]

/-- A key is not concerned when a worker goes from one stage to another and has it at neither. -/
theorem Holder.update {c : Crew κ τ ρ σ} {key : κ} {holder : Option (Stage κ τ ρ)}
    (h : c.Holder key holder) (place : Workplace κ τ σ) {worker : Nat} {s : Stage κ τ ρ}
    (hold : ¬c.Has worker key) (hnew : s.key? ≠ some key) :
    Holder ⟨place, Function.update c.stage worker s⟩ key holder := by
  cases holder with
  | none =>
    intro i hi
    rcases (has_update c.stage place worker i s key).mp hi with ⟨-, hk⟩ | ⟨-, hk⟩
    · exact hnew hk
    · exact h i hk
  | some t =>
    obtain ⟨i, rfl, hk⟩ := h
    have hi : i ≠ worker := by
      rintro rfl
      exact hold hk
    exact ⟨i, Function.update_of_ne hi _ _, hk⟩

theorem holder_update_self (stage : Nat → Stage κ τ ρ) (place : Workplace κ τ σ) (worker : Nat)
    {s : Stage κ τ ρ} {key : κ} (hs : s.key? = some key) :
    Holder ⟨place, Function.update stage worker s⟩ key (some s) :=
  ⟨worker, Function.update_self _ _ _, hs⟩

/-- A worker who has let go of a key was the only one to have it. -/
theorem Staffed.holder_update_free {c : Crew κ τ ρ σ} (h : Staffed c) (place : Workplace κ τ σ)
    {worker : Nat} {key : κ} (hw : c.Has worker key) :
    Holder ⟨place, Function.update c.stage worker .free⟩ key none := by
  intro i hi
  rcases (has_update c.stage place worker i .free key).mp hi with ⟨-, hk⟩ | ⟨hne, hk⟩
  · exact absurd hk (by simp [Stage.key?])
  · exact hne (h.heldBy.unique i worker key hk hw)

/-! ## What is true of every key -/

/-- `c.Each P`: for every key `P` holds of the stage of the one worker who has it. -/
def Each (c : Crew κ τ ρ σ) (P : κ → Option (Stage κ τ ρ) → Prop) : Prop :=
  ∀ key, ∃ holder, c.Holder key holder ∧ P key holder

variable {P Q : κ → Option (Stage κ τ ρ) → Prop}

theorem Each.mono {c : Crew κ τ ρ σ} (h : c.Each P) (hpq : ∀ key holder, P key holder → Q key holder) : c.Each Q := by
  intro key
  obtain ⟨holder, hh, hp⟩ := h key
  exact ⟨holder, hh, hpq key holder hp⟩

/-- What happens to the place alone leaves every worker where it stands. -/
theorem Each.of_place {c : Crew κ τ ρ σ} (h : c.Each P) (place : Workplace κ τ σ) :
    ({ c with place } : Crew κ τ ρ σ).Each P := by
  intro key
  obtain ⟨holder, hh, hp⟩ := h key
  exact ⟨holder, by cases holder <;> exact hh, hp⟩

/-! ## Being given a key -/

variable [DecidableEq κ]

/-- A worker starts on the key that it was given, if it was given one. -/
def receive (r : Routine κ ρ σ) (worker : Nat) (given : Option κ) (queue : WorkQueue κ τ)
    (c : Crew κ τ ρ σ) : Crew κ τ ρ σ :=
  { place := { c.place with queue }
    stage := given.elim c.stage fun key => Function.update c.stage worker (.busy key (r.start key)) }

theorem Staffed.receive {c : Crew κ τ ρ σ} (h : Staffed c) (r : Routine κ ρ σ) {worker : Nat}
    (hfree : c.stage worker = .free) {given : Option κ} {queue : WorkQueue κ τ}
    (hg : c.place.queue.Given given queue) : Staffed (c.receive r worker given queue) := by
  refine ⟨hg.sound, (hg.heldBy h.heldBy worker).2.of_iff fun i k => ?_⟩
  cases given with
  | none => simp [Crew.receive, Has]
  | some key =>
    refine (has_update c.stage _ worker i (.busy key (r.start key)) k).trans ?_
    unfold Has
    by_cases hi : i = worker
    · subst hi
      simp [hfree, Stage.key?]
    · simp [hi]

/-- When a free worker is given a key that nobody has, only this key is concerned. -/
theorem Each.receive {c : Crew κ τ ρ σ} (h : c.Each P) (r : Routine κ ρ σ) {worker : Nat}
    (hfree : c.stage worker = .free) {key : κ} (hnone : ∀ i, ¬c.Has i key) (queue : WorkQueue κ τ)
    (hgiven : P key none → Q key (some (.busy key (r.start key))))
    (hother : ∀ k, k ≠ key → ∀ holder, P k holder → Q k holder) :
    (c.receive r worker (some key) queue).Each Q := by
  intro k
  obtain ⟨holder, hh, hp⟩ := h k
  by_cases hk : k = key
  · subst hk
    cases holder with
    | none => exact ⟨_, holder_update_self _ _ worker rfl, hgiven hp⟩
    | some s =>
      obtain ⟨i, rfl, hi⟩ := hh
      exact absurd hi (hnone i)
  · refine ⟨holder, hh.update _ ?_ ?_, hother k hk holder hp⟩
    · intro hn
      rw [Has, hfree] at hn
      exact nomatch hn
    · exact fun hn => hk (Option.some.inj hn).symm

variable [Zero τ] [LE τ] [DecidableLE τ] [LT τ] [DecidableLT τ]

/-! ## Looking for a key -/

section Looking

variable [Sub τ]

/-- A free worker looks for a key once; a worker who has one does not look for another. -/
def look (r : Routine κ ρ σ) (worker : Nat) (deadline : Option τ) (c : Crew κ τ ρ σ) : Crew κ τ ρ σ :=
  match c.stage worker with
  | .free =>
    let (l, queue) := c.place.queue.look deadline c.place.now
    c.receive r worker l.key? queue
  | _ => c

/-- All that looking can come to: nothing changes, the worker is given a key, or due keys are promoted. -/
theorem look_cases (r : Routine κ ρ σ) (worker : Nat) (deadline : Option τ) (c : Crew κ τ ρ σ) :
    c.look r worker deadline = c ∨
    (c.stage worker = .free ∧ ∃ key queue,
      (c.place.queue.promote c.place.now).handOut = some (key, queue) ∧
      c.look r worker deadline = c.receive r worker (some key) queue) ∨
    c.look r worker deadline =
      { c with place := { c.place with queue := c.place.queue.promote c.place.now } } := by
  unfold look
  split
  · rename_i hfree
    rcases WorkQueue.look_cases deadline c.place.queue c.place.now with
      ⟨-, hl⟩ | ⟨-, key, queue, ho, hl⟩ | ⟨-, -, l, hk, hl⟩
    · rw [hl]
      exact Or.inl rfl
    · rw [hl]
      exact Or.inr (Or.inl ⟨hfree, key, queue, ho, rfl⟩)
    · rw [hl]
      refine Or.inr (Or.inr ?_)
      show c.receive r worker l.key? _ = _
      rw [hk]
      rfl
  · exact Or.inl rfl

theorem Staffed.look {c : Crew κ τ ρ σ} (h : Staffed c) (r : Routine κ ρ σ) (worker : Nat)
    (deadline : Option τ) : Staffed (c.look r worker deadline) := by
  unfold Crew.look
  split
  · rename_i hfree
    exact h.receive r hfree (h.sound.look_given deadline c.place.now)
  · exact h

end Looking

/-! ## Moving -/

section Moving

variable [Add τ]

/-- A worker makes its next move. -/
def move (r : Routine κ ρ σ) (worker : Nat) (c : Crew κ τ ρ σ) : Crew κ τ ρ σ :=
  let (stage, place) := (c.stage worker).move r c.place
  ⟨place, Function.update c.stage worker stage⟩

theorem move_of_free (r : Routine κ ρ σ) {worker : Nat} {c : Crew κ τ ρ σ}
    (h : c.stage worker = .free) : c.move r worker = c := by
  have hm : (c.stage worker).move r c.place = (c.stage worker, c.place) := by rw [h]; rfl
  show (⟨((c.stage worker).move r c.place).2,
    Function.update c.stage worker ((c.stage worker).move r c.place).1⟩ : Crew κ τ ρ σ) = c
  rw [hm, Function.update_eq_self]

/-- A worker who does not leave has its key before and after a move, and nobody else is concerned. -/
theorem Staffed.move_of_stays {c : Crew κ τ ρ σ} (h : Staffed c) (r : Routine κ ρ σ) {worker : Nat}
    (hl : ∀ key, c.stage worker ≠ .leaving key) : Staffed (c.move r worker) := by
  obtain ⟨hsound, hproc⟩ := Stage.queue_move_sound hl r h.sound
  refine ⟨hsound, (h.heldBy.congr hproc).of_iff fun i k => ?_⟩
  show Has ⟨_, Function.update c.stage worker ((c.stage worker).move r c.place).1⟩ i k ↔ _
  rw [has_update, Stage.key?_move hl r c.place]
  by_cases hi : i = worker
  · subst hi
    simp [Has]
  · simp [hi, Has]

/-- One who leaves has nothing afterwards, and nobody has the key that it had. -/
theorem Staffed.move_of_leaves {c : Crew κ τ ρ σ} (h : Staffed c) (r : Routine κ ρ σ) {worker : Nat}
    {key : κ} (hl : c.stage worker = .leaving key) : Staffed (c.move r worker) := by
  have hhas : c.Has worker key := by rw [Has, hl]; rfl
  have hmem : key ∈ c.place.queue.processing := (h.heldBy.mem_processing key).mpr ⟨worker, hhas⟩
  have hmove : (c.stage worker).move r c.place = (.free, c.place.done key) := by rw [hl]; rfl
  have hcrew : c.move r worker = ⟨c.place.done key, Function.update c.stage worker .free⟩ := by
    rw [Crew.move, hmove]
  rw [hcrew]
  -- nobody else has the key, so the holders that are left are those of other keys
  refine ⟨h.sound.done hmem, (h.heldBy.done h.sound).of_iff fun i k => ?_⟩
  rw [has_update]
  constructor
  · rintro (⟨-, hn⟩ | ⟨hi, hik⟩)
    · exact absurd hn (by simp [Stage.key?])
    · refine ⟨hik, ?_⟩
      rintro rfl
      exact hi (h.heldBy.unique i worker k hik hhas)
  · rintro ⟨hik, hne⟩
    refine Or.inr ⟨?_, hik⟩
    rintro rfl
    exact hne (Option.some.inj (hik.symm.trans hhas))

theorem Staffed.move {c : Crew κ τ ρ σ} (h : Staffed c) (r : Routine κ ρ σ) (worker : Nat) :
    Staffed (c.move r worker) := by
  by_cases hl : ∃ key, c.stage worker = .leaving key
  · obtain ⟨key, hl⟩ := hl
    exact h.move_of_leaves r hl
  · exact h.move_of_stays r fun key hk => hl ⟨key, hk⟩

theorem Staffed.holder_move {c : Crew κ τ ρ σ} (h : Staffed c) (r : Routine κ ρ σ) {worker : Nat}
    {key : κ} (hw : c.Has worker key) :
    (c.move r worker).Holder key ((c.stage worker).move r c.place).1.holding := by
  by_cases hl : ∃ key, c.stage worker = .leaving key
  · obtain ⟨key', hl⟩ := hl
    have hm : (c.stage worker).move r c.place = (.free, c.place.done key') := by rw [hl]; rfl
    show Holder ⟨_, Function.update c.stage worker ((c.stage worker).move r c.place).1⟩ key _
    rw [hm]
    exact h.holder_update_free _ hw
  · have hk : ((c.stage worker).move r c.place).1.key? = some key :=
      (Stage.key?_move (fun k hk => hl ⟨k, hk⟩) r c.place).trans hw
    rw [Stage.holding_eq_some hk]
    exact holder_update_self _ _ worker hk

/-- Other keys are not concerned by a move. -/
theorem Holder.move {c : Crew κ τ ρ σ} {k key : κ} {holder : Option (Stage κ τ ρ)}
    (h : c.Holder k holder) (r : Routine κ ρ σ) {worker : Nat} (hw : c.Has worker key)
    (hk : k ≠ key) : (c.move r worker).Holder k holder := by
  have hnew : ((c.stage worker).move r c.place).1.key? ≠ some k := by
    intro hn
    by_cases hl : ∃ key, c.stage worker = .leaving key
    · obtain ⟨key', hl⟩ := hl
      rw [hl] at hn
      exact nomatch hn
    · rw [Stage.key?_move (fun k hk => hl ⟨k, hk⟩) r c.place] at hn
      exact hk (Option.some.inj (hn.symm.trans hw))
  exact h.update _ (fun hn => hk (Option.some.inj (hn.symm.trans hw))) hnew

/-- When a worker makes a move, only the key that it has is concerned. -/
theorem Each.move {c : Crew κ τ ρ σ} (h : c.Each P) (hs : c.Staffed) (r : Routine κ ρ σ) {worker : Nat}
    {key : κ} (hw : c.Has worker key)
    (hown : P key (some (c.stage worker)) → Q key ((c.stage worker).move r c.place).1.holding)
    (hother : ∀ k, k ≠ key → ∀ holder, P k holder → Q k holder) : (c.move r worker).Each Q := by
  intro k
  obtain ⟨holder, hh, hp⟩ := h k
  by_cases hk : k = key
  · subst hk
    obtain rfl := hs.eq_of_holder hw hh
    exact ⟨_, hs.holder_move r hw, hown hp⟩
  · exact ⟨holder, hh.move r hw hk, hother k hk holder hp⟩

end Moving

end Crew

/-! ## A worker that nobody interrupts -/

open Relation (ReflTransGen)

/-- `r.Ends point s o`: going on from `point` while nobody else does anything comes to `o` in the end. -/
inductive Routine.Ends {κ ρ σ : Type} (r : Routine κ ρ σ) : ρ → σ → σ × Option Failure → Prop where
  | finish {point : ρ} {s s' : σ} {cause : Option Failure} :
    r.move point s = (.finish cause, s') → Ends r point s (s', cause)
  | resume {point point' : ρ} {s s' : σ} {o : σ × Option Failure} :
    r.move point s = (.resume point', s') → Ends r point' s' o → Ends r point s o

namespace Stage

variable {κ τ ρ σ : Type} [DecidableEq κ] [Add τ] [Zero τ] [LE τ] [DecidableLE τ] [LT τ]
  [DecidableLT τ]

/-- One move leads from a stage at a place to another stage at another place. -/
def Moves (r : Routine κ ρ σ) (x y : Stage κ τ ρ × Workplace κ τ σ) : Prop := x.1.move r x.2 = y

/-- The stage at which processing has ended. -/
def ended (key : κ) : Option Failure → Stage κ τ ρ
  | none => succeeded key
  | some cause => failed key cause

theorem moves_process {r : Routine κ ρ σ} {point : ρ} {s : σ} {o : σ × Option Failure}
    (h : r.Ends point s o) (key : κ) (w : Workplace κ τ σ) (hw : w.subject = s) :
    ReflTransGen (Moves r) (busy key point, w) (ended key o.2, { w with subject := o.1 }) := by
  induction h generalizing w with
  | @finish point s s' cause hm =>
    have hmove : Moves r (busy key point, w) (ended key cause, { w with subject := s' }) := by
      cases cause <;> simp [Moves, move, hw, hm, ended]
    exact .single hmove
  | @resume point point' s s' o hm _ ih =>
    have hmove : Moves r (busy key point, w) (busy key point', { w with subject := s' }) := by
      simp [Moves, move, hw, hm]
    exact .head hmove (ih { w with subject := s' } rfl)

theorem moves_settle (d : Dispatcher κ τ σ) {r : Routine κ ρ σ} (hr : r.maxRetries = d.maxRetries)
    (ho : r.onDrop = d.onDrop) (key : κ) (cause : Option Failure) (w : Workplace κ τ σ) :
    ReflTransGen (Moves r) (ended key cause, w) (free, d.settle key cause w) := by
  cases cause with
  | none => exact .head rfl (.head rfl .refl)
  | some cause =>
    by_cases hlt : (w.backoff.count key + 1 : Int) < r.maxRetries
    · have hfirst : Moves r (failed key cause, w) (retrying key, w) := by simp [Moves, move, hlt]
      have hlast : d.settle key (some cause) w = (w.addRateLimited key).done key := by
        show (d.settleFailure key cause w).done key = _
        rw [Dispatcher.settleFailure, ← hr, if_pos hlt]
      rw [hlast]
      -- retrying, delaying and leaving are one move each
      exact .head hfirst (.head rfl (.head rfl (.head rfl .refl)))
    · have hfirst : Moves r (failed key cause, w) (surrendering key cause, w) := by
        simp [Moves, move, hlt]
      have hlast : d.settle key (some cause) w =
          ({ w.forget key with subject := r.onDrop ⟨key, cause⟩ w.subject }).done key := by
        show (d.settleFailure key cause w).done key = _
        rw [Dispatcher.settleFailure, ← hr, if_neg hlt, ho]
      rw [hlast]
      exact .head hfirst (.head rfl (.head rfl (.head rfl .refl)))

/-- A worker that nobody interrupts does what an attempt of the dispatcher does. -/
theorem moves_attempt (d : Dispatcher κ τ σ) {r : Routine κ ρ σ} (hr : r.maxRetries = d.maxRetries)
    (ho : r.onDrop = d.onDrop) {key : κ} {w w' : Workplace κ τ σ} {cause : Option Failure}
    (hp : d.process key w = (w', cause)) (hw : w' = { w with subject := w'.subject })
    (he : r.Ends (r.start key) w.subject (w'.subject, cause)) :
    ReflTransGen (Moves r) (busy key (r.start key), w) (free, d.attempt key w) := by
  have hs : d.attempt key w = d.settle key cause w' := by rw [Dispatcher.attempt, hp]
  rw [hs]
  refine (moves_process he key w rfl).trans ?_
  show ReflTransGen (Moves r) (ended key cause, { w with subject := w'.subject }) _
  rw [← hw]
  exact moves_settle d hr ho key cause w'

end Stage

end NetAttach
