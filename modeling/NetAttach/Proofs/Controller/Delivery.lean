/-
  No change is lost, and none is applied out of order.

  `Tidy` is the invariant of a run: the crew is staffed, numbers are handed out upwards, and every pod is
  tended (`Log.Tended`) in the state in which the run has put it: its part of the history, its latest change,
  whether its key is owed, and the worker who has the key.

  Structure:
  1. one move of a worker, seen from the pod whose key it has (`tended_move`), and what it leaves alone for
     all other pods (`latest_move`);
  2. the invariant is kept by each happening: recording (`Tidy.record`), what only concerns the queue
     (`Tidy.of_queue`), being given a key (`Tidy.receive`), and a move (`Tidy.move`);
  3. so it holds at every point of every run (`tidy_run`), and at rest no key is owed, which leaves only the
     changes that are settled (`settled_of_atRest`);
  4. beside this, the history tells what was done to the world (`Faithful`): handlers were called and drops told of
     when it says so, and at no other time.
-/
import NetAttach.Proofs.Controller.Traffic

namespace NetAttach

/-! ## One move -/

theorem PodWork.recorded_retire {σ : Type} (w : PodWork σ) (r : Recorded) :
    (w.retire r).recorded = w.recorded := by
  unfold retire
  split <;> rfl

theorem PodWork.world_retire {σ : Type} (w : PodWork σ) (r : Recorded) :
    (w.retire r).world = w.world := by
  unfold retire
  split <;> rfl

theorem PodWork.get?_latest_retire {σ : Type} (w : PodWork σ) (r : Recorded) (k : Text) :
    (w.retire r).latest.get? k = w.latest.get? k ∨
      k = r.change.key ∧ (w.retire r).latest.get? k = none ∧
        ∃ s, w.latest.get? k = some s ∧ s.number = r.number := by
  unfold retire
  split
  · rename_i hr
    simp only [Table.get?_erase]
    by_cases hk : k = r.change.key
    · subst hk
      refine Or.inr ⟨rfl, by simp, ?_⟩
      have hany : (w.latest.get? r.change.key).any (·.number = r.number) = true :=
        (Bool.and_eq_true_iff.mp hr).2
      cases hs : w.latest.get? r.change.key with
      | none => rw [hs] at hany; exact absurd hany (by simp)
      | some s => rw [hs] at hany; exact ⟨s, rfl, by simpa using hany⟩
    · rw [if_neg hk]
      exact Or.inl rfl
  · exact Or.inl rfl

section Moves

variable {τ σ : Type} (p : Procedure σ)

/-- At most one occurrence is seen of a move, and the outcome of a call is the one that the handlers came to. -/
theorem seen_cases (s : Stage Text τ Point) (w : PodWork σ) :
    p.seen w s = [] ∨ ∃ o, p.seen w s = [o] ∧ ∀ r outcome, o = .handed r outcome →
      (p.registry.handle (.change r.change) w.world).2 = outcome := by
  cases s with
  | busy k point =>
    cases point with
    | reading key =>
      simp only [Procedure.seen]
      split
      · exact Or.inr ⟨_, rfl, fun _ _ heq => by cases heq⟩
      · exact Or.inl rfl
    | calling r =>
      refine Or.inr ⟨_, rfl, fun r' outcome heq => ?_⟩
      obtain ⟨rfl, rfl⟩ := Occurrence.handed.inj heq
      rfl
    | retiring r => exact Or.inl rfl
  | reporting key cause => exact Or.inr ⟨_, rfl, fun _ _ heq => by cases heq⟩
  | _ => exact Or.inl rfl

theorem recorded?_seen (s : Stage Text τ Point) (w : PodWork σ) :
    ∀ o ∈ p.seen w s, o.recorded? = none := by
  intro o ho
  unfold Procedure.seen at ho
  split at ho
  · split at ho
    · rw [List.mem_singleton.mp ho]; rfl
    · exact absurd ho List.not_mem_nil
  · rw [List.mem_singleton.mp ho]; rfl
  · rw [List.mem_singleton.mp ho]; rfl
  · exact absurd ho List.not_mem_nil

variable [Add τ] [Zero τ] [LE τ] [DecidableLE τ] [LT τ] [DecidableLT τ]
variable {key : Text} {log : List Occurrence} {owed owed' : Prop}

/-- A move, seen from the pod whose key the worker has. -/
theorem tended_move {s : Stage Text τ Point} (hs : s.key? = some key) (w : Control τ σ)
    (h : Log.Tended key log (w.subject.latest.get? key) owed (some s)) (ho : owed → owed')
    (hd : (s.move p.routine w).2.queue.Expects key → owed') :
    Log.Tended key (log ++ p.seen w.subject s)
      ((s.move p.routine w).2.subject.latest.get? key) owed' (s.move p.routine w).1.holding := by
  have ht := h.mono ho
  cases s with
  | free => exact nomatch hs
  | busy k point =>
    cases point with
    | reading k' =>
      obtain rfl : k' = key := h.standing
      cases hl : w.subject.latest.get? k' with
      | none =>
        have hm : (Stage.busy k (.reading k')).move p.routine w = (.succeeded k, w) := by
          simp [Stage.move, Procedure.routine, Procedure.move, hl]
        rw [hm, Procedure.seen, hl, Option.isNone_none, if_pos rfl]
        exact (hl ▸ ht).find_nothing rfl
      | some r =>
        have hm : (Stage.busy k (.reading k')).move p.routine w = (.busy k (.calling r), w) := by
          simp [Stage.move, Procedure.routine, Procedure.move, hl]
        rw [hm, Procedure.seen, hl, Option.isNone_some, if_neg (by simp)]
        exact (hl ▸ ht).read rfl
    | calling r =>
      cases hc : p.registry.handle (.change r.change) w.subject.world with
      | mk world outcome =>
        cases outcome with
        | none =>
          have hm : (Stage.busy k (.calling r)).move p.routine w =
              (.busy k (.retiring r), { w with subject := { w.subject with world } }) := by
            simp [Stage.move, Procedure.routine, Procedure.move, hc]
          rw [hm, Procedure.seen, hc]
          exact ht.call_returns
        | some cause =>
          have hm : (Stage.busy k (.calling r)).move p.routine w =
              (.failed k cause, { w with subject := { w.subject with world } }) := by
            simp [Stage.move, Procedure.routine, Procedure.move, hc]
          rw [hm, Procedure.seen, hc]
          exact ht.call_fails
    | retiring r =>
      refine ht.retire ?_
      rcases w.subject.get?_latest_retire r key with hl | ⟨-, hl, hr⟩
      · exact Or.inl hl
      · exact Or.inr ⟨hl, hr⟩
  | succeeded k =>
    exact ht.stand (some (.leaving k)) ht.standing
  | failed k cause =>
    show Log.Tended key (log ++ []) _ owed' (Stage.holding (if _ then _ else _))
    split
    · exact ht.stand (some (.retrying k)) trivial
    · exact ht.stand (some (.surrendering k cause)) ht.standing
  | retrying k =>
    exact ht.stand (some (.delaying k _)) trivial
  | delaying k delay =>
    obtain rfl : k = key := Option.some.inj hs
    -- whatever became of the attempt, the queue expects the key from here on
    have hadd : owed' := hd (WorkQueue.expects_addAfter w.queue w.now k delay)
    exact ht.stand (some (.leaving k)) (Or.inl hadd)
  | surrendering k cause =>
    exact ht.stand (some (.reporting k cause)) ht.standing
  | reporting k cause =>
    obtain rfl : k = key := Option.some.inj hs
    exact ht.report
  | leaving k =>
    exact ht.stand none ht.standing

/-- All that a move does to the latest changes and to the world. -/
theorem subject_move (s : Stage Text τ Point) (w : Control τ σ) :
    (s.move p.routine w).2.subject =
      match s with
      | .busy _ (.calling r) =>
        { w.subject with world := (p.registry.handle (.change r.change) w.subject.world).1 }
      | .busy _ (.retiring r) => w.subject.retire r
      | .reporting key cause => { w.subject with world := p.onDrop ⟨key, cause⟩ w.subject.world }
      | _ => w.subject := by
  cases s with
  | busy k point =>
    cases point with
    | reading key =>
      cases hl : w.subject.latest.get? key <;>
        simp [Stage.move, Procedure.routine, Procedure.move, hl]
    | calling r =>
      cases hc : p.registry.handle (.change r.change) w.subject.world with
      | mk world outcome =>
        cases outcome <;> simp [Stage.move, Procedure.routine, Procedure.move, hc]
    | retiring r => rfl
  | _ => rfl

/-- No other pod has another latest change after the move. -/
theorem latest_move {s : Stage Text τ Point} (w : Control τ σ)
    (h : Log.Standing key log owed (some s)) {k : Text} (hk : k ≠ key) :
    (s.move p.routine w).2.subject.latest.get? k = w.subject.latest.get? k := by
  rw [subject_move]
  cases s with
  | busy k' point =>
    cases point with
    | retiring r =>
      -- what is forgotten, if anything, is the change that the worker has applied
      rcases w.subject.get?_latest_retire r k with hl | ⟨hr, -⟩
      · exact hl
      · exact absurd (hr.trans h.1) hk
    | _ => rfl
  | _ => rfl

/-- A move records nothing. -/
theorem recorded_move (s : Stage Text τ Point) (w : Control τ σ) :
    (s.move p.routine w).2.subject.recorded = w.subject.recorded := by
  rw [subject_move]
  cases s with
  | busy k point =>
    cases point with
    | retiring r => exact w.subject.recorded_retire r
    | _ => rfl
  | _ => rfl

/-- What a move does to the world is what is seen of it. -/
theorem replay_seen (s : Stage Text τ Point) (w : Control τ σ) :
    p.replay w.subject.world (p.seen w.subject s) = (s.move p.routine w).2.subject.world := by
  rw [subject_move]
  cases s with
  | busy k point =>
    cases point with
    | reading key =>
      show p.replay _ (if _ then _ else _) = _
      split <;> rfl
    | calling r => rfl
    | retiring r => exact (w.subject.world_retire r).symm
  | _ => rfl

end Moves

/-! ## The invariant -/

namespace Traffic

variable {τ σ : Type}

/-- What holds at every point of a run. -/
structure Tidy (t : Traffic τ σ) : Prop where
  staffed : t.crew.Staffed
  numbered : ∀ r, .recorded r ∈ t.history → r.number < t.place.subject.recorded
  tended : ∀ key, ∃ holder, t.crew.Holder key holder ∧
    Log.Tended key (t.log key) (t.latest? key) (t.Owed key) holder

theorem mem_log {t : Traffic τ σ} {key : Text} {o : Occurrence} :
    o ∈ t.log key ↔ o ∈ t.history ∧ o.key = key := by
  simp [log, List.mem_filter]

/-- Whether all is at rest can be read off the queue: what the workers have is what is processing. -/
theorem Tidy.atRest_iff {t : Traffic τ σ} (h : Tidy t) :
    t.AtRest ↔ t.underway = [] ∧ t.queue.ready = [] ∧ t.queue.waiting = [] ∧
      t.queue.processing = [] := by
  constructor
  · intro hr
    refine ⟨hr.underway, hr.ready, hr.waiting, List.eq_nil_iff_forall_not_mem.mpr fun key hp => ?_⟩
    obtain ⟨worker, hw⟩ := (h.staffed.heldBy.mem_processing key).mp hp
    exact absurd (hw.symm.trans (hr.unheld worker)) (by simp)
  · rintro ⟨hu, hr, hw, hp⟩
    refine ⟨hu, fun worker => ?_, hr, hw⟩
    by_contra hk
    obtain ⟨key, hk⟩ := Option.ne_none_iff_exists'.mp hk
    have hm := (h.staffed.heldBy.mem_processing key).mpr ⟨worker, hk⟩
    rw [show t.crew.place.queue.processing = [] from hp] at hm
    exact absurd hm List.not_mem_nil

/-- At rest no key is owed any more, so every newest change is settled. -/
theorem Tidy.settled_of_atRest {t : Traffic τ σ} (h : Tidy t) (hr : t.AtRest)
    (hs : t.queue.shuttingDown = false) (key : Text) : Log.Settled (t.log key) := by
  obtain ⟨holder, hh, ht⟩ := h.tended key
  obtain ⟨hunderway, hready, hwaiting, hproc⟩ := h.atRest_iff.mp hr
  have howed : ¬t.Owed key := by
    rintro (ho | ho)
    · rw [hunderway] at ho
      exact absurd ho List.not_mem_nil
    · refine WorkQueue.not_expects_of_idle h.staffed.sound hs hready hwaiting ?_ ho
      rw [show t.crew.place.queue.processing = [] from hproc]
      exact List.not_mem_nil
  -- nobody deals with the newest change and the key is not owed, so there is one way left to stand
  cases holder with
  | none => exact ht.standing.resolve_left howed
  | some s =>
    obtain ⟨worker, rfl, hw⟩ := hh
    exact absurd (hw.symm.trans (hr.unheld worker)) (by simp)

theorem tidy_new (base limit now : τ) (world : σ) : Tidy (new base limit now world) where
  staffed := Crew.staffed_new rfl
  numbered := fun r h => absurd h (by simp [new])
  tended := fun key => ⟨none, fun worker => by simp [new, Crew.new, Crew.Has, Stage.key?],
    Log.tended_nil key _⟩

/-- What only concerns the queue, and ends no expectation, keeps the invariant. -/
theorem Tidy.of_queue {t : Traffic τ σ} (h : Tidy t) (place : Control τ σ) (underway : List Text)
    (hsub : place.subject = t.place.subject) (hs : place.queue.Sound)
    (hp : place.queue.processing = t.queue.processing)
    (ho : ∀ key, t.Owed key → key ∈ underway ∨ place.queue.Expects key) :
    Tidy { t.moveTo place with underway } where
  staffed := h.staffed.of_place hs hp
  numbered := fun r hr => by
    show r.number < place.subject.recorded
    rw [hsub]
    exact h.numbered r hr
  tended := fun key => by
    obtain ⟨holder, hh, ht⟩ := h.tended key
    refine ⟨holder, ?_, ?_⟩
    · cases holder with
      | none => exact hh
      | some s => exact hh
    · have hl : ({ t.moveTo place with underway } : Traffic τ σ).latest? key = t.latest? key := by
        show place.subject.latest.get? key = t.place.subject.latest.get? key
        rw [hsub]
      rw [hl]
      exact ht.mono (ho key)

/-- The history tells what was done to the world since it was `world`. -/
structure Faithful (p : Procedure σ) (world : σ) (t : Traffic τ σ) : Prop where
  world_eq : t.place.world = p.replay world t.history
  truthful : p.Truthful world t.history

theorem Faithful.snoc {p : Procedure σ} {world : σ} {t t' : Traffic τ σ} (h : Faithful p world t) {o : Occurrence}
    (hhistory : t'.history = t.history ++ [o]) (hworld : t'.place.world = p.act t.place.world o)
    (ho : ∀ r outcome, o = .handed r outcome →
      (p.registry.handle (.change r.change) t.place.world).2 = outcome) : Faithful p world t' where
  world_eq := by
    rw [hworld, hhistory, h.world_eq]
    exact List.foldl_concat .. |>.symm
  truthful before r outcome after heq := by
    rcases snoc_eq_append_cons (hhistory.symm.trans heq) with ⟨-, rfl, hlast⟩ | ⟨rest, -, hearlier⟩
    · rw [← h.world_eq]
      exact ho r outcome hlast.symm
    · exact h.truthful before r outcome rest hearlier

/-- What is not seen leaves the world as it is. -/
theorem Faithful.congr {p : Procedure σ} {world : σ} {t t' : Traffic τ σ} (h : Faithful p world t)
    (hhistory : t'.history = t.history) (hworld : t'.place.world = t.place.world) : Faithful p world t' :=
  ⟨by rw [hworld, hhistory, h.world_eq], by rw [hhistory]; exact h.truthful⟩

variable [LE τ] [DecidableLE τ]

/-- A free worker is given a key, and so it is not owed any more, but in good hands. -/
theorem Tidy.receive {t : Traffic τ σ} (h : Tidy t) (p : Procedure σ) {worker : Nat}
    (hfree : t.crew.stage worker = .free) {key : Text} {queue : WorkQueue Text τ} {now : τ}
    (ho : (t.queue.promote now).handOut = some (key, queue)) :
    Tidy { t with crew := t.crew.receive p.routine worker (some key) queue } := by
  have hg : t.queue.Given (some key) queue :=
    ⟨t.queue.promote now, h.staffed.sound.promote now, WorkQueue.processing_promote _ now, ho⟩
  have hnone : ∀ w, ¬t.crew.Has w key := (hg.heldBy h.staffed.heldBy worker).1 key rfl
  refine ⟨h.staffed.receive p.routine hfree hg, h.numbered, fun k => ?_⟩
  obtain ⟨holder, hh, ht⟩ := h.tended k
  by_cases hk : k = key
  · subst hk
    exact ⟨_, Crew.holder_update_self _ _ worker rfl, ht.take⟩
  · -- the worker had no other key before, and has none now
    refine ⟨holder, hh.update _ ?_ ?_, ht.mono fun howed => ?_⟩
    · intro hn
      rw [Crew.Has, hfree] at hn
      exact absurd hn (by simp [Stage.key?])
    · exact fun hn => hk (Option.some.inj hn).symm
    · exact howed.imp_right fun he => (he.promote now).handOut ho hk

variable [Add τ] [Sub τ] [Zero τ] [LT τ] [DecidableLT τ]

theorem Tidy.record {t : Traffic τ σ} (h : Tidy t) (p : Procedure σ) (change : PodChange) :
    Tidy (t.step p (.record change)) where
  staffed := h.staffed.of_place h.staffed.sound rfl
  numbered := fun r hr => by
    show r.number < t.place.subject.recorded + 1
    rcases List.mem_append.mp hr with hr | hr
    · exact Nat.lt_succ_of_lt (h.numbered r hr)
    · cases List.mem_singleton.mp hr
      exact Nat.lt_succ_self _
  tended := fun key => by
    obtain ⟨holder, hh, ht⟩ := h.tended key
    refine ⟨holder, by cases holder <;> exact hh, ?_⟩
    by_cases hk : change.key = key
    · have hlog : (t.step p (.record change)).log key =
          t.log key ++ [.recorded ⟨t.place.subject.recorded, change⟩] := by
        simp [log, step, moveTo, Occurrence.key, hk]
      have hlatest : (t.step p (.record change)).latest? key =
          some ⟨t.place.subject.recorded, change⟩ := by
        subst hk
        exact Table.get?_put_self _ _ _
      rw [hlog, hlatest]
      refine ht.record hk ?_ (Or.inl ?_)
      · intro s hs
        exact h.numbered s (mem_log.mp (Log.mem_recordings.mp hs)).1
      · exact List.mem_append_right _ (List.mem_singleton.mpr hk.symm)
    · have hlog : (t.step p (.record change)).log key = t.log key := by
        simp [log, step, moveTo, Occurrence.key, hk]
      have hlatest : (t.step p (.record change)).latest? key = t.latest? key := by
        refine (Table.get?_put _ _ _ _).trans ?_
        rw [if_neg (Ne.symm hk)]
        rfl
      rw [hlog, hlatest]
      exact ht.mono fun ho => ho.imp_left fun hm => List.mem_append_left _ hm

theorem Tidy.look {t : Traffic τ σ} (h : Tidy t) (p : Procedure σ) (worker : Nat)
    (deadline : Option τ) : Tidy (t.step p (.look worker deadline)) := by
  show Tidy { t with crew := t.crew.look p.routine worker deadline }
  rcases Crew.look_cases p.routine worker deadline t.crew with
    hl | ⟨hfree, key, queue, ho, hl⟩ | hl
  · rw [hl]
    exact h
  · rw [hl]
    exact h.receive p hfree ho
  · rw [hl]
    exact h.of_queue { t.place with queue := t.queue.promote t.place.now } t.underway rfl
      (h.staffed.sound.promote _) (WorkQueue.processing_promote _ _)
      fun key howed => howed.imp_right fun he => he.promote _

theorem Tidy.move {t : Traffic τ σ} (h : Tidy t) (p : Procedure σ) (worker : Nat) :
    Tidy (t.step p (.move worker)) := by
  have hnumbered : ∀ r, .recorded r ∈ (t.step p (.move worker)).history →
      r.number < (t.step p (.move worker)).place.subject.recorded := by
    intro r hr
    show r.number < ((t.crew.stage worker).move p.routine t.place).2.subject.recorded
    rw [recorded_move]
    rcases List.mem_append.mp hr with hr | hr
    · exact h.numbered r hr
    · exact nomatch recorded?_seen p _ _ _ hr
  have howed : ∀ k, t.Owed k → (t.step p (.move worker)).Owed k := fun k ho =>
    ho.imp_right fun he => Stage.expects_move p.routine _ he
  have hlog : ∀ k, (t.step p (.move worker)).log k =
      t.log k ++ (p.seen t.place.subject (t.crew.stage worker)).filter fun o => o.key = k :=
    fun k => List.filter_append _ _
  refine ⟨h.staffed.move p.routine worker, hnumbered, fun k => ?_⟩
  cases hkey : (t.crew.stage worker).key? with
  | none =>
    have hfree := Stage.eq_free_of_key? hkey
    have hsame : t.step p (.move worker) = t := by
      -- a free worker makes no move, and nothing is seen
      show ({ t with crew := t.crew.move p.routine worker, history := _ } : Traffic τ σ) = t
      rw [Crew.move_of_free p.routine hfree, hfree]
      simp [Procedure.seen]
    rw [hsame]
    exact h.tended k
  | some key =>
    obtain ⟨holder, hh, ht⟩ := h.tended key
    obtain rfl := h.staffed.eq_of_holder hkey hh
    -- the pod whose key the worker has goes on, and what is seen is about this pod only
    have htended := tended_move p hkey t.place ht (howed key) Or.inr
    have habout : ∀ o ∈ p.seen t.place.subject (t.crew.stage worker), o.key = key := fun o ho =>
      htended.about o (List.mem_append_right _ ho)
    by_cases hk : k = key
    · subst hk
      refine ⟨_, h.staffed.holder_move p.routine hkey, ?_⟩
      rw [hlog, List.filter_eq_self.mpr fun o ho => decide_eq_true (habout o ho)]
      exact htended
    · obtain ⟨holder', hh', ht'⟩ := h.tended k
      refine ⟨holder', hh'.move p.routine hkey hk, ?_⟩
      have hnone : (p.seen t.place.subject (t.crew.stage worker)).filter (fun o => o.key = k) = [] :=
        List.filter_eq_nil_iff.mpr fun o ho hok => hk ((of_decide_eq_true hok).symm.trans (habout o ho))
      have hlatest : (t.step p (.move worker)).latest? k = t.latest? k :=
        latest_move p t.place ht.standing hk
      rw [hlog, hnone, List.append_nil, hlatest]
      exact ht'.mono (howed k)

/-- Every happening keeps the invariant. -/
theorem Tidy.step {t : Traffic τ σ} (h : Tidy t) (p : Procedure σ) (happening : Happening τ) :
    Tidy (t.step p happening) := by
  cases happening with
  | record change => exact h.record p change
  | add key =>
    show Tidy (if key ∈ t.underway then _ else t)
    split
    · refine h.of_queue (t.place.add key) (t.underway.erase key) rfl (h.staffed.sound.add key)
        (WorkQueue.processing_add _ key) fun k ho => ?_
      by_cases hk : k = key
      · subst hk
        exact Or.inr (WorkQueue.expects_add t.queue k)
      · rcases ho with ho | ho
        · exact Or.inl ((List.mem_erase_of_ne hk).mpr ho)
        · exact Or.inr (ho.add key)
    · exact h
  | look worker deadline => exact h.look p worker deadline
  | move worker => exact h.move p worker
  | pass d => exact h.of_queue (t.place.advance d) t.underway rfl h.staffed.sound rfl fun _ ho => ho
  | shutDown =>
    exact h.of_queue t.place.shutDown t.underway rfl h.staffed.sound.shutDown rfl fun k _ =>
      Or.inr (WorkQueue.expects_shutDown t.queue k)

theorem Tidy.run {t : Traffic τ σ} (h : Tidy t) (p : Procedure σ) (happenings : List (Happening τ)) :
    Tidy (t.run p happenings) := by
  induction happenings generalizing t with
  | nil => exact h
  | cons happening rest ih => exact ih (h.step p happening)

theorem tidy_run (p : Procedure σ) (base limit now : τ) (world : σ) (happenings : List (Happening τ)) :
    Tidy ((new base limit now world).run p happenings) :=
  (tidy_new base limit now world).run p happenings

/-! ## What was done to the world -/

theorem Faithful.step {p : Procedure σ} {world : σ} {t : Traffic τ σ} (h : Faithful p world t)
    (happening : Happening τ) : Faithful p world (t.step p happening) := by
  cases happening with
  | record change => exact h.snoc rfl rfl nofun
  | add key =>
    show Faithful p world (if key ∈ t.underway then _ else t)
    split
    · exact h.congr rfl rfl
    · exact h
  | look worker deadline =>
    refine h.congr rfl ?_
    show (t.crew.look p.routine worker deadline).place.subject.world = t.crew.place.subject.world
    rcases Crew.look_cases p.routine worker deadline t.crew with hl | ⟨-, key, queue, -, hl⟩ | hl <;>
      exact congrArg (fun c => c.place.subject.world) hl
  | move worker =>
    have hworld := replay_seen p (t.crew.stage worker) t.place
    rcases seen_cases p (t.crew.stage worker) t.place.subject with hseen | ⟨o, hseen, ho⟩
    · rw [hseen] at hworld
      refine h.congr ?_ hworld.symm
      show t.history ++ p.seen t.place.subject (t.crew.stage worker) = t.history
      rw [hseen, List.append_nil]
    · rw [hseen] at hworld
      refine h.snoc ?_ hworld.symm ho
      show t.history ++ p.seen t.place.subject (t.crew.stage worker) = t.history ++ [o]
      rw [hseen]
  | pass d => exact h.congr rfl rfl
  | shutDown => exact h.congr rfl rfl

theorem faithful_run (p : Procedure σ) (base limit now : τ) (world : σ) (happenings : List (Happening τ)) :
    Faithful p world ((new base limit now world).run p happenings) := by
  have hnew : Faithful p world (new base limit now world : Traffic τ σ) := ⟨rfl, fun _ _ _ _ h => by simp [new] at h⟩
  generalize (new base limit now world : Traffic τ σ) = t at hnew
  induction happenings generalizing t with
  | nil => exact hnew
  | cons happening rest ih => exact ih _ (hnew.step happening)

/-! ## The results -/

/-- **No change is lost, and none is applied out of order.**  However enqueues and workers are interleaved,
and whatever the handlers do with the changes that they are handed: the changes of a pod are handed on in the
order in which they were recorded, and when all is at rest and the queue was not shut down, the change that
was recorded last for a pod was handed to handlers that returned, or the last attempt at the pod was handing
on this very change, and it ended in dropping the pod for the cause of that failure.

All this has really been done: the world is what comes of calling the handlers and telling of drops whenever the
history says so, and nothing else, and the handlers came to the outcomes that it names. -/
theorem delivery (p : Procedure σ) (base limit now : τ) (world : σ) (happenings : List (Happening τ)) :
    let t := (new base limit now world).run p happenings
    (∀ key, (Log.handings (t.log key)).Pairwise fun a b => a.number ≤ b.number) ∧
    (t.AtRest → t.queue.shuttingDown = false → ∀ key r, Log.newest (t.log key) = some r →
      .handed r none ∈ t.history ∨
      ∃ cause before after, t.log key = before ++ .handed r (some cause) :: after ∧
        (∀ o ∈ after, o.isAttempt = false) ∧ .dropped ⟨key, cause⟩ ∈ after) ∧
    t.place.world = p.replay world t.history ∧ p.Truthful world t.history := by
  intro t
  have h : Tidy t := tidy_run p base limit now world happenings
  have hfaithful := faithful_run p base limit now world happenings
  refine ⟨fun key => ?_, fun hr hs key r hn => ?_, hfaithful.world_eq, hfaithful.truthful⟩
  · obtain ⟨holder, -, ht⟩ := h.tended key
    exact ht.in_order
  · have hkey : r.change.key = key :=
      (mem_log.mp (Log.mem_recordings.mp (Log.newest_mem hn))).2
    rcases h.settled_of_atRest hr hs key r hn with hm | ⟨cause, after, ⟨⟨before, hb⟩, ha⟩, hd⟩
    · exact Or.inl (mem_log.mp hm).1
    · exact Or.inr ⟨cause, before, after, hb, ha, hkey ▸ hd⟩

/-- Two workers, and a handler that always refuses one of two pods: at rest this pod was dropped, and what is said
of it was told once.  The world counts the calls of the handler and keeps what it was told. -/
theorem delivery_of_refused_pod :
    let refusing : Handler (Nat × List Text) :=
      { upsert := fun key _ _ (n, told) => ((n + 1, told), if key = ("b" : Text) then some .noMetadata else none)
        delete := fun _ w => (w, none) }
    let p : Procedure (Nat × List Text) :=
      ⟨Table.empty.put "counter" refusing, 1, fun d (n, told) => (n, told ++ [d.message])⟩
    let r : Recorded := ⟨1, ⟨"b", .create, some "net", "ns"⟩⟩
    let t := (new 1 10 0 (0, []) : Traffic Nat (Nat × List Text)).run p
      [.record ⟨"a", .create, some "net", "ns"⟩, .record r.change, .add "b", .look 0 none, .move 0,
        .add "a", .look 1 none, .move 0, .move 1, .move 1, .move 0, .move 0, .move 0, .move 1, .move 1,
        .move 1, .move 0]
    t.AtRest ∧ t.queue.shuttingDown = false ∧
    (∃ cause before after, t.log "b" = before ++ .handed r (some cause) :: after ∧
      (∀ o ∈ after, o.isAttempt = false) ∧ .dropped ⟨"b", cause⟩ ∈ after) ∧
    t.place.world = p.replay (0, []) t.history ∧ t.place.world = (2, [Drop.message ⟨"b", .noMetadata⟩]) := by
  intro refusing p r t
  have hr : t.AtRest := (tidy_run p 1 10 0 (0, []) _).atRest_iff.mpr (by decide +kernel)
  have hs : t.queue.shuttingDown = false := by decide +kernel
  have hn : Log.newest (t.log "b") = some r := by decide +kernel
  have hf : .handed r none ∉ t.history := by decide +kernel
  have htold : t.place.world = (2, [Drop.message ⟨"b", .noMetadata⟩]) := by decide +kernel
  obtain ⟨-, hdelivered, hworld, -⟩ := delivery p 1 10 0 (0, []) _
  exact ⟨hr, hs, (hdelivered hr hs "b" r hn).resolve_left hf, hworld, htold⟩

end Traffic

end NetAttach
