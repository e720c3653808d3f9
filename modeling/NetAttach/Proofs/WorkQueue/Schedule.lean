/-
  In which order delayed keys are added.

  The delayed keys of a queue stand in the order in which they are due, those of one time in the order in which they
  were delayed.  They are added from the front, each at its time, while somebody waits for a key.

  Structure:
  1. while somebody waits, the journal lists what is taken from the front of the delayed keys, and the rest stays
     (`maturities_seenWithin`);
  2. `Scheduled` is the order of the delayed keys, and how they fit together with the journal.  Everything that happens
     to a queue keeps it (`Scheduled.occurrence`), and so does every operation (`scheduled_perform`);
  3. when a delayed key is added follows from when somebody looks (`eq_max_of_matured`), and when somebody who waits is
     answered is known as well (`woken_on_time`).
-/
import NetAttach.Proofs.WorkQueue.Journal
import NetAttach.Proofs.WorkQueue.Waiting

namespace NetAttach

/-! ## Delays in the journal -/

namespace QueueEvent

variable {κ τ : Type}

def delayed? : QueueEvent κ τ → Option (Delayed κ τ)
  | delayed e => some e
  | _ => none

def matured? : QueueEvent κ τ → Option (Delayed κ τ)
  | matured e _ => some e
  | _ => none

/-- The keys that were delayed, in the order in which they were. -/
def delays (log : List (QueueEvent κ τ)) : List (Delayed κ τ) := log.filterMap delayed?

/-- The delayed keys whose time came, in the order in which it was noticed. -/
def maturities (log : List (QueueEvent κ τ)) : List (Delayed κ τ) := log.filterMap matured?

@[simp] theorem maturities_nil : maturities ([] : List (QueueEvent κ τ)) = [] := rfl

@[simp] theorem delays_append (log more : List (QueueEvent κ τ)) : delays (log ++ more) = delays log ++ delays more :=
  List.filterMap_append

@[simp] theorem maturities_append (log more : List (QueueEvent κ τ)) :
    maturities (log ++ more) = maturities log ++ maturities more :=
  List.filterMap_append

theorem mem_maturities {log : List (QueueEvent κ τ)} {e : Delayed κ τ} {t : τ} (h : .matured e t ∈ log) :
    e ∈ maturities log :=
  List.mem_filterMap.mpr ⟨_, h, rfl⟩

/-- Nothing is delayed, and no time comes. -/
def Untimed (log : List (QueueEvent κ τ)) : Prop := ∀ e ∈ log, e.delayed? = none ∧ e.matured? = none

theorem Untimed.delays {log : List (QueueEvent κ τ)} (h : Untimed log) : delays log = [] :=
  List.filterMap_eq_nil_iff.mpr fun e he => (h e he).1

theorem Untimed.maturities {log : List (QueueEvent κ τ)} (h : Untimed log) : maturities log = [] :=
  List.filterMap_eq_nil_iff.mpr fun e he => (h e he).2

theorem Untimed.not_mem {log : List (QueueEvent κ τ)} (h : Untimed log) (e : Delayed κ τ) (t : τ) :
    .matured e t ∉ log :=
  fun he => nomatch (h _ he).2

end QueueEvent

open QueueEvent

namespace WorkQueue

variable {κ τ : Type} [DecidableEq κ]

theorem untimed_seenOfAdd (q : WorkQueue κ τ) (key : κ) : Untimed (q.seenOfAdd key) := fun e he => by
  rw [mem_seenOfAdd he]
  exact ⟨rfl, rfl⟩

theorem untimed_seenOfDone (q : WorkQueue κ τ) (key : κ) : Untimed (q.seenOfDone key) := fun e he => by
  unfold seenOfDone at he
  split at he
  · rw [List.mem_singleton.mp he]
    exact ⟨rfl, rfl⟩
  · exact absurd he List.not_mem_nil

omit [DecidableEq κ] in
theorem untimed_handed (given : Option κ) : Untimed (given.toList.map (handed : κ → QueueEvent κ τ)) := fun e he => by
  obtain ⟨key, -, rfl⟩ := List.mem_map.mp he
  exact ⟨rfl, rfl⟩

/-! ## What becomes of the delayed keys -/

section Maturing

variable [LE τ] [DecidableLE τ]

theorem maturities_seenOfPromoting (now : τ) : ∀ (waiting : List (Delayed κ τ)) (q : WorkQueue κ τ),
    maturities (seenOfPromoting now waiting q) ++ (promoteFrom now waiting q).waiting = waiting
  | [], _ => rfl
  | e :: rest, q => by
    unfold seenOfPromoting promoteFrom
    split
    · have hrest := maturities_seenOfPromoting now rest (q.add e.key)
      show e :: maturities (q.seenOfAdd e.key ++ _) ++ _ = e :: rest
      rw [maturities_append, (untimed_seenOfAdd q e.key).maturities, List.nil_append, List.cons_append, hrest]
    · rfl

theorem due_of_mem_seenOfPromoting {now t : τ} {e : Delayed κ τ} : ∀ {waiting : List (Delayed κ τ)}
    {q : WorkQueue κ τ}, .matured e t ∈ seenOfPromoting now waiting q → t = now ∧ e.due ≤ now
  | [], _, h => absurd h List.not_mem_nil
  | f :: rest, q, h => by
    unfold seenOfPromoting at h
    split at h
    · rename_i hdue
      rcases List.mem_cons.mp h with heq | h
      · obtain ⟨rfl, rfl⟩ := QueueEvent.matured.inj heq
        exact ⟨rfl, hdue⟩
      · rcases List.mem_append.mp h with h | h
        · exact absurd h ((untimed_seenOfAdd q f.key).not_mem e t)
        · exact due_of_mem_seenOfPromoting h
    · exact absurd h List.not_mem_nil

variable [Sub τ] [Zero τ] [LT τ] [DecidableLT τ]

theorem due_of_mem_seenOfLook {deadline : Option τ} {q : WorkQueue κ τ} {now t : τ} {e : Delayed κ τ}
    (h : .matured e t ∈ q.seenOfLook deadline now) : t = now ∧ e.due ≤ now := by
  unfold seenOfLook at h
  split at h
  · exact absurd h List.not_mem_nil
  · rcases List.mem_append.mp h with h | h
    · exact due_of_mem_seenOfPromoting h
    · exact absurd h ((untimed_handed _).not_mem e t)

theorem maturities_seenOfLook (deadline : Option τ) (q : WorkQueue κ τ) (now : τ) :
    maturities (q.seenOfLook deadline now) ++ (q.look deadline now).2.waiting = q.waiting := by
  have hpromote : maturities (seenOfPromoting now q.waiting q) ++ (q.promote now).waiting = q.waiting :=
    maturities_seenOfPromoting now q.waiting q
  unfold seenOfLook
  rcases look_cases deadline q now with ⟨hs, hl⟩ | ⟨hs, key, q', ho, hl⟩ | ⟨hs, -, l, -, hl⟩
  · rw [hl, hs]
    rfl
  · have hwaiting : q'.waiting = (q.promote now).waiting := (handOut_eq_some ho).2.2.2.1
    rw [hl, hs, if_neg Bool.false_ne_true, maturities_append, (untimed_handed _).maturities, List.append_nil]
    exact (congrArg _ hwaiting).trans hpromote
  · rw [hl, hs, if_neg Bool.false_ne_true, maturities_append, (untimed_handed _).maturities, List.append_nil]
    exact hpromote

/-- While somebody waits, delayed keys are taken from the front, and the others stay. -/
theorem maturities_seenWithin [Add τ] (deadline : Option τ) : ∀ (looks : Nat) (q : WorkQueue κ τ) (now : τ),
    maturities (seenWithin deadline looks q now) ++ (getWithin deadline looks q now).2.1.waiting = q.waiting
  | 0, _, _ => rfl
  | looks + 1, q, now => by
    have hlook := maturities_seenOfLook deadline q now
    unfold seenWithin getWithin
    rw [maturities_append]
    cases hl : q.look deadline now with
    | mk l r =>
      rw [hl] at hlook
      cases l with
      | answer h =>
        rw [maturities_nil, List.append_nil]
        exact hlook
      | wait d =>
        rw [List.append_assoc]
        exact (congrArg _ (maturities_seenWithin deadline looks r (now + d))).trans hlook

end Maturing

section Order

variable [LinearOrder τ]

/-- The delayed keys that are due at one time. -/
def dueAt (time : τ) (delayed : List (Delayed κ τ)) : List (Delayed κ τ) := delayed.filter fun e => e.due = time

omit [DecidableEq κ] in
theorem dueAt_append (time : τ) (l m : List (Delayed κ τ)) : dueAt time (l ++ m) = dueAt time l ++ dueAt time m :=
  List.filter_append l m

omit [DecidableEq κ] in
theorem pairwise_insertDelayed (e : Delayed κ τ) {waiting : List (Delayed κ τ)}
    (h : waiting.Pairwise fun f g => f.due ≤ g.due) :
    (insertDelayed e waiting).Pairwise fun f g => f.due ≤ g.due := by
  induction waiting with
  | nil => exact List.pairwise_singleton _ e
  | cons f rest ih =>
    obtain ⟨hf, hrest⟩ := List.pairwise_cons.mp h
    unfold insertDelayed
    split
    · rename_i hfe
      refine List.pairwise_cons.mpr ⟨fun g hg => ?_, ih hrest⟩
      rcases (mem_insertDelayed e g rest).mp hg with rfl | hg
      · exact hfe
      · exact hf g hg
    · rename_i hfe
      have hef : e.due ≤ f.due := (not_le.mp hfe).le
      refine List.pairwise_cons.mpr ⟨fun g hg => ?_, h⟩
      rcases List.mem_cons.mp hg with rfl | hg
      · exact hef
      · exact hef.trans (hf g hg)

omit [DecidableEq κ] in
/-- Of the keys that are due at one time, the one that is delayed last is last. -/
theorem dueAt_insertDelayed (time : τ) (e : Delayed κ τ) {waiting : List (Delayed κ τ)}
    (h : waiting.Pairwise fun f g => f.due ≤ g.due) :
    dueAt time (insertDelayed e waiting) = dueAt time waiting ++ dueAt time [e] := by
  induction waiting with
  | nil => rfl
  | cons f rest ih =>
    obtain ⟨hf, hrest⟩ := List.pairwise_cons.mp h
    unfold insertDelayed
    split
    · rw [← List.singleton_append, dueAt_append, ih hrest, ← List.append_assoc, ← dueAt_append, List.singleton_append]
    · rename_i hfe
      rw [← List.singleton_append, dueAt_append]
      by_cases he : e.due = time
      · -- all that stand behind are due later
        have hlater : dueAt time (f :: rest) = [] := by
          refine List.filter_eq_nil_iff.mpr fun g hg hgt => hfe ?_
          have hfg : f.due ≤ g.due := by
            rcases List.mem_cons.mp hg with rfl | hg
            · exact le_rfl
            · exact hf g hg
          exact hfg.trans ((of_decide_eq_true hgt).trans he.symm).le
        rw [hlater, List.append_nil, List.nil_append]
      · have hnone : dueAt time [e] = [] := List.filter_cons_of_neg (by simpa using he)
        rw [hnone, List.append_nil, List.nil_append]

omit [DecidableEq κ] in
/-- In order, the keys that are due are those in front. -/
theorem takeWhile_due (now : τ) {waiting : List (Delayed κ τ)} (h : waiting.Pairwise fun f g => f.due ≤ g.due) :
    waiting.takeWhile (fun e => e.due ≤ now) = waiting.filter fun e => e.due ≤ now := by
  induction waiting with
  | nil => rfl
  | cons f rest ih =>
    obtain ⟨hf, hrest⟩ := List.pairwise_cons.mp h
    by_cases hdue : f.due ≤ now
    · simp only [List.takeWhile_cons, List.filter_cons, hdue, decide_true, if_true, ih hrest]
    · simp only [List.takeWhile_cons, List.filter_cons, hdue, decide_false, Bool.false_eq_true, if_false]
      refine (List.filter_eq_nil_iff.mpr fun g hg hgdue => hdue ?_).symm
      exact (hf g hg).trans (of_decide_eq_true hgdue)

/-- How the delayed keys of a queue and its journal fit together.  A queue that is shutting down has forgotten them. -/
structure Scheduled (q : WorkQueue κ τ) (log : List (QueueEvent κ τ)) : Prop where
  sorted : q.waiting.Pairwise fun e f => e.due ≤ f.due
  inTurn : q.shuttingDown = false → ∀ time,
    dueAt time (delays log) = dueAt time (maturities log) ++ dueAt time q.waiting
  notEarly : ∀ e t, .matured e t ∈ log → e.due ≤ t

omit [DecidableEq κ] in
theorem scheduled_empty : Scheduled (empty : WorkQueue κ τ) [] :=
  ⟨List.Pairwise.nil, fun _ _ => rfl, fun _ _ h => absurd h List.not_mem_nil⟩

omit [DecidableEq κ] in
theorem Scheduled.of_untimed {q r : WorkQueue κ τ} {log events : List (QueueEvent κ τ)} (h : Scheduled q log)
    (hwaiting : r.waiting = q.waiting) (hshut : r.shuttingDown = q.shuttingDown) (hevents : Untimed events) :
    Scheduled r (log ++ events) := by
  refine ⟨hwaiting ▸ h.sorted, fun hopen time => ?_, fun e t he => ?_⟩
  · rw [delays_append, maturities_append, hevents.delays, hevents.maturities, List.append_nil, List.append_nil,
      hwaiting]
    exact h.inTurn (hshut.symm.trans hopen) time
  · exact (List.mem_append.mp he).elim (h.notEarly e t) fun he => absurd he (hevents.not_mem e t)

/-- Everything that happens to a queue keeps its delayed keys in turn. -/
theorem Scheduled.occurrence {q q' : WorkQueue κ τ} {log events : List (QueueEvent κ τ)} (h : Scheduled q log)
    (hq : Occurrence q events q') : Scheduled q' (log ++ events) := by
  cases hq with
  | add _ key =>
    refine h.of_untimed (waiting_add q key) (shuttingDown_add q key) ?_
    exact List.forall_mem_cons.mpr ⟨⟨rfl, rfl⟩, untimed_seenOfAdd q key⟩
  | delay _ e =>
    refine ⟨pairwise_insertDelayed e h.sorted, fun hopen time => ?_, fun f t hf => ?_⟩
    · have hdelays : delays (log ++ [.delayed e]) = delays log ++ [e] := delays_append log [.delayed e]
      have hmaturities : maturities (log ++ [.delayed e]) = maturities log :=
        (maturities_append log [.delayed e]).trans (List.append_nil _)
      rw [hdelays, hmaturities, dueAt_append, h.inTurn hopen time, dueAt_insertDelayed time e h.sorted,
        List.append_assoc]
    · rcases List.mem_append.mp hf with hf | hf
      · exact h.notEarly f t hf
      · exact nomatch List.mem_singleton.mp hf
  | mature r e rest now hdue =>
    have hadded := untimed_seenOfAdd r e.key
    refine ⟨(List.pairwise_cons.mp h.sorted).2, fun hopen time => ?_, fun f t hf => ?_⟩
    · have hdelays : delays (log ++ .matured e now :: r.seenOfAdd e.key) = delays log := by
        rw [delays_append]
        exact (congrArg _ hadded.delays).trans (List.append_nil _)
      have hmaturities : maturities (log ++ .matured e now :: r.seenOfAdd e.key) = maturities log ++ [e] := by
        rw [maturities_append]
        exact congrArg (fun l => maturities log ++ e :: l) hadded.maturities
      -- `e` goes from the front of the delayed keys to the end of those whose time came
      have hturn : dueAt time (delays log) = dueAt time (maturities log) ++ dueAt time (e :: rest) :=
        h.inTurn ((shuttingDown_add r e.key).symm.trans hopen) time
      rw [hdelays, hmaturities, hturn, dueAt_append, List.append_assoc, ← dueAt_append time [e]]
      rfl
    · rcases List.mem_append.mp hf with hf | hf
      · exact h.notEarly f t hf
      · rcases List.mem_cons.mp hf with heq | hf
        · obtain ⟨rfl, rfl⟩ := QueueEvent.matured.inj heq
          exact hdue
        · exact absurd hf (hadded.not_mem f t)
  | hand ho =>
    obtain ⟨-, -, -, hwaiting, hshut⟩ := handOut_eq_some ho
    exact h.of_untimed hwaiting hshut (List.forall_mem_singleton.mpr ⟨rfl, rfl⟩)
  | @done _ key _ => exact h.of_untimed rfl rfl (untimed_seenOfDone q key)

theorem Scheduled.course {q q' : WorkQueue κ τ} {log more : List (QueueEvent κ τ)} (h : Scheduled q log)
    (hq : Course q more q') : Scheduled q' (log ++ more) :=
  hq.induct (P := Scheduled) (fun hstep hp => hp.occurrence hstep) h

end Order

section Exact

variable [AddCommGroup τ] [LinearOrder τ] [IsOrderedAddMonoid τ]

/-- A delayed key is added when it is due, or at once if it was due before somebody asked. -/
theorem eq_max_of_matured (deadline : Option τ) {e : Delayed κ τ} {t : τ} : ∀ (looks : Nat) (q : WorkQueue κ τ)
    (now : τ), q.shuttingDown = false → (∀ last ∈ deadline, now ≤ last) →
    (q.waiting.Pairwise fun f g => f.due ≤ g.due) →
    .matured e t ∈ seenWithin deadline looks q now → t = max now e.due
  | 0, _, _, _, _, _, h => absurd h List.not_mem_nil
  | looks + 1, q, now, hopen, hnow, hsorted, h => by
    have hglance := glance q deadline now hopen hnow
    unfold seenWithin at h
    rcases List.mem_append.mp h with h | h
    · obtain ⟨rfl, hdue⟩ := due_of_mem_seenOfLook h
      exact (max_eq_left hdue).symm
    · cases hl : q.look deadline now with
      | mk l r =>
      rw [hl] at h hglance
      cases hglance with
      | found | expired | forsaken => exact absurd h List.not_mem_nil
      | @wait next _ hlt hlast hdue _ =>
        have hlater : (q.promote now).waiting.Pairwise fun f g => f.due ≤ g.due := by
          rw [waiting_promote]
          exact hsorted.sublist (List.dropWhile_sublist _)
        change .matured e t ∈ seenWithin deadline looks (q.promote now) (now + (next - now)) at h
        rw [add_sub_cancel] at h
        have ht := eq_max_of_matured deadline looks (q.promote now) next
          ((shuttingDown_promote q now).trans hopen) hlast hlater h
        -- the key is one of those that are left, and none of them is due before the next look
        have hmem : e ∈ (q.promote now).waiting := by
          rw [← maturities_seenWithin deadline looks (q.promote now) next]
          exact List.mem_append_left _ (mem_maturities h)
        have hnext : next ≤ e.due := by
          cases hw : (q.promote now).waiting with
          | nil => exact absurd (hw ▸ hmem) List.not_mem_nil
          | cons f rest =>
            rw [hw] at hmem hlater hdue
            rcases List.mem_cons.mp hmem with rfl | hmem
            · exact hdue e rfl
            · exact (hdue f rfl).trans ((List.pairwise_cons.mp hlater).1 e hmem)
        rw [ht, max_eq_right hnext, max_eq_right (hlt.le.trans hnext)]

end Exact

end WorkQueue

namespace InUse

open WorkQueue

variable {κ τ σ : Type} [DecidableEq κ] [AddCommGroup τ] [LinearOrder τ] [IsOrderedAddMonoid τ]

omit [IsOrderedAddMonoid τ] in
/-- Every operation keeps the delayed keys in turn. -/
theorem scheduled_perform {s : InUse κ τ σ} {log : List (QueueEvent κ τ)} (h : s.place.queue.Scheduled log)
    (op : Operation κ τ) : (s.perform op).place.queue.Scheduled (log ++ s.seen op) := by
  cases op with
  | add key => exact h.course (Occurrence.add _ key).course
  | addAfter key delay => exact h.course (course_addAfter _ _ key delay)
  | addRateLimited key => exact h.course (course_addAfter _ _ key _)
  | look caller deadline => exact h.course (course_look deadline _ _)
  | get caller timeout => exact h.course (course_get _ _ timeout)
  | done caller key => exact h.of_untimed rfl rfl (untimed_seenOfDone _ key)
  | forget key => exact h.of_untimed rfl rfl fun e he => absurd he List.not_mem_nil
  | advance d => exact h.of_untimed rfl rfl fun e he => absurd he List.not_mem_nil
  | shutDown =>
    refine ⟨List.Pairwise.nil, fun hopen => (nomatch hopen), fun e t he => h.notEarly e t ?_⟩
    rwa [← List.append_nil log]

omit [IsOrderedAddMonoid τ] in
theorem scheduled_run {s : InUse κ τ σ} {log : List (QueueEvent κ τ)} (h : s.place.queue.Scheduled log)
    (ops : List (Operation κ τ)) : (s.run ops).place.queue.Scheduled (log ++ s.journal ops) := by
  induction ops generalizing s log with
  | nil => exact (List.append_nil log).symm ▸ h
  | cons op rest ih =>
    show (InUse.run (s.perform op) rest).place.queue.Scheduled (log ++ (s.seen op ++ _))
    rw [← List.append_assoc]
    exact ih (scheduled_perform h op)

/-- **Who waits for a key is woken on time.**  Callers have used a queue in any way, and it has not been shut down; now
somebody asks for a key, for ever or with a timeout that is not negative.  If a key is ready, once all that is due has
been added, at some time until the timeout is over, then the first ready key is handed out at the earliest such time.
Otherwise nothing is handed out: at the end of the timeout, or never, and then no key is delayed any more.  Meanwhile
exactly those delayed keys are added that are due by then, each when it is due or at once, in the order in which they
are due, and those of one time in the order in which they were delayed. -/
theorem woken_on_time (place : Workplace κ τ σ) (ops : List (Operation κ τ))
    (hopen : ((opened place).run ops).place.queue.shuttingDown = false) (now : τ) {timeout : Option τ}
    (htimeout : ∀ d ∈ timeout, 0 ≤ d) :
    let q := ((opened place).run ops).place.queue
    let log := (opened place).journal ops
    let times := q.ripe now (timeout.map fun d => now + d)
    let got := q.get now timeout
    let seen := q.seenOfGet now timeout
    (times.Nonempty → IsLeast times got.2.2 ∧
      ∃ key, got.1 = .key key ∧ (q.promote got.2.2).handOut = some (key, got.2.1)) ∧
    (times = ∅ → got.2.1 = q.promote got.2.2 ∧ timeout.elim (got.1 = .blocked ∧ got.2.1.waiting = []) fun d =>
      got.1 = .nothing ∧ got.2.2 = now + d) ∧
    maturities seen = q.waiting.filter (fun e => e.due ≤ got.2.2) ∧
    (∀ e t, .matured e t ∈ seen → t = max now e.due) ∧
    (∀ e t, .matured e t ∈ log → e.due ≤ t) ∧
    (q.waiting.Pairwise fun e f => e.due ≤ f.due) ∧
    ∀ time, dueAt time (delays log) = dueAt time (maturities log) ++ dueAt time q.waiting := by
  intro q log times got seen
  have hscheduled : q.Scheduled log := scheduled_run (s := opened place) scheduled_empty ops
  have htimely : q.Timely (timeout.map fun d => now + d) now got := get_timely hopen now htimeout
  have hdeadline : ∀ last ∈ timeout.map fun d => now + d, now ≤ last := fun last hlast => by
    obtain ⟨d, hd, rfl⟩ := Option.mem_map.mp hlast
    exact le_add_of_nonneg_right (htimeout d hd)
  refine ⟨htimely.of_nonempty, fun hnone => ?_, ?_, fun e t he => ?_, hscheduled.notEarly, hscheduled.sorted,
    hscheduled.inTurn hopen⟩
  · have hunserved := htimely.of_empty hnone
    cases timeout with
    | none => exact hunserved
    | some d => exact hunserved
  · -- what was added and what is left make up what was delayed
    have hparts : maturities seen ++ got.2.1.waiting = q.waiting := maturities_seenWithin _ _ q now
    rw [htimely.waiting, waiting_promote] at hparts
    rw [← takeWhile_due got.2.2 hscheduled.sorted]
    exact List.append_cancel_right (hparts.trans (List.takeWhile_append_dropWhile).symm)
  · exact eq_max_of_matured _ _ q now hopen hdeadline hscheduled.sorted he

/-- Key 1 is held, and its time comes while somebody waits; keys 2 and 3 are due exactly when the timeout is over. -/
theorem woken_on_time_at_deadline :
    let start : InUse Nat Int Unit := opened (.new 1 10 0 ())
    let ops : List (Operation Nat Int) := [.add 1, .look 0 none, .addAfter 2 5, .addAfter 3 5, .addAfter 1 3]
    let q := (start.run ops).place.queue
    q.shuttingDown = false ∧ (∀ d ∈ some (5 : Int), 0 ≤ d) ∧ (q.ripe 0 (some (0 + 5))).Nonempty ∧
    (q.get 0 (some 5)).2.2 = 5 ∧ IsLeast (q.ripe 0 (some (0 + 5))) (q.get 0 (some 5)).2.2 ∧
    (q.get 0 (some 5)).1 = .key 2 := by
  intro start ops q
  have hopen : q.shuttingDown = false := by decide +kernel
  have htimeout : ∀ d ∈ some (5 : Int), 0 ≤ d := by decide
  have hripe : (q.ripe 0 (some (0 + 5))).Nonempty := by
    refine ⟨5, by decide, fun last hlast => ?_, by decide +kernel⟩
    obtain rfl := Option.some.inj hlast
    decide
  refine ⟨hopen, htimeout, hripe, by decide +kernel, ?_, by decide +kernel⟩
  -- from here on it does not matter any more what the operations are
  clear_value ops
  exact ((woken_on_time (.new 1 10 0 ()) ops hopen 0 htimeout).1 hripe).1

end InUse

end NetAttach
