/-
  What is seen of a queue while callers use it.

  A journal lists what happens to a queue: a key is added or delayed, the time of a delayed key comes, a key becomes
  ready, a key is handed out.  What an operation of a caller writes down is read off the queue that it finds
  (`InUse.seen`), so that an operation which looks several times while it waits has all its looks in the journal.

  Structure:
  1. `Occurrence` are the five things that can happen to an open queue, each with what is seen of it.  Every operation
     is a `Course` of them (`course_perform`), so what each of them keeps is kept by every run (`Course.induct`);
  2. `Accounted` says how a queue and its journal fit together: whoever was asked for is handed out later or still
     expected, a key is handed out at most once for each time that it was asked for, and the keys that became ready
     are those that were handed out followed by those that are ready, in this order (`Accounted.occurrence`);
  3. what a queue without work comes to is read off this (`asks_answered_in_turn`).
-/
import NetAttach.Proofs.WorkQueue.Exclusivity
import NetAttach.Proofs.WorkQueue.Expected

namespace NetAttach

/-! ## The journal -/

/-- What is seen of a queue. -/
inductive QueueEvent (κ τ : Type) where
  /-- There is work for a key. -/
  | added (key : κ)
  /-- There will be work for a key when its time has come. -/
  | delayed (e : Delayed κ τ)
  /-- The clock shows `now`, and the time of a delayed key has come. -/
  | matured (e : Delayed κ τ) (now : τ)
  /-- A key becomes ready. -/
  | entered (key : κ)
  | handed (key : κ)

namespace QueueEvent

variable {κ τ : Type}

/-- The key for which there is work now. -/
def asked? : QueueEvent κ τ → Option κ
  | added key => some key
  | matured e _ => some e.key
  | _ => none

/-- The key for which there is work now or later. -/
def promised? : QueueEvent κ τ → Option κ
  | added key => some key
  | delayed e | matured e _ => some e.key
  | _ => none

def entered? : QueueEvent κ τ → Option κ
  | entered key => some key
  | _ => none

def handed? : QueueEvent κ τ → Option κ
  | handed key => some key
  | _ => none

/-- How the keys were asked for, in order. -/
def asks (log : List (QueueEvent κ τ)) : List κ := log.filterMap asked?

/-- The keys that became ready, in order. -/
def entries (log : List (QueueEvent κ τ)) : List κ := log.filterMap entered?

/-- The keys that were handed out, in order. -/
def handings (log : List (QueueEvent κ τ)) : List κ := log.filterMap handed?

@[simp] theorem asks_nil : asks ([] : List (QueueEvent κ τ)) = [] := rfl

@[simp] theorem entries_nil : entries ([] : List (QueueEvent κ τ)) = [] := rfl

@[simp] theorem handings_nil : handings ([] : List (QueueEvent κ τ)) = [] := rfl

@[simp] theorem asks_cons (e : QueueEvent κ τ) (log : List (QueueEvent κ τ)) :
    asks (e :: log) = e.asked?.toList ++ asks log := by
  cases h : e.asked? <;> simp [asks, h]

@[simp] theorem entries_cons (e : QueueEvent κ τ) (log : List (QueueEvent κ τ)) :
    entries (e :: log) = e.entered?.toList ++ entries log := by
  cases h : e.entered? <;> simp [entries, h]

@[simp] theorem handings_cons (e : QueueEvent κ τ) (log : List (QueueEvent κ τ)) :
    handings (e :: log) = e.handed?.toList ++ handings log := by
  cases h : e.handed? <;> simp [handings, h]

@[simp] theorem asks_append (log more : List (QueueEvent κ τ)) : asks (log ++ more) = asks log ++ asks more :=
  List.filterMap_append

@[simp] theorem entries_append (log more : List (QueueEvent κ τ)) :
    entries (log ++ more) = entries log ++ entries more :=
  List.filterMap_append

@[simp] theorem handings_append (log more : List (QueueEvent κ τ)) :
    handings (log ++ more) = handings log ++ handings more :=
  List.filterMap_append

end QueueEvent

open QueueEvent

namespace WorkQueue

variable {κ τ : Type} [DecidableEq κ]

/-- A key that is added becomes ready, unless it is dirty already, or held. -/
def seenOfAdd (q : WorkQueue κ τ) (key : κ) : List (QueueEvent κ τ) :=
  if q.shuttingDown || q.dirty.contains key || q.processing.contains key then [] else [.entered key]

/-- A key that was added while it was held becomes ready when its holder is done. -/
def seenOfDone (q : WorkQueue κ τ) (key : κ) : List (QueueEvent κ τ) :=
  if q.dirty.contains key then [.entered key] else []

section Delays

variable [LE τ] [DecidableLE τ]

def seenOfAddAfter [Add τ] [Zero τ] (q : WorkQueue κ τ) (now : τ) (key : κ) (delay : τ) : List (QueueEvent κ τ) :=
  if delay ≤ 0 then .added key :: q.seenOfAdd key
  else if q.shuttingDown then [] else [.delayed ⟨now + delay, key⟩]

def seenOfPromoting (now : τ) : List (Delayed κ τ) → WorkQueue κ τ → List (QueueEvent κ τ)
  | [], _ => []
  | e :: rest, q =>
    if e.due ≤ now then .matured e now :: q.seenOfAdd e.key ++ seenOfPromoting now rest (q.add e.key) else []

variable [Sub τ] [Zero τ] [LT τ] [DecidableLT τ]

def seenOfLook (deadline : Option τ) (q : WorkQueue κ τ) (now : τ) : List (QueueEvent κ τ) :=
  if q.shuttingDown then []
  else seenOfPromoting now q.waiting q ++ (q.look deadline now).1.key?.toList.map .handed

/-- What is seen while somebody waits for a key, looking at most `looks` times. -/
def seenWithin [Add τ] (deadline : Option τ) : (looks : Nat) → WorkQueue κ τ → τ → List (QueueEvent κ τ)
  | 0, _, _ => []
  | looks + 1, q, now =>
    q.seenOfLook deadline now ++
      match q.look deadline now with
      | (.answer _, _) => []
      | (.wait d, q) => seenWithin deadline looks q (now + d)

def seenOfGet [Add τ] (q : WorkQueue κ τ) (now : τ) (timeout : Option τ) : List (QueueEvent κ τ) :=
  seenWithin (timeout.map fun t => now + t) q.looksNeeded q now

end Delays

/-! ## What can happen to a queue -/

/-- `Occurrence q events q'`: one thing happens to `q`, of which `events` are seen, and `q'` is left. -/
inductive Occurrence [LE τ] [DecidableLE τ] : WorkQueue κ τ → List (QueueEvent κ τ) → WorkQueue κ τ → Prop where
  | add (q : WorkQueue κ τ) (key : κ) : Occurrence q (.added key :: q.seenOfAdd key) (q.add key)
  | delay (q : WorkQueue κ τ) (e : Delayed κ τ) :
    Occurrence q [.delayed e] { q with waiting := insertDelayed e q.waiting }
  | mature (q : WorkQueue κ τ) (e : Delayed κ τ) (rest : List (Delayed κ τ)) (now : τ) (hdue : e.due ≤ now) :
    Occurrence { q with waiting := e :: rest } (.matured e now :: q.seenOfAdd e.key)
      { q.add e.key with waiting := rest }
  | hand {q q' : WorkQueue κ τ} {key : κ} (ho : q.handOut = some (key, q')) : Occurrence q [.handed key] q'
  | done {q : WorkQueue κ τ} {key : κ} (hkey : key ∈ q.processing) : Occurrence q (q.seenOfDone key) (q.done key)

/-- One thing after another. -/
inductive Course [LE τ] [DecidableLE τ] : WorkQueue κ τ → List (QueueEvent κ τ) → WorkQueue κ τ → Prop where
  | refl (q : WorkQueue κ τ) : Course q [] q
  | head {q r q' : WorkQueue κ τ} {events log : List (QueueEvent κ τ)} :
    Occurrence q events r → Course r log q' → Course q (events ++ log) q'

section Courses

variable [LE τ] [DecidableLE τ]

theorem Occurrence.course {q q' : WorkQueue κ τ} {events : List (QueueEvent κ τ)} (h : Occurrence q events q') :
    Course q events q' := by
  have hcourse := Course.head h (Course.refl q')
  rwa [List.append_nil] at hcourse

theorem Course.trans {q r q' : WorkQueue κ τ} {log more : List (QueueEvent κ τ)} (h : Course q log r)
    (h' : Course r more q') : Course q (log ++ more) q' := by
  induction h with
  | refl q => exact h'
  | head hoccurs _ ih =>
    rw [List.append_assoc]
    exact .head hoccurs (ih h')

/-- What everything that happens keeps is kept all along. -/
theorem Course.induct {P : WorkQueue κ τ → List (QueueEvent κ τ) → Prop}
    (hstep : ∀ {q q' : WorkQueue κ τ} {events log : List (QueueEvent κ τ)},
      Occurrence q events q' → P q log → P q' (log ++ events))
    {q q' : WorkQueue κ τ} {log more : List (QueueEvent κ τ)} (h : Course q more q') (hq : P q log) :
    P q' (log ++ more) := by
  induction h generalizing log with
  | refl q => rwa [List.append_nil]
  | head hoccurs _ ih =>
    rw [← List.append_assoc]
    exact ih (hstep hoccurs hq)

/-! ## Operations are courses -/

theorem course_addAfter [Add τ] [Zero τ] (q : WorkQueue κ τ) (now : τ) (key : κ) (delay : τ) :
    Course q (q.seenOfAddAfter now key delay) (q.addAfter now key delay) := by
  unfold seenOfAddAfter addAfter
  split
  · exact (Occurrence.add q key).course
  · by_cases hs : q.shuttingDown = true
    · rw [if_pos hs, if_pos hs]
      exact .refl q
    · rw [if_neg hs, if_neg hs]
      exact (Occurrence.delay q ⟨now + delay, key⟩).course

theorem course_promoteFrom (now : τ) : ∀ (waiting : List (Delayed κ τ)) (q : WorkQueue κ τ),
    Course { q with waiting } (seenOfPromoting now waiting q) (promoteFrom now waiting q)
  | [], q => .refl _
  | e :: rest, q => by
    unfold seenOfPromoting promoteFrom
    split
    · rename_i hdue
      exact .head (.mature q e rest now hdue) (course_promoteFrom now rest (q.add e.key))
    · exact .refl _

theorem course_promote (q : WorkQueue κ τ) (now : τ) :
    Course q (seenOfPromoting now q.waiting q) (q.promote now) :=
  course_promoteFrom now q.waiting q

variable [Sub τ] [Zero τ] [LT τ] [DecidableLT τ]

theorem course_look (deadline : Option τ) (q : WorkQueue κ τ) (now : τ) :
    Course q (q.seenOfLook deadline now) (q.look deadline now).2 := by
  unfold seenOfLook
  rcases look_cases deadline q now with ⟨hs, hl⟩ | ⟨hs, key, q', ho, hl⟩ | ⟨hs, -, l, hk, hl⟩
  · rw [hl, hs]
    exact .refl q
  · rw [hl, hs]
    exact (course_promote q now).trans (Occurrence.hand ho).course
  · rw [hl, hs, hk]
    exact (course_promote q now).trans (.refl _)

/-- By induction on how often somebody looks. -/
theorem course_getWithin [Add τ] (deadline : Option τ) : ∀ (looks : Nat) (q : WorkQueue κ τ) (now : τ),
    Course q (seenWithin deadline looks q now) (getWithin deadline looks q now).2.1
  | 0, q, _ => .refl q
  | looks + 1, q, now => by
    have hlook := course_look deadline q now
    unfold seenWithin getWithin
    cases hl : q.look deadline now with
    | mk l r =>
      rw [hl] at hlook
      cases l with
      | answer h => exact hlook.trans (.refl r)
      | wait d => exact hlook.trans (course_getWithin deadline looks r (now + d))

theorem course_get [Add τ] (q : WorkQueue κ τ) (now : τ) (timeout : Option τ) :
    Course q (q.seenOfGet now timeout) (q.get now timeout).2.1 :=
  course_getWithin _ _ q now

end Courses

/-! ## How a queue and its journal fit together -/

/-- Whoever was asked for, at once or for later, was handed out afterwards, or is expected. -/
def Owed (expected : κ → Prop) (log : List (QueueEvent κ τ)) : Prop :=
  ∀ before e after key, log = before ++ e :: after → e.promised? = some key → .handed key ∈ after ∨ expected key

omit [DecidableEq κ] in
theorem Owed.snoc {expected expected' : κ → Prop} {log : List (QueueEvent κ τ)} (h : Owed expected log)
    {e : QueueEvent κ τ} (hstill : ∀ key, expected key → e = .handed key ∨ expected' key)
    (hnew : ∀ key, e.promised? = some key → expected' key) : Owed expected' (log ++ [e]) := by
  intro before f after key hlog hf
  rcases snoc_eq_append_cons hlog with ⟨-, -, rfl⟩ | ⟨rest, rfl, hl⟩
  · exact Or.inr (hnew key hf)
  · rcases h before f rest key hl hf with hhanded | hexpected
    · exact Or.inl (List.mem_append_left [e] hhanded)
    · rcases hstill key hexpected with rfl | hexpected'
      · exact Or.inl (List.mem_append_right rest List.mem_cons_self)
      · exact Or.inr hexpected'

omit [DecidableEq κ] in
theorem Owed.mono {expected expected' : κ → Prop} {log : List (QueueEvent κ τ)} (h : Owed expected log)
    (hstill : ∀ key, expected key → expected' key) : Owed expected' log :=
  fun before e after key hlog he => (h before e after key hlog he).imp id (hstill key)

/-- How a queue and its journal fit together. -/
structure Accounted (q : WorkQueue κ τ) (log : List (QueueEvent κ τ)) : Prop where
  owed : Owed q.Expects log
  /-- A key that is dirty was asked for once more than it was handed out. -/
  supplied : ∀ key, (handings log).count key + q.dirty.count key ≤ (asks log).count key
  inOrder : entries log = handings log ++ q.ready

theorem accounted_empty : Accounted (empty : WorkQueue κ τ) [] := by
  refine ⟨fun before e after key hlog => ?_, fun key => ?_, rfl⟩
  · exact absurd hlog (by simp)
  · simp [empty, handings, asks]

/-- The journal stays as it is, and so do the queue's keys, as far as they are not expected anyway. -/
theorem Accounted.of_expects {q r : WorkQueue κ τ} {log : List (QueueEvent κ τ)} (h : Accounted q log)
    (hexpects : ∀ key, q.Expects key → r.Expects key) (hdirty : r.dirty = q.dirty) (hready : r.ready = q.ready) :
    Accounted r log :=
  ⟨h.owed.mono hexpects, by rw [hdirty]; exact h.supplied, by rw [hready]; exact h.inOrder⟩

theorem count_dirty_add_le (q : WorkQueue κ τ) (key k : κ) :
    (q.add key).dirty.count k ≤ q.dirty.count k + [key].count k := by
  have hcons : (key :: q.dirty).count k = q.dirty.count k + [key].count k := by
    rw [← List.singleton_append, List.count_append, Nat.add_comm]
  unfold add
  split
  · exact Nat.le_add_right _ _
  · split <;> exact hcons.le

/-- What is seen of adding is that a key becomes ready, and it is added to the ready ones. -/
theorem ready_add (q : WorkQueue κ τ) (key : κ) : (q.add key).ready = q.ready ++ entries (q.seenOfAdd key) := by
  unfold add seenOfAdd
  by_cases h : (q.shuttingDown || q.dirty.contains key) = true
  · rw [if_pos h, if_pos (by rw [h]; rfl)]
    exact (List.append_nil _).symm
  · rw [if_neg h, Bool.eq_false_iff.mpr h, Bool.false_or]
    by_cases hp : q.processing.contains key = true
    · rw [if_pos hp, if_pos hp]
      exact (List.append_nil _).symm
    · rw [if_neg hp, if_neg hp]
      rfl

/-- Becoming ready is all that is seen of adding. -/
theorem mem_seenOfAdd {q : WorkQueue κ τ} {key : κ} {e : QueueEvent κ τ} (h : e ∈ q.seenOfAdd key) :
    e = .entered key := by
  unfold seenOfAdd at h
  split at h
  · exact absurd h List.not_mem_nil
  · exact List.mem_singleton.mp h

theorem handings_seenOfAdd (q : WorkQueue κ τ) (key : κ) : handings (q.seenOfAdd key) = [] :=
  List.filterMap_eq_nil_iff.mpr fun e he => by rw [mem_seenOfAdd he]; rfl

theorem asks_seenOfAdd (q : WorkQueue κ τ) (key : κ) : asks (q.seenOfAdd key) = [] :=
  List.filterMap_eq_nil_iff.mpr fun e he => by rw [mem_seenOfAdd he]; rfl

/-- A key is asked for, and it is added. -/
theorem Accounted.ask {q : WorkQueue κ τ} {log : List (QueueEvent κ τ)} (h : Accounted q log) {e : QueueEvent κ τ}
    {key : κ} (he : e = .added key ∨ ∃ d now, e = .matured d now ∧ d.key = key) :
    Accounted (q.add key) (log ++ e :: q.seenOfAdd key) := by
  have hasked : e.asked? = some key ∧ e.promised? = some key ∧ e.entered? = none ∧ e.handed? = none := by
    rcases he with rfl | ⟨d, now, rfl, rfl⟩ <;> exact ⟨rfl, rfl, rfl, rfl⟩
  obtain ⟨hask, hpromise, hentry, hhanding⟩ := hasked
  rw [← List.singleton_append, ← List.append_assoc]
  refine ⟨?_, fun k => ?_, ?_⟩
  · have hasking : Owed (q.add key).Expects (log ++ [e]) := by
      refine h.owed.snoc (fun k hk => Or.inr (hk.add key)) fun k hk => ?_
      obtain rfl := Option.some.inj (hpromise.symm.trans hk)
      exact expects_add q key
    -- what else is seen promises nothing
    unfold seenOfAdd
    split
    · rwa [List.append_nil]
    · exact hasking.snoc (fun k hk => Or.inr hk) fun k hk => nomatch hk
  · have hsupplied := h.supplied k
    have hdirty := count_dirty_add_le q key k
    simp only [handings_append, handings_cons, handings_nil, hhanding, handings_seenOfAdd, asks_append, asks_cons,
      asks_nil, hask, asks_seenOfAdd, Option.toList, List.append_nil, List.count_append]
    omega
  · simp only [entries_append, entries_cons, entries_nil, hentry, handings_append, handings_cons, handings_nil,
      hhanding, handings_seenOfAdd, ready_add, Option.toList, List.append_nil]
    rw [h.inOrder, List.append_assoc]

section Occurrences

variable [LE τ] [DecidableLE τ]

theorem Sound.occurrence {q q' : WorkQueue κ τ} {events : List (QueueEvent κ τ)} (h : Sound q)
    (hq : Occurrence q events q') : Sound q' := by
  cases hq with
  | add _ key => exact h.add key
  | delay _ e => exact h.congr rfl rfl rfl
  | mature r e rest now hdue =>
    have hr : Sound r := h.congr rfl rfl rfl
    exact (hr.add e.key).congr rfl rfl rfl
  | hand ho => exact h.handOut ho
  | done hkey => exact h.done hkey

theorem Occurrence.shuttingDown {q q' : WorkQueue κ τ} {events : List (QueueEvent κ τ)} (h : Occurrence q events q') :
    q'.shuttingDown = q.shuttingDown := by
  cases h with
  | add _ key => exact shuttingDown_add q key
  | mature r e rest now hdue => exact shuttingDown_add r e.key
  | hand ho => exact (handOut_eq_some ho).2.2.2.2
  | delay | done => rfl

/-- Everything that happens to a queue keeps it accounted for. -/
theorem Accounted.occurrence {q q' : WorkQueue κ τ} {log events : List (QueueEvent κ τ)} (h : Accounted q log)
    (hs : Sound q) (hq : Occurrence q events q') : Accounted q' (log ++ events) := by
  cases hq with
  | add _ key => exact h.ask (Or.inl rfl)
  | delay _ e =>
    refine ⟨h.owed.snoc (fun k hk => Or.inr ?_) fun k hk => ?_, ?_, ?_⟩
    · refine hk.of_le id (fun hd => Or.inr (Or.inl hd)) fun f hf hkey => Or.inr (Or.inr ⟨f, ?_, hkey⟩)
      exact (mem_insertDelayed e f q.waiting).mpr (Or.inr hf)
    · exact Or.inr (Or.inr ⟨e, (mem_insertDelayed e e q.waiting).mpr (Or.inl rfl), Option.some.inj hk⟩)
    · simpa [handed?, asked?] using h.supplied
    · simpa [handed?, entered?] using h.inOrder
  | mature r e rest now hdue =>
    have hasked := h.ask (Or.inr ⟨e, now, rfl, rfl⟩)
    rw [add_withWaiting] at hasked
    refine hasked.of_expects (fun k hk => ?_) rfl rfl
    -- `e` does not wait any more, but its key is dirty now
    refine hk.of_le id (fun hd => Or.inr (Or.inl hd)) fun f hf hkey => ?_
    rcases List.mem_cons.mp hf with rfl | hf
    · rw [← hkey, ← add_withWaiting]
      exact expects_add _ f.key
    · exact Or.inr (Or.inr ⟨f, hf, hkey⟩)
  | @hand _ _ key ho =>
    obtain ⟨hready, hdirty, -, -, -⟩ := handOut_eq_some ho
    refine ⟨h.owed.snoc (fun k hk => ?_) fun k hk => (nomatch hk), fun k => ?_, ?_⟩
    · by_cases hkey : k = key
      · exact Or.inl (hkey ▸ rfl)
      · exact Or.inr (hk.handOut ho hkey)
    · have hsupplied := h.supplied k
      have hmem : key ∈ q.dirty := ((hs.mem_ready key).mp (hready ▸ List.mem_cons_self)).1
      have hpos : 0 < q.dirty.count key := List.count_pos_iff.mpr hmem
      simp only [handings_append, handings_cons, handings_nil, asks_append, asks_cons, asks_nil, handed?, asked?,
        Option.toList, List.append_nil, List.count_append, hdirty]
      by_cases hkey : k = key
      · subst hkey
        rw [List.count_singleton_self, List.count_erase_self]
        omega
      · rw [List.count_erase_of_ne hkey, List.count_singleton, if_neg (by simpa using Ne.symm hkey)]
        exact hsupplied
    · simp [handed?, entered?, h.inOrder, hready]
  | @done _ key hkey =>
    unfold seenOfDone
    have hready : (q.done key).ready = if q.dirty.contains key then q.ready ++ [key] else q.ready := rfl
    split
    · rename_i hd
      rw [if_pos hd] at hready
      refine ⟨h.owed.snoc (fun k hk => Or.inr (hk.done key)) fun k hk => (nomatch hk), fun k => ?_, ?_⟩
      · have hsupplied : _ + (q.done key).dirty.count k ≤ _ := h.supplied k
        simpa [handed?, asked?] using hsupplied
      · simp [handed?, entered?, h.inOrder, hready]
    · rename_i hd
      rw [if_neg hd] at hready
      rw [List.append_nil]
      exact h.of_expects (fun k hk => hk.done key) rfl hready

end Occurrences

end WorkQueue

/-! ## Callers and their journal -/

namespace InUse

open WorkQueue

variable {κ τ σ : Type} [DecidableEq κ] [Add τ] [Sub τ] [Zero τ] [LE τ] [DecidableLE τ] [LT τ]
  [DecidableLT τ]

/-- Nothing has been done yet. -/
def opened (place : Workplace κ τ σ) : InUse κ τ σ := ⟨{ place with queue := .empty }, []⟩

/-- What is seen of an operation. -/
def seen (s : InUse κ τ σ) : Operation κ τ → List (QueueEvent κ τ)
  | .add key => .added key :: s.place.queue.seenOfAdd key
  | .addAfter key delay => s.place.queue.seenOfAddAfter s.place.now key delay
  | .addRateLimited key => s.place.queue.seenOfAddAfter s.place.now key (s.place.backoff.fail key).1
  | .look _ deadline => s.place.queue.seenOfLook deadline s.place.now
  | .get _ timeout => s.place.queue.seenOfGet s.place.now timeout
  | .done _ key => s.place.queue.seenOfDone key
  | .forget _ | .shutDown | .advance _ => []

/-- One operation after another. -/
def run (s : InUse κ τ σ) (ops : List (Operation κ τ)) : InUse κ τ σ := ops.foldl perform s

/-- What is seen of operations, one after another. -/
def journal : InUse κ τ σ → List (Operation κ τ) → List (QueueEvent κ τ)
  | _, [] => []
  | s, op :: rest => s.seen op ++ (s.perform op).journal rest

/-- Only holders are done with keys, and nobody shuts the queue down. -/
def Proper : InUse κ τ σ → List (Operation κ τ) → Prop
  | _, [] => True
  | _, .shutDown :: _ => False
  | s, op :: rest => s.Allowed op ∧ (s.perform op).Proper rest

theorem course_perform {s : InUse κ τ σ} (h : Kept s) {op : Operation κ τ} {rest : List (Operation κ τ)}
    (hproper : s.Proper (op :: rest)) :
    s.Allowed op ∧ (s.perform op).Proper rest ∧ s.place.queue.Course (s.seen op) (s.perform op).place.queue := by
  cases op with
  | add key => exact ⟨hproper.1, hproper.2, (Occurrence.add _ key).course⟩
  | addAfter key delay => exact ⟨hproper.1, hproper.2, course_addAfter _ _ key delay⟩
  | addRateLimited key => exact ⟨hproper.1, hproper.2, course_addAfter _ _ key _⟩
  | look caller deadline => exact ⟨hproper.1, hproper.2, course_look deadline _ _⟩
  | get caller timeout => exact ⟨hproper.1, hproper.2, course_get _ _ timeout⟩
  | done caller key =>
    have hkey : key ∈ s.place.queue.processing := (h.heldBy.mem_processing key).mpr ⟨caller, hproper.1⟩
    exact ⟨hproper.1, hproper.2, (Occurrence.done hkey).course⟩
  | shutDown => exact hproper.elim
  | forget key => exact ⟨hproper.1, hproper.2, .refl _⟩
  | advance d => exact ⟨hproper.1, hproper.2, .refl _⟩

/-- A run is a course, by induction on its operations. -/
theorem course_run {s : InUse κ τ σ} (h : Kept s) {ops : List (Operation κ τ)} (hproper : s.Proper ops) :
    Kept (s.run ops) ∧ s.place.queue.Course (s.journal ops) (s.run ops).place.queue := by
  induction ops generalizing s with
  | nil => exact ⟨h, .refl _⟩
  | cons op rest ih =>
    obtain ⟨hallowed, hrest, hcourse⟩ := course_perform h hproper
    obtain ⟨hkept, hcourses⟩ := ih (h.perform op hallowed) hrest
    exact ⟨hkept, hcourse.trans hcourses⟩

/-- The queue and the journal stay accounted for, and the queue stays open. -/
theorem accounted_run {s : InUse κ τ σ} (h : Kept s) {log : List (QueueEvent κ τ)}
    (hlog : s.place.queue.Accounted log) (hopen : s.place.queue.shuttingDown = false)
    {ops : List (Operation κ τ)} (hproper : s.Proper ops) :
    (s.run ops).place.queue.Accounted (log ++ s.journal ops) ∧ (s.run ops).place.queue.shuttingDown = false := by
  have hcourse := (course_run h hproper).2
  exact (hcourse.induct (P := fun q log => q.Sound ∧ q.Accounted log ∧ q.shuttingDown = false)
    (fun hq hp => ⟨hp.1.occurrence hq, hp.2.1.occurrence hp.1 hq, hq.shuttingDown.trans hp.2.2⟩)
    ⟨h.sound, hlog, hopen⟩).2

theorem kept_opened (place : Workplace κ τ σ) : Kept (opened place) := Reachable.kept .start

/-! ## The result -/

/-- Where the first of two lists does not hold `x`, it ends before the second one does. -/
theorem isPrefix_of_append_cons {α : Type} {first rest before after : List α} {x : α} (hx : x ∉ first)
    (h : first ++ x :: rest = before ++ x :: after) : first <+: before := by
  rcases List.append_eq_append_iff.mp h with ⟨between, hbefore, -⟩ | ⟨between, hfirst, hrest⟩
  · exact ⟨between, hbefore.symm⟩
  · cases between with
    | nil => exact ⟨[], (hfirst.trans (List.append_nil before)) ▸ List.append_nil first⟩
    | cons y between =>
      obtain ⟨rfl, -⟩ := List.cons.inj hrest
      exact absurd (hfirst ▸ List.mem_append_right before List.mem_cons_self) hx

/-- **Who asks for a key is answered, once and in turn.**  Callers use a queue that nobody shuts down, in any way in
which only holders are done with keys.  When nothing is ready, delayed or held, a key has been handed out after
every addition, every delay and every maturity of it; at any time it was handed out at most as often as it was added
and matured; and the keys that became ready so far are, in order, those that were handed out and those that are
ready, so that a ready key is handed out only after those that became ready before it. -/
theorem asks_answered_in_turn {place : Workplace κ τ σ} {ops : List (Operation κ τ)}
    (h : (opened place).Proper ops) :
    let s := (opened place).run ops
    let log := (opened place).journal ops
    (s.place.queue.ready = [] → s.place.queue.waiting = [] → s.held = [] →
      ∀ before e after key, log = before ++ e :: after → e.promised? = some key → .handed key ∈ after) ∧
    (∀ key, (handings log).count key ≤ (asks log).count key) ∧
    entries log = handings log ++ s.place.queue.ready ∧
    ∀ first key last more, s.place.queue.ready = first ++ key :: last → s.Proper more →
      ∀ before after, s.journal more = before ++ .handed key :: after → first <+: handings before := by
  intro s log
  have hopened := kept_opened place
  obtain ⟨hkept, -⟩ := course_run hopened h
  obtain ⟨hacc, hopen⟩ := accounted_run hopened accounted_empty rfl h
  refine ⟨fun hready hwaiting hheld before e after key hlog he => ?_, fun key => ?_, hacc.inOrder,
    fun first key last more hready hmore before after hjournal => ?_⟩
  · refine (hacc.owed before e after key hlog he).resolve_right ?_
    refine not_expects_of_idle hkept.sound hopen hready hwaiting fun hp => ?_
    obtain ⟨caller, hholds⟩ := (hkept.heldBy.mem_processing key).mp hp
    exact absurd (hheld ▸ hholds) List.not_mem_nil
  · exact Nat.le_of_add_right_le (hacc.supplied key)
  · have hlater := (accounted_run hkept hacc hopen hmore).1.inOrder
    have hnodup := hkept.sound.ready_nodup
    rw [hready] at hnodup
    have hfirst : key ∉ first := fun hm => List.disjoint_of_nodup_append hnodup hm List.mem_cons_self
    -- both journals begin alike, and what is ready now is the first of what is handed out from now on
    rw [entries_append, handings_append, hacc.inOrder, List.append_assoc, List.append_assoc] at hlater
    have hturn := List.append_cancel_left hlater
    rw [hready, hjournal] at hturn
    simp only [handings_append, handings_cons, handed?, Option.toList, List.append_assoc,
      List.cons_append] at hturn
    exact isPrefix_of_append_cons hfirst hturn

/-- Key 1 is added while it is held, and what was delayed of it comes while it is ready; key 2 comes in between.  In
the end both were handed out as often as they had to be. -/
theorem asks_answered_in_turn_of_two_callers :
    let start : InUse Nat Nat Unit := opened (.new 1 10 0 ())
    let ops : List (Operation Nat Nat) :=
      [.add 1, .look 0 none, .addAfter 1 5, .addAfter 2 3, .add 1, .get 1 none, .done 0 1, .advance 2,
        .look 0 none, .done 1 2, .done 0 1]
    let s := start.run ops
    let log := start.journal ops
    start.Proper ops ∧ s.place.queue.ready = [] ∧ s.place.queue.waiting = [] ∧ s.held = [] ∧
    asks log = [1, 1, 2, 1] ∧ handings log = [1, 2, 1] ∧
    (∀ before e after key, log = before ++ e :: after → e.promised? = some key → .handed key ∈ after) ∧
    ∀ key, (handings log).count key ≤ (asks log).count key := by
  intro start ops s log
  have hproper : start.Proper ops :=
    ⟨trivial, trivial, trivial, trivial, trivial, trivial, by decide, trivial, trivial, by decide, by decide, trivial⟩
  have hready : s.place.queue.ready = [] := by decide
  have hwaiting : s.place.queue.waiting = [] := List.isEmpty_iff.mp (by decide)
  have hheld : s.held = [] := by decide
  obtain ⟨hanswered, hcount, -, -⟩ := asks_answered_in_turn hproper
  exact ⟨hproper, hready, hwaiting, hheld, by decide, by decide, hanswered hready hwaiting hheld, hcount⟩

end InUse

end NetAttach
