/-
  The log of a pod.

  A log lists what has been seen to happen to the changes of one pod: that they were recorded, handed to the
  handlers with some outcome, or dropped, and that a worker found nothing to apply.  `Tended` is what is true
  of the log of a pod at all times, given its latest change, whether its key is still owed to a worker, and
  where the worker stands who has it.  It has two parts.  The first is about order: records are numbered
  upwards, and changes are handed on in the order of their records.  The second, `Standing`, is about
  progress: the newest change is settled, or the key is owed to a worker, or a worker who has the key is
  dealing with that change.

  Everything that can happen to a pod is one of the lemmas at the end, so that the interleaving of workers is
  left to others: here there is one pod, and what happens to it happens in some order.
-/
import NetAttach.Controller.Basic
import NetAttach.Proofs.WorkQueue.Crew

namespace NetAttach

/-- Where a worker stands in applying the latest change of a pod. -/
inductive Point where
  | reading (key : Text)
  /-- The latest change has been read, and is yet to be handed to the handlers. -/
  | calling (r : Recorded)
  /-- The handlers have returned; a removal is yet to be forgotten. -/
  | retiring (r : Recorded)

/-- What is seen to happen. -/
inductive Occurrence where
  | recorded (r : Recorded)
  /-- A change was handed to the handlers; the outcome is a failure, or they returned. -/
  | handed (r : Recorded) (outcome : Option Failure)
  /-- A worker took the key of a pod without a latest change. -/
  | unclaimed (key : Text)
  | dropped (d : Drop Text)
deriving DecidableEq

namespace Occurrence

/-- The pod that an occurrence is about. -/
def key : Occurrence → Text
  | recorded r | handed r _ => r.change.key
  | unclaimed key => key
  | dropped d => d.key

def recorded? : Occurrence → Option Recorded
  | recorded r => some r
  | _ => none

def handed? : Occurrence → Option Recorded
  | handed r _ => some r
  | _ => none

/-- A worker has attempted to apply the latest change. -/
def isAttempt : Occurrence → Bool
  | handed _ _ | unclaimed _ => true
  | _ => false

end Occurrence

namespace Log

/-! ## Reading a log -/

/-- The records, in order. -/
def recordings (log : List Occurrence) : List Recorded := log.filterMap Occurrence.recorded?

/-- The changes that were handed to the handlers, in order. -/
def handings (log : List Occurrence) : List Recorded := log.filterMap Occurrence.handed?

/-- The newest record. -/
def newest (log : List Occurrence) : Option Recorded := (recordings log).getLast?

/-- `Since log attempt after`: the last attempt was `attempt`, and `after` has happened since. -/
def Since (log : List Occurrence) (attempt : Occurrence) (after : List Occurrence) : Prop :=
  (∃ before, log = before ++ attempt :: after) ∧ ∀ o ∈ after, o.isAttempt = false

/-- The newest change was handed to handlers that returned, or the last attempt was at this change and ended
in dropping it. -/
def Settled (log : List Occurrence) : Prop :=
  ∀ r, newest log = some r →
    .handed r none ∈ log ∨
    ∃ cause after, Since log (.handed r (some cause)) after ∧ .dropped ⟨r.change.key, cause⟩ ∈ after

theorem mem_recordings {log : List Occurrence} {r : Recorded} :
    r ∈ recordings log ↔ .recorded r ∈ log := by
  unfold recordings
  rw [List.mem_filterMap]
  constructor
  · rintro ⟨o, ho, hr⟩
    cases o with
    | recorded r' => exact Option.some.inj hr ▸ ho
    | _ => exact nomatch hr
  · intro h
    exact ⟨.recorded r, h, rfl⟩

theorem mem_handings {log : List Occurrence} {r : Recorded} :
    r ∈ handings log ↔ ∃ outcome, .handed r outcome ∈ log := by
  unfold handings
  rw [List.mem_filterMap]
  constructor
  · rintro ⟨o, ho, hr⟩
    cases o with
    | handed r' outcome => exact ⟨outcome, Option.some.inj hr ▸ ho⟩
    | _ => exact nomatch hr
  · rintro ⟨outcome, h⟩
    exact ⟨.handed r outcome, h, rfl⟩

theorem recordings_snoc (log : List Occurrence) (o : Occurrence) :
    recordings (log ++ [o]) = recordings log ++ o.recorded?.toList := by
  unfold recordings
  rw [List.filterMap_append]
  cases h : o.recorded? <;> simp [h]

theorem handings_snoc (log : List Occurrence) (o : Occurrence) :
    handings (log ++ [o]) = handings log ++ o.handed?.toList := by
  unfold handings
  rw [List.filterMap_append]
  cases h : o.handed? <;> simp [h]

theorem newest_snoc_recorded (log : List Occurrence) (r : Recorded) :
    newest (log ++ [.recorded r]) = some r := by
  unfold newest
  rw [recordings_snoc]
  exact List.getLast?_concat

theorem newest_snoc {o : Occurrence} (ho : o.recorded? = none) (log : List Occurrence) :
    newest (log ++ [o]) = newest log := by
  unfold newest
  rw [recordings_snoc, ho]
  simp

theorem Since.snoc {log after : List Occurrence} {attempt o : Occurrence} (h : Since log attempt after)
    (ho : o.isAttempt = false) : Since (log ++ [o]) attempt (after ++ [o]) := by
  obtain ⟨⟨before, rfl⟩, ha⟩ := h
  refine ⟨⟨before, by simp⟩, fun x hx => ?_⟩
  rcases List.mem_append.mp hx with hx | hx
  · exact ha x hx
  · exact List.mem_singleton.mp hx ▸ ho

theorem since_self (log : List Occurrence) (attempt : Occurrence) : Since (log ++ [attempt]) attempt [] :=
  ⟨⟨log, rfl⟩, fun _ h => absurd h List.not_mem_nil⟩

theorem Since.mem {log after : List Occurrence} {attempt : Occurrence} (h : Since log attempt after) :
    attempt ∈ log := by
  obtain ⟨⟨before, rfl⟩, -⟩ := h
  simp

/-! ## What is true of a log -/

variable {τ : Type}

/-- How far the newest change has come, by where the worker stands who has the key. -/
def Standing (key : Text) (log : List Occurrence) (owed : Prop) : Option (Stage Text τ Point) → Prop
  | none | some .free | some (.succeeded _) | some (.leaving _) => owed ∨ Settled log
  | some (.busy _ (.reading k)) => k = key
  | some (.busy _ (.calling r)) =>
    r.change.key = key ∧ r ∈ recordings log ∧ (∀ h ∈ handings log, h.number ≤ r.number) ∧
      (owed ∨ newest log = some r)
  | some (.busy _ (.retiring r)) => r.change.key = key ∧ .handed r none ∈ log ∧ (owed ∨ Settled log)
  | some (.failed _ cause) | some (.surrendering _ cause) | some (.reporting _ cause) =>
    ∃ r after, Since log (.handed r (some cause)) after ∧ (owed ∨ newest log = some r)
  | some (.retrying _) | some (.delaying _ _) => True

/-- What is true of the log of a pod at all times. -/
structure Tended (key : Text) (log : List Occurrence) (latest : Option Recorded) (owed : Prop)
    (holder : Option (Stage Text τ Point)) : Prop where
  about : ∀ o ∈ log, o.key = key
  ascending : (recordings log).Pairwise fun a b => a.number < b.number
  handed_recorded : ∀ r ∈ handings log, r ∈ recordings log
  in_order : (handings log).Pairwise fun a b => a.number ≤ b.number
  latest_eq : ∀ r, latest = some r → newest log = some r
  /-- A latest change is forgotten only when the handlers have returned from it. -/
  retired : latest = none → ∀ r, newest log = some r → .handed r none ∈ log
  standing : Standing key log owed holder

variable {key : Text} {log : List Occurrence} {latest : Option Recorded} {owed : Prop}
  {holder : Option (Stage Text τ Point)}

theorem tended_nil (key : Text) (owed : Prop) :
    Tended key [] none owed (none : Option (Stage Text τ Point)) :=
  ⟨by simp, by simp [recordings], by simp [handings], by simp [handings], by simp,
    fun _ r h => absurd h (by simp [newest, recordings]),
    Or.inr fun r h => absurd h (by simp [newest, recordings])⟩

theorem Standing.mono {owed' : Prop} (h : Standing key log owed holder) (ho : owed → owed') :
    Standing key log owed' holder := by
  match holder, h with
  | none, h | some .free, h | some (.succeeded _), h | some (.leaving _), h => exact h.imp_left ho
  | some (.busy _ (.reading _)), h => exact h
  | some (.busy _ (.calling r)), ⟨hk, hr, hn, h⟩ => exact ⟨hk, hr, hn, h.imp_left ho⟩
  | some (.busy _ (.retiring r)), ⟨hk, hr, h⟩ => exact ⟨hk, hr, h.imp_left ho⟩
  | some (.failed _ _), ⟨r, after, hs, h⟩ | some (.surrendering _ _), ⟨r, after, hs, h⟩
  | some (.reporting _ _), ⟨r, after, hs, h⟩ => exact ⟨r, after, hs, h.imp_left ho⟩
  | some (.retrying _), _ | some (.delaying _ _), _ => trivial

theorem Tended.mono {owed' : Prop} (h : Tended key log latest owed holder) (ho : owed → owed') :
    Tended key log latest owed' holder :=
  { h with standing := h.standing.mono ho }

/-- The worker who has the key goes to another stage, and nothing is seen. -/
theorem Tended.stand (h : Tended key log latest owed holder) (holder' : Option (Stage Text τ Point))
    (hs : Standing key log owed holder') : Tended key (log ++ []) latest owed holder' := by
  rw [List.append_nil]
  exact { h with standing := hs }

/-- Numbers tell records apart. -/
theorem Tended.eq_of_number (h : Tended key log latest owed holder) {r r' : Recorded}
    (hr : r ∈ recordings log) (hr' : r' ∈ recordings log) (hn : r.number = r'.number) : r = r' := by
  have hnodup : ((recordings log).map (·.number)).Nodup :=
    List.pairwise_map.mpr (h.ascending.imp fun hlt => Nat.ne_of_lt hlt)
  exact List.inj_on_of_nodup_map hnodup hr hr' hn

/-- In an ascending list the last record has the greatest number. -/
theorem number_le_of_getLast? {rs : List Recorded} (hp : rs.Pairwise fun a b => a.number ≤ b.number)
    {r r' : Recorded} (hr : rs.getLast? = some r) (hr' : r' ∈ rs) : r'.number ≤ r.number := by
  obtain ⟨before, hb⟩ := List.getLast?_eq_some_iff.mp hr
  rw [hb] at hp hr'
  rcases List.mem_append.mp hr' with hm | hm
  · exact (List.pairwise_append.mp hp).2.2 r' hm r (List.mem_singleton.mpr rfl)
  · exact Nat.le_of_eq (by rw [List.mem_singleton.mp hm])

theorem Tended.le_newest (h : Tended key log latest owed holder) {r r' : Recorded}
    (hr : newest log = some r) (hr' : r' ∈ recordings log) : r'.number ≤ r.number :=
  number_le_of_getLast? (h.ascending.imp Nat.le_of_lt) hr hr'

theorem newest_mem {r : Recorded} (h : newest log = some r) : r ∈ recordings log :=
  List.mem_of_getLast? h

/-- When all calls returned and the newest change is settled, it is the change that was handed on last. -/
theorem Tended.getLast?_handings (h : Tended key log latest owed holder) (hs : Settled log)
    (hf : ∀ r cause, .handed r (some cause) ∉ log) : (handings log).getLast? = newest log := by
  cases hn : newest log with
  | none =>
    have hempty : recordings log = [] := List.getLast?_eq_none_iff.mp hn
    rw [List.getLast?_eq_none_iff, List.eq_nil_iff_forall_not_mem]
    intro r hr
    have hm := h.handed_recorded r hr
    rw [hempty] at hm
    exact absurd hm List.not_mem_nil
  | some r =>
    have hmem : r ∈ handings log := by
      rcases hs r hn with hm | ⟨cause, after, hsince, -⟩
      · exact mem_handings.mpr ⟨none, hm⟩
      · exact absurd hsince.mem (hf r cause)
    cases hl : (handings log).getLast? with
    | none => exact absurd hmem (by rw [List.getLast?_eq_none_iff.mp hl]; exact List.not_mem_nil)
    | some s =>
      have hrec : s ∈ recordings log := h.handed_recorded s (List.mem_of_getLast? hl)
      -- nothing newer than `r` was recorded, and nothing older than `s` is handed on after it
      have hle : s.number ≤ r.number := h.le_newest hn hrec
      have hge : r.number ≤ s.number := number_le_of_getLast? h.in_order hl hmem
      have hsr : s = r := h.eq_of_number hrec (newest_mem hn) (by omega)
      rw [hsr]

/-! ## What can happen to a pod -/

theorem Standing.record {r : Recorded} {owed' : Prop} (h : Standing key log owed holder) (ho : owed') :
    Standing key (log ++ [.recorded r]) owed' holder := by
  match holder, h with
  | none, _ | some .free, _ | some (.succeeded _), _ | some (.leaving _), _ => exact Or.inl ho
  | some (.busy _ (.reading _)), h => exact h
  | some (.busy _ (.calling _)), ⟨hk, hr, hn, _⟩ =>
    refine ⟨hk, ?_, ?_, Or.inl ho⟩
    · rw [recordings_snoc]
      exact List.mem_append_left _ hr
    · rw [handings_snoc]
      simpa [Occurrence.handed?] using hn
  | some (.busy _ (.retiring _)), ⟨hk, hr, _⟩ => exact ⟨hk, List.mem_append_left _ hr, Or.inl ho⟩
  | some (.failed _ _), ⟨s, after, hs, _⟩ | some (.surrendering _ _), ⟨s, after, hs, _⟩
  | some (.reporting _ _), ⟨s, after, hs, _⟩ => exact ⟨s, _, hs.snoc rfl, Or.inl ho⟩
  | some (.retrying _), _ | some (.delaying _ _), _ => trivial

/-- A change is recorded, and from then on the key is owed. -/
theorem Tended.record {r : Recorded} {owed' : Prop} (h : Tended key log latest owed holder)
    (hk : r.change.key = key) (hn : ∀ s ∈ recordings log, s.number < r.number) (ho : owed') :
    Tended key (log ++ [.recorded r]) (some r) owed' holder where
  about := by
    intro o hm
    rcases List.mem_append.mp hm with hm | hm
    · exact h.about o hm
    · rw [List.mem_singleton.mp hm]
      exact hk
  ascending := by
    rw [recordings_snoc]
    refine List.pairwise_append.mpr ⟨h.ascending, List.pairwise_singleton _ _, ?_⟩
    intro a ha b hb
    rw [List.mem_singleton.mp hb]
    exact hn a ha
  handed_recorded := by
    intro s hs
    rw [handings_snoc] at hs
    rw [recordings_snoc]
    exact List.mem_append_left _ (h.handed_recorded s (by simpa [Occurrence.handed?] using hs))
  in_order := by
    rw [handings_snoc]
    simpa [Occurrence.handed?] using h.in_order
  latest_eq := by
    intro s hs
    rw [newest_snoc_recorded, hs]
  retired := fun hnone => absurd hnone (by simp)
  standing := h.standing.record ho

/-- Something else is seen.  A change that is handed on has been recorded, and no newer one was handed on
before it. -/
theorem Tended.see {o : Occurrence} {holder' : Option (Stage Text τ Point)}
    (h : Tended key log latest owed holder) (hr : o.recorded? = none) (hk : o.key = key)
    (hh : ∀ r ∈ o.handed?, r ∈ recordings log ∧ ∀ s ∈ handings log, s.number ≤ r.number)
    (hs : Standing key (log ++ [o]) owed holder') : Tended key (log ++ [o]) latest owed holder' where
  about := by
    intro x hm
    rcases List.mem_append.mp hm with hm | hm
    · exact h.about x hm
    · exact List.mem_singleton.mp hm ▸ hk
  ascending := by
    rw [recordings_snoc, hr]
    simpa using h.ascending
  handed_recorded := by
    intro s hm
    rw [recordings_snoc, hr]
    rw [handings_snoc] at hm
    rcases List.mem_append.mp hm with hm | hm
    · exact List.mem_append_left _ (h.handed_recorded s hm)
    · exact List.mem_append_left _ (hh s (by simpa using hm)).1
  in_order := by
    rw [handings_snoc]
    refine List.pairwise_append.mpr ⟨h.in_order, ?_, ?_⟩
    · cases o.handed? <;> simp
    · intro a ha b hb
      exact (hh b (by simpa using hb)).2 a ha
  latest_eq := fun r hl => by rw [newest_snoc hr]; exact h.latest_eq r hl
  retired := fun hl r hn => by
    rw [newest_snoc hr] at hn
    exact List.mem_append_left _ (h.retired hl r hn)
  standing := hs

/-- A worker is given the key, which is not owed by that any more. -/
theorem Tended.take {owed' : Prop} (h : Tended key log latest owed holder) :
    Tended key log latest owed' (some (.busy key (.reading key) : Stage Text τ Point)) :=
  { h with standing := rfl }

theorem Tended.read {k : Text} {r : Recorded}
    (h : Tended key log latest owed (some (.busy k (.reading key) : Stage Text τ Point)))
    (hl : latest = some r) :
    Tended key (log ++ []) latest owed (some (.busy k (.calling r) : Stage Text τ Point)) := by
  have hn := h.latest_eq r hl
  have hr := newest_mem hn
  refine h.stand _ ⟨?_, hr, ?_, Or.inr hn⟩
  · exact h.about _ (mem_recordings.mp hr)
  · intro s hs
    exact h.le_newest hn (h.handed_recorded s hs)

/-- There is nothing to apply, because the newest change was a removal from which the handlers returned. -/
theorem Tended.find_nothing {k : Text}
    (h : Tended key log latest owed (some (.busy k (.reading key) : Stage Text τ Point)))
    (hl : latest = none) :
    Tended key (log ++ [.unclaimed key]) latest owed (some (.succeeded k : Stage Text τ Point)) := by
  refine h.see rfl rfl (by simp [Occurrence.handed?]) (Or.inr fun r hn => ?_)
  rw [newest_snoc rfl] at hn
  exact Or.inl (List.mem_append_left _ (h.retired hl r hn))

theorem Tended.call_returns {k : Text} {r : Recorded}
    (h : Tended key log latest owed (some (.busy k (.calling r) : Stage Text τ Point))) :
    Tended key (log ++ [.handed r none]) latest owed
      (some (.busy k (.retiring r) : Stage Text τ Point)) := by
  obtain ⟨hk, hr, hn, ho⟩ := h.standing
  have hmem : Occurrence.handed r none ∈ log ++ [.handed r none] := by simp
  refine h.see rfl hk ?_ ⟨hk, hmem, ho.imp_right fun hnew s hs => Or.inl ?_⟩
  · intro s hs
    obtain rfl : r = s := by simpa [Occurrence.handed?] using hs
    exact ⟨hr, hn⟩
  · rw [newest_snoc rfl, hnew] at hs
    exact Option.some.inj hs ▸ hmem

theorem Tended.call_fails {k : Text} {r : Recorded} {cause : Failure}
    (h : Tended key log latest owed (some (.busy k (.calling r) : Stage Text τ Point))) :
    Tended key (log ++ [.handed r (some cause)]) latest owed
      (some (.failed k cause : Stage Text τ Point)) := by
  obtain ⟨hk, hr, hn, ho⟩ := h.standing
  refine h.see rfl hk ?_ ⟨r, [], since_self log _, ?_⟩
  · intro s hs
    obtain rfl : r = s := by simpa [Occurrence.handed?] using hs
    exact ⟨hr, hn⟩
  · rw [newest_snoc rfl]
    exact ho

/-- A removal from which the handlers returned is forgotten, unless there is a newer record: then it is not
the latest change, and that one stays. -/
theorem Tended.retire {k : Text} {r : Recorded} {latest' : Option Recorded}
    (h : Tended key log latest owed (some (.busy k (.retiring r) : Stage Text τ Point)))
    (hl : latest' = latest ∨ latest' = none ∧ ∃ s, latest = some s ∧ s.number = r.number) :
    Tended key (log ++ []) latest' owed (some (.succeeded k : Stage Text τ Point)) := by
  obtain ⟨hk, hr, hs⟩ := h.standing
  rcases hl with rfl | ⟨rfl, s, hs', hnum⟩
  · exact h.stand _ hs
  · rw [List.append_nil]
    refine { h with latest_eq := fun r hr => absurd hr (by simp), retired := ?_, standing := hs }
    intro _ q hq
    obtain rfl : s = q := Option.some.inj ((h.latest_eq s hs').symm.trans hq)
    have hrec : r ∈ recordings log := h.handed_recorded r (mem_handings.mpr ⟨none, hr⟩)
    exact h.eq_of_number (newest_mem hq) hrec hnum ▸ hr

theorem Tended.report {k : Text} {cause : Failure}
    (h : Tended key log latest owed (some (.reporting k cause : Stage Text τ Point))) :
    Tended key (log ++ [.dropped ⟨key, cause⟩]) latest owed
      (some (.leaving k : Stage Text τ Point)) := by
  obtain ⟨r, after, hs, ho⟩ := h.standing
  refine h.see rfl rfl (by simp [Occurrence.handed?]) (ho.imp_right fun hn q hq => Or.inr ?_)
  rw [newest_snoc rfl, hn] at hq
  -- the attempt that failed was at the newest change, so that dropping it settles this change
  obtain rfl : r = q := Option.some.inj hq
  have hkey : r.change.key = key := h.about _ hs.mem
  exact ⟨cause, after ++ [.dropped ⟨key, cause⟩], hs.snoc rfl, by simp [hkey]⟩

end Log

end NetAttach
