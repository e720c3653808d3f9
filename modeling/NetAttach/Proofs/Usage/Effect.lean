/-
  What the tracker does to the store.

  A task is a sequence of operations.  When nobody comes between them, what they do to the store can be said
  in one step: a pod is counted for types (`UsageStore.counted`) or what it was counted for is taken back
  (`UsageStore.uncounted`).  `run_delete` and `run_add` say so of the tasks; they rest on `run_resolve`, by
  which looking up attachments changes nothing and does not depend on the store.

  The rest is what the two steps do to each key and each label.
-/
import NetAttach.Proofs.Usage.Combination

namespace NetAttach

/-! ## Tasks, one after another -/

namespace UsageOutcome

variable {α : Type}

@[simp] theorem result_after (events : List UsageEvent) (o : UsageOutcome α) :
    (o.after events).result = o.result := rfl

theorem after_after (before events : List UsageEvent) (o : UsageOutcome α) :
    (o.after events).after before = o.after (before ++ events) := by
  simp [after]

end UsageOutcome

/-- Change the total of each label by `delta`, in order. -/
def UsageStore.adjustAll (s : UsageStore) (labels : List Text) (delta : Int) : UsageStore :=
  labels.foldl (fun s label => s.adjust label delta) s

/-- What is published meanwhile. -/
def Publication.ofChanges (p : Publication) (delta : Int) : List Text → UsageStore → List UsageEvent
  | [], _ => []
  | label :: rest, s =>
    p.ofChange label delta ((s.adjust label delta).total label) ++
      p.ofChanges delta rest (s.adjust label delta)

namespace UsageTask

variable {α β : Type} (p : Publication) (lookup : Text → Text → Lookup)

theorem run_bind (t : UsageTask α) (f : α → UsageTask β) (s : UsageStore) :
    (t.bind f).run p lookup s =
      match (t.run p lookup s).result with
      | .ok a => ((f a).run p lookup (t.run p lookup s).store).after (t.run p lookup s).events
      | .error e => ⟨.error e, (t.run p lookup s).store, (t.run p lookup s).events⟩ := by
  induction t generalizing s with
  | done a => rfl
  | fail e => rfl
  | remembered key next ih => exact ih _ s
  | forget key next ih => exact ih _ (s.forget key)
  | remember key combination next ih => exact ih (s.remember key combination)
  | adjust label delta next ih =>
    simp only [bind, run, ih (s.adjust label delta), UsageOutcome.result_after]
    split <;> simp [UsageOutcome.after]
  | request name ns next ih =>
    simp only [bind, run, ih (lookup name ns) s, UsageOutcome.result_after]
    split <;> simp [UsageOutcome.after]

theorem run_adjustAll (labels : List Text) (delta : Int) (next : UsageTask α) (s : UsageStore) :
    (adjustAll labels delta next).run p lookup s =
      (next.run p lookup (s.adjustAll labels delta)).after (p.ofChanges delta labels s) := by
  induction labels generalizing s with
  | nil => rfl
  | cons label rest ih =>
    show ((adjustAll rest delta next).run p lookup (s.adjust label delta)).after _ = _
    rw [ih (s.adjust label delta), UsageOutcome.after_after]
    rfl

end UsageTask

namespace UsageStore

@[simp] theorem combinations_adjustAll (s : UsageStore) (labels : List Text) (delta : Int) :
    (s.adjustAll labels delta).combinations = s.combinations := by
  unfold adjustAll
  induction labels generalizing s with
  | nil => rfl
  | cons label rest ih => exact ih (s.adjust label delta)

@[simp] theorem remembered_adjustAll (s : UsageStore) (labels : List Text) (delta : Int) (k : Text) :
    (s.adjustAll labels delta).remembered k = s.remembered k := by
  rw [remembered, combinations_adjustAll]
  rfl

/-- A label that is listed several times is changed as often. -/
theorem total_adjustAll (s : UsageStore) (labels : List Text) (delta : Int) (l : Text) :
    (s.adjustAll labels delta).total l = s.total l + labels.count l * delta := by
  induction labels generalizing s with
  | nil => simp [adjustAll]
  | cons label rest ih =>
    show ((s.adjust label delta).adjustAll rest delta).total l = _
    rw [ih (s.adjust label delta), total_adjust]
    by_cases h : l = label
    · subst h
      rw [if_pos rfl, List.count_cons_self]
      push_cast
      ring
    · rw [if_neg h, List.count_cons_of_ne (Ne.symm h), Int.add_zero]

theorem forget_of_untracked {s : UsageStore} {key : Text} (h : s.remembered key = none) :
    s.forget key = s := by
  unfold forget
  rw [Table.erase_of_get?_eq_none h]

end UsageStore

/-! ## The steps that tasks come to -/

namespace UsageTracker

/-- The types that references contribute, on top of `types`. -/
def collected [Nesting] (lookup : Text → Text → Lookup) (types : List Text) :
    List Reference → Except Failure (List Text)
  | [] => .ok types
  | r :: rest =>
    match contribution (lookup r.name r.ns) with
    | .ok more => collected lookup (Text.distinctInOrder (types ++ more)) rest
    | .error f => .error f

/-- The plugin types of all networks that an annotation selects. -/
def resolved [Nesting] (lookup : Text → Text → Lookup) (selection ns : Text) : Except Failure (List Text) :=
  match Selection.parse selection ns with
  | .ok references => collected lookup [] references
  | .error e => e.reason.map fun _ => []

end UsageTracker

namespace UsageStore

open UsageTracker

/-- Count the pod `key` for types that were resolved; without them nothing is counted. -/
def counted (s : UsageStore) (key : Text) : Except Failure (List Text) → UsageStore
  | .ok types => (s.adjustAll (labels types (combine types)) 1).remember key (combine types)
  | .error _ => s

/-- Take back what the pod `key` was counted for, and stop tracking it. -/
def uncounted (s : UsageStore) (key : Text) : UsageStore :=
  match s.remembered key with
  | none => s
  | some combination =>
    (s.forget key).adjustAll (labels (separate combination) combination) (-1)

end UsageStore

namespace UsageTracker

variable (p : Publication) (lookup : Text → Text → Lookup)

theorem run_collect [Nesting] (types : List Text) (references : List Reference) (s : UsageStore) :
    ∃ events, (collect types references).run p lookup s =
      ⟨collected lookup types references, s, events⟩ := by
  induction references generalizing types with
  | nil => exact ⟨[], rfl⟩
  | cons r rest ih =>
    simp only [collect, collected, UsageTask.run]
    cases contribution (lookup r.name r.ns) with
    | ok more =>
      obtain ⟨events, h⟩ := ih (Text.distinctInOrder (types ++ more))
      exact ⟨[.request r.name r.ns] ++ events, by rw [h]; rfl⟩
    | error f => exact ⟨[.request r.name r.ns], rfl⟩

/-- Looking up attachments leaves the store alone, and what comes of it does not depend on the store. -/
theorem run_resolve [Nesting] (selection ns : Text) (s : UsageStore) :
    ∃ events, (resolve selection ns).run p lookup s = ⟨resolved lookup selection ns, s, events⟩ := by
  unfold resolve resolved
  cases Selection.parse selection ns with
  | ok references => exact run_collect p lookup [] references s
  | error e =>
    simp only
    cases e.reason <;> exact ⟨[], rfl⟩

theorem run_delete (key : Text) (s : UsageStore) :
    ∃ events, (delete key).run p lookup s = ⟨.ok (), s.uncounted key, events⟩ := by
  unfold delete UsageStore.uncounted
  simp only [UsageTask.run]
  cases h : s.remembered key with
  | none => exact ⟨[], by rw [UsageStore.forget_of_untracked h]; rfl⟩
  | some combination =>
    refine ⟨p.ofChanges (-1) (labels (separate combination) combination) (s.forget key), ?_⟩
    simp only [uncount, UsageTask.run_adjustAll, UsageTask.run, UsageOutcome.after, List.append_nil]

theorem run_count [Nesting] (key selection ns : Text) (s : UsageStore) :
    ∃ events, (count key selection ns).run p lookup s =
      ⟨(resolved lookup selection ns).map combine, s.counted key (resolved lookup selection ns),
        events⟩ := by
  obtain ⟨events, h⟩ := run_resolve p lookup selection ns s
  unfold count
  rw [UsageTask.run_bind, h]
  cases resolved lookup selection ns with
  | ok types =>
    refine ⟨events ++ p.ofChanges 1 (labels types (combine types)) s, ?_⟩
    simp only [UsageTask.run_adjustAll, UsageTask.run, UsageOutcome.after, List.append_nil]
    rfl
  | error f => exact ⟨events, rfl⟩

/-- A pod is uncounted before it is counted, also when it turns out that it cannot be counted. -/
theorem run_add [Nesting] (key selection ns : Text) (s : UsageStore) :
    ∃ events, (add key selection ns).run p lookup s =
      ⟨(resolved lookup selection ns).map combine,
        (s.uncounted key).counted key (resolved lookup selection ns), events⟩ := by
  unfold add
  simp only [UsageTask.run]
  cases h : s.remembered key with
  | none =>
    have hs : s.uncounted key = s := by rw [UsageStore.uncounted, h]
    rw [hs]
    exact run_count p lookup key selection ns s
  | some combination =>
    obtain ⟨before, hd⟩ := run_delete p lookup key s
    obtain ⟨events, hc⟩ := run_count p lookup key selection ns (s.uncounted key)
    refine ⟨before ++ events, ?_⟩
    show ((delete key).bind fun _ => count key selection ns).run p lookup s = _
    rw [UsageTask.run_bind, hd]
    show ((count key selection ns).run p lookup (s.uncounted key)).after before = _
    rw [hc]
    rfl

/-! ## Types that are resolved are not empty, and in increasing order -/

theorem ne_nil_of_asText? {x : Scalar} {t : Text}
    (h : (if x.truth then (Value.scalar x).asText? else none) = some t) : t ≠ [] := by
  split at h
  · rename_i htruth
    cases x with
    | text u =>
      obtain rfl : u = t := Option.some.inj h
      simpa [Scalar.truth] using htruth
    | _ => exact nomatch h
  · exact nomatch h

/-- What cannot be read contributes nothing, if it is no failure. -/
theorem eq_nil_of_excused {α : Type} {reason : Except Failure α} {types : List Text}
    (h : (reason.map fun _ => ([] : List Text)) = .ok types) : types = [] := by
  cases reason with
  | ok r => exact (Except.ok.inj h).symm
  | error f => exact nomatch h

theorem ne_nil_of_mem_attachmentTypes [Nesting] {a : Attachment} {types : List Text}
    (h : attachmentTypes a = .ok types) : ∀ t ∈ types, t ≠ [] := by
  unfold attachmentTypes at h
  cases hc : Cni.classify a.config a.name with
  | error e =>
    rw [hc] at h
    obtain rfl := eq_nil_of_excused h
    simp
  | ok scalars =>
    rw [hc] at h
    obtain rfl := Except.ok.inj h
    intro t ht
    obtain ⟨x, -, hx⟩ := List.mem_filterMap.mp ht
    exact ne_nil_of_asText? hx

theorem ne_nil_of_mem_contribution [Nesting] {answer : Lookup} {types : List Text}
    (h : contribution answer = .ok types) : ∀ t ∈ types, t ≠ [] := by
  cases answer with
  | found a => exact ne_nil_of_mem_attachmentTypes h
  | absent => obtain rfl : [] = types := Except.ok.inj h; simp
  | failed e => obtain rfl : [] = types := Except.ok.inj h; simp
  | crashed f => exact nomatch h

theorem ne_nil_of_mem_collected [Nesting] {types : List Text} {references : List Reference}
    (ht : ∀ t ∈ types, t ≠ []) {all : List Text}
    (h : collected lookup types references = .ok all) : ∀ t ∈ all, t ≠ [] := by
  induction references generalizing types with
  | nil => exact Except.ok.inj h ▸ ht
  | cons r rest ih =>
    unfold collected at h
    cases hc : contribution (lookup r.name r.ns) with
    | error f => rw [hc] at h; exact nomatch h
    | ok more =>
      rw [hc] at h
      refine ih (fun t hm => ?_) h
      rcases List.mem_append.mp (Text.mem_distinctInOrder.mp hm) with hm | hm
      · exact ht t hm
      · exact ne_nil_of_mem_contribution hc t hm

theorem ne_nil_of_mem_resolved [Nesting] {selection ns : Text} {types : List Text}
    (h : resolved lookup selection ns = .ok types) : ∀ t ∈ types, t ≠ [] := by
  unfold resolved at h
  cases hs : Selection.parse selection ns with
  | ok references =>
    rw [hs] at h
    exact ne_nil_of_mem_collected lookup (by simp) h
  | error e =>
    rw [hs] at h
    obtain rfl := eq_nil_of_excused h
    simp

theorem pairwise_collected [Nesting] {types : List Text} {references : List Reference}
    (ht : types.Pairwise (· < ·)) {all : List Text}
    (h : collected lookup types references = .ok all) : all.Pairwise (· < ·) := by
  induction references generalizing types with
  | nil => exact Except.ok.inj h ▸ ht
  | cons r rest ih =>
    unfold collected at h
    cases hc : contribution (lookup r.name r.ns) with
    | error f => rw [hc] at h; exact nomatch h
    | ok more =>
      rw [hc] at h
      exact ih (Text.pairwise_distinctInOrder (types ++ more)) h

/-- Types that are resolved are a set in increasing order. -/
theorem pairwise_resolved [Nesting] {selection ns : Text} {types : List Text}
    (h : resolved lookup selection ns = .ok types) : types.Pairwise (· < ·) := by
  unfold resolved at h
  cases hs : Selection.parse selection ns with
  | ok references =>
    rw [hs] at h
    exact pairwise_collected lookup List.Pairwise.nil h
  | error e =>
    rw [hs] at h
    obtain rfl := eq_nil_of_excused h
    exact List.Pairwise.nil

end UsageTracker

/-! ## What the steps do to keys and labels -/

namespace UsageStore

open UsageTracker

theorem remembered_uncounted (s : UsageStore) (key k : Text) :
    (s.uncounted key).remembered k = if k = key then none else s.remembered k := by
  unfold uncounted
  cases h : s.remembered key with
  | none =>
    by_cases hk : k = key
    · rw [if_pos hk, hk, h]
    · rw [if_neg hk]
  | some combination =>
    show ((s.forget key).adjustAll _ _).remembered k = _
    rw [remembered_adjustAll, remembered_forget]

theorem remembered_counted (s : UsageStore) (key k : Text) (r : Except Failure (List Text)) :
    (s.counted key r).remembered k =
      match r with
      | .ok types => if k = key then some (combine types) else s.remembered k
      | .error _ => s.remembered k := by
  cases r with
  | error f => rfl
  | ok types =>
    show ((s.adjustAll _ _).remember key _).remembered k = _
    rw [remembered_remember, remembered_adjustAll]

theorem remembered_counted_ok (s : UsageStore) (key k : Text) (types : List Text) :
    (s.counted key (.ok types)).remembered k = if k = key then some (combine types) else s.remembered k :=
  remembered_counted s key k (.ok types)

/-- How often a label is taken back for a pod that is remembered with a combination. -/
def share (combination : Option Text) (l : Text) : Int :=
  (combination.elim [] fun c => labels (separate c) c).count l

theorem total_uncounted (s : UsageStore) (key l : Text) :
    (s.uncounted key).total l = s.total l - share (s.remembered key) l := by
  unfold uncounted
  cases h : s.remembered key with
  | none => simp [share]
  | some combination =>
    show ((s.forget key).adjustAll _ _).total l = _
    rw [total_adjustAll, total_forget]
    simp only [share, Option.elim]
    ring

theorem total_counted (s : UsageStore) (key l : Text) (types : List Text) :
    (s.counted key (.ok types)).total l = s.total l + (labels types (combine types)).count l := by
  show ((s.adjustAll _ _).remember key _).total l = _
  rw [total_remember, total_adjustAll, Int.mul_one]

end UsageStore

end NetAttach
