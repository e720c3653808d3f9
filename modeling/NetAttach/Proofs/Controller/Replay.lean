/-
  Changes that are applied one after another, without a queue.

  Each change is handed to the tracker as it comes: a pod that is to be counted is added, one that is to be
  removed is deleted.  What is remembered of a pod in the end is the effect of its last change alone
  (`remembered_replay`), and the totals are the sums over what is remembered as long as no type holds a comma
  (`tallied_replay`).  So replaying more or fewer changes makes no difference, if the last one of each pod is
  among them (`replay_congr`).
-/
import NetAttach.Controller.UsageHandler
import NetAttach.Proofs.Usage.Tally

namespace NetAttach

open UsageTracker

namespace PodChange

variable (lookup : Text → Text → Lookup)

/-- The types that the selection of the pod resolves to. -/
def types [Nesting] (c : PodChange) : Except Failure (List Text) := resolved lookup (c.selection.getD []) c.ns

/-- What is remembered of the pod after the change. -/
def effect [Nesting] (c : PodChange) : Option Text :=
  if c.isRemoval then none
  else
    match c.types lookup with
    | .ok types => some (combine types)
    | .error _ => none

/-- No type that is resolved for the change holds a comma. -/
def Plain [Nesting] (c : PodChange) : Prop :=
  c.isRemoval = false → ∀ types, c.types lookup = .ok types → ∀ t ∈ types, comma ∉ t

/-- The last change of a pod. -/
def lastOf (changes : List PodChange) (key : Text) : Option PodChange :=
  (changes.filter fun c => c.key = key).getLast?

theorem lastOf_append (changes others : List PodChange) (key : Text) :
    lastOf (changes ++ others) key = (lastOf others key).or (lastOf changes key) := by
  unfold lastOf
  rw [List.filter_append, List.getLast?_append]

theorem lastOf_eq_none {changes : List PodChange} {key : Text} :
    lastOf changes key = none ↔ ∀ c ∈ changes, c.key ≠ key := by
  unfold lastOf
  rw [List.getLast?_eq_none_iff, List.filter_eq_nil_iff]
  simp only [decide_eq_true_eq]

theorem mem_of_lastOf {changes : List PodChange} {key : Text} {c : PodChange}
    (h : lastOf changes key = some c) : c ∈ changes ∧ c.key = key := by
  obtain ⟨hm, hk⟩ := List.mem_filter.mp (List.mem_of_getLast? h)
  exact ⟨hm, of_decide_eq_true hk⟩

end PodChange

/-! ## One change -/

namespace UsageStore

variable (p : Publication) (lookup : Text → Text → Lookup)

/-- Hand a change to the tracker. -/
def apply [Nesting] (s : UsageStore) (c : PodChange) : UsageStore :=
  if c.isRemoval then ((delete c.key).run p lookup s).store
  else ((add c.key (c.selection.getD []) c.ns).run p lookup s).store

theorem apply_eq [Nesting] (s : UsageStore) (c : PodChange) :
    s.apply p lookup c =
      if c.isRemoval then s.uncounted c.key else (s.uncounted c.key).counted c.key (c.types lookup) := by
  unfold apply
  split
  · obtain ⟨_, h⟩ := run_delete p lookup c.key s
    rw [h]
  · obtain ⟨_, h⟩ := run_add p lookup c.key (c.selection.getD []) c.ns s
    rw [h]
    rfl

theorem remembered_apply [Nesting] (s : UsageStore) (c : PodChange) (k : Text) :
    (s.apply p lookup c).remembered k = if k = c.key then c.effect lookup else s.remembered k := by
  rw [apply_eq, PodChange.effect]
  by_cases hr : c.isRemoval = true
  · rw [if_pos hr, if_pos hr, remembered_uncounted]
  · rw [if_neg hr, if_neg hr, remembered_counted]
    cases c.types lookup with
    | error f => exact remembered_uncounted s c.key k
    | ok types =>
      by_cases hk : k = c.key
      · simp only [if_pos hk]
      · simp only [if_neg hk]
        rw [remembered_uncounted, if_neg hk]

theorem Tallied.apply [Nesting] {s : UsageStore} (h : Tallied s) {c : PodChange} (hc : c.Plain lookup) :
    Tallied (s.apply p lookup c) := by
  rw [apply_eq]
  split
  · exact h.uncounted c.key
  · rename_i hr
    -- once uncounted, the pod is not tracked, so that counting it adds an entry
    refine (h.uncounted c.key).counted ?_ fun types ht => ⟨ne_nil_of_mem_resolved lookup ht, ?_⟩
    · rw [remembered_uncounted, if_pos rfl]
    · exact hc (by simpa using hr) types ht

/-! ## Many changes -/

/-- Hand changes to a tracker that has seen none, one after another. -/
def replay [Nesting] (changes : List PodChange) : UsageStore := changes.foldl (apply p lookup) .empty

theorem replay_snoc [Nesting] (changes : List PodChange) (c : PodChange) :
    replay p lookup (changes ++ [c]) = (replay p lookup changes).apply p lookup c :=
  List.foldl_concat ..

/-- The last change of a pod decides. -/
theorem remembered_replay [Nesting] (changes : List PodChange) (k : Text) :
    (replay p lookup changes).remembered k =
      (PodChange.lastOf changes k).elim none (PodChange.effect lookup) := by
  induction changes using List.reverseRecOn with
  | nil => rfl
  | append_singleton changes c ih =>
    rw [replay_snoc, remembered_apply, PodChange.lastOf, List.filter_append]
    by_cases hk : k = c.key
    · subst hk
      rw [if_pos rfl, List.filter_cons_of_pos (by simp), List.filter_nil, List.getLast?_concat]
      rfl
    · rw [if_neg hk, List.filter_cons_of_neg (by simpa using Ne.symm hk), List.filter_nil,
        List.append_nil, ih]
      rfl

theorem tallied_replay [Nesting] {changes : List PodChange} (h : ∀ c ∈ changes, c.Plain lookup) :
    Tallied (replay p lookup changes) := by
  induction changes using List.reverseRecOn with
  | nil => exact tallied_empty
  | append_singleton changes c ih =>
    rw [replay_snoc]
    refine Tallied.apply p lookup (ih fun c' hc => h c' (List.mem_append_left _ hc)) (h c ?_)
    exact List.mem_append_right _ (List.mem_singleton.mpr rfl)

/-- Of the changes of a pod all but the last may be left out or repeated. -/
theorem replay_congr [Nesting] {changes others : List PodChange}
    (h : ∀ k, PodChange.lastOf changes k = PodChange.lastOf others k) :
    (∀ k, (replay p lookup changes).remembered k = (replay p lookup others).remembered k) ∧
    ((∀ c ∈ changes ++ others, c.Plain lookup) →
      ∀ l, (replay p lookup changes).total l = (replay p lookup others).total l) := by
  have hremembered : ∀ k, (replay p lookup changes).remembered k =
      (replay p lookup others).remembered k := fun k => by
    rw [remembered_replay, remembered_replay, h k]
  refine ⟨hremembered, fun hplain l => ?_⟩
  have hs := tallied_replay p lookup fun c hc => hplain c (List.mem_append_left others hc)
  have hu := tallied_replay p lookup fun c hc => hplain c (List.mem_append_right changes hc)
  exact hs.total_congr hu hremembered l

end UsageStore

end NetAttach
