/-
  The label that every pod counts for.

  A tracked pod counts once for `any`, which is to say that the total of `any` is the number of tracked pods.
  But `any` is a label like the others.  A plugin type may have this name, and then a pod that uses it counts
  twice; or it may be one of the pieces of a type with commas, and then it is taken back twice.  There is
  nothing else that can go wrong: the total is the number of tracked pods after all calls of all runs exactly
  when no type that is resolved has `any` among its pieces (`total_any_eq_tracked_iff`).

  Structure:
  1. `count_any_labels`: in a list of labels `any` stands once behind the types;
  2. `UsageStore.CountsPods`: the total is right, and deleting any pod takes back one; kept by all calls;
  3. adding a pod to an empty store and deleting it again, for types of any kind.
-/
import NetAttach.Proofs.Usage.Call
import NetAttach.Proofs.Usage.Tally

namespace NetAttach

open UsageTracker

/-! ## The number of tracked pods -/

theorem Table.size_eq_sum {κ α : Type} (t : Table κ α) : (t.size : Int) = t.sum fun _ => 1 := by
  simp [Table.size, Table.sum]

/-- How many pods are tracked. -/
def UsageStore.tracked (s : UsageStore) : Nat := s.combinations.size

namespace UsageStore

theorem tracked_uncounted (s : UsageStore) (key : Text) :
    ((s.uncounted key).tracked : Int) = s.tracked - if (s.remembered key).isSome then 1 else 0 := by
  unfold tracked
  rw [combinations_uncounted, Table.size_eq_sum, Table.size_eq_sum, Table.sum_erase]
  show _ - (s.remembered key).elim 0 (fun _ => 1) = _
  cases s.remembered key <;> rfl

theorem tracked_counted {s : UsageStore} {key : Text} (h : s.remembered key = none) (types : List Text) :
    ((s.counted key (.ok types)).tracked : Int) = s.tracked + 1 := by
  unfold tracked
  rw [combinations_counted, Table.size_eq_sum, Table.size_eq_sum, Table.sum_put _ _ h]

end UsageStore

/-! ## How often the label stands among labels -/

namespace UsageTracker

/-- The combination of several types has several pieces, so it is not the label `any`. -/
theorem count_any_labels {types : List Text} {c : Text} (h : types.length ≤ (separate c).length) :
    (labels types c).count anyLabel = types.count anyLabel + 1 := by
  have hcomb : (if 1 < types.length then [c] else []).count anyLabel = 0 := by
    split
    · rename_i hlen
      refine List.count_eq_zero.mpr fun hmem => ?_
      obtain rfl := List.mem_singleton.mp hmem
      have hone : (separate anyLabel).length = 1 := by decide
      omega
    · rfl
  rw [labels, List.count_append, List.count_append, hcomb, List.count_singleton_self]

theorem share_any (c : Text) : UsageStore.share (some c) anyLabel = (separate c).count anyLabel + 1 := by
  have h := count_any_labels (le_refl (separate c).length)
  simp only [UsageStore.share, Option.elim, h]
  push_cast
  rfl

theorem count_any_labels_combine {types : List Text} (h : ∀ t ∈ types, t ≠ []) :
    (labels types (combine types)).count anyLabel = types.count anyLabel + 1 := by
  refine count_any_labels ?_
  rw [length_separate_combine h]
  omega

/-- A type that is called `any` has it as its only piece. -/
theorem any_not_mem_of_spared {types : List Text} (h : ∀ t ∈ types, anyLabel ∉ t.splitOn comma) :
    anyLabel ∉ types := by
  intro hmem
  exact h anyLabel hmem (by decide)

end UsageTracker

/-! ## Runs in which the total is right -/

/-- No type that the call resolves has `any` among its pieces. -/
def AnsweredCall.SparesAny [Nesting] (c : AnsweredCall) : Prop :=
  ∀ types ∈ c.types?, ∀ t ∈ types, anyLabel ∉ t.splitOn comma

instance [Nesting] (c : AnsweredCall) : Decidable c.SparesAny :=
  inferInstanceAs (Decidable (∀ types ∈ c.types?, ∀ t ∈ types, anyLabel ∉ t.splitOn comma))

namespace UsageStore

/-- The total of `any` is the number of tracked pods, and one is taken back for each of them. -/
structure CountsPods (s : UsageStore) : Prop where
  total : s.total anyLabel = s.tracked
  once : ∀ k c, s.remembered k = some c → share (some c) anyLabel = 1

theorem countsPods_empty : CountsPods .empty := ⟨rfl, fun _ _ h => nomatch h⟩

theorem CountsPods.uncounted {s : UsageStore} (h : CountsPods s) (key : Text) :
    CountsPods (s.uncounted key) := by
  constructor
  · rw [total_uncounted, tracked_uncounted, h.total]
    cases hk : s.remembered key with
    | none => rfl
    | some c =>
      rw [h.once key c hk]
      rfl
  · intro k c hk
    rw [remembered_uncounted] at hk
    split at hk
    · exact nomatch hk
    · exact h.once k c hk

theorem CountsPods.counted {s : UsageStore} (h : CountsPods s) {key : Text}
    (hkey : s.remembered key = none) {types : List Text} (hne : ∀ t ∈ types, t ≠ [])
    (hspared : ∀ t ∈ types, anyLabel ∉ t.splitOn comma) : CountsPods (s.counted key (.ok types)) := by
  constructor
  · have hcount : types.count anyLabel = 0 :=
      List.count_eq_zero.mpr (any_not_mem_of_spared hspared)
    rw [total_counted, tracked_counted hkey, h.total, count_any_labels_combine hne, hcount]
    rfl
  · intro k c hk
    rw [remembered_counted_ok] at hk
    by_cases hkk : k = key
    · rw [if_pos hkk] at hk
      obtain rfl : combine types = c := Option.some.inj hk
      -- only the types are taken apart, and `any` is no piece of them
      have hcount : (separate (combine types)).count anyLabel = 0 := by
        refine List.count_eq_zero.mpr fun hmem => ?_
        obtain ⟨t, ht, hpiece⟩ := (mem_separate_combine hne).mp hmem
        exact hspared t ht hpiece
      rw [share_any, hcount]
      rfl
    · rw [if_neg hkk] at hk
      exact h.once k c hk

theorem CountsPods.afterCall [Nesting] {s : UsageStore} (h : CountsPods s) (p : Publication) {c : AnsweredCall}
    (hc : c.SparesAny) : CountsPods (s.afterCall p c) := by
  obtain ⟨call, lookup⟩ := c
  cases call with
  | prime =>
    obtain ⟨hcomb, htotal⟩ := afterCall_prime p lookup s
    refine ⟨?_, fun k c hk => h.once k c ?_⟩
    · rw [htotal, tracked, hcomb]
      exact h.total
    · rwa [remembered, hcomb] at hk
  | delete key =>
    rw [afterCall_delete]
    exact h.uncounted key
  | add key selection ns =>
    rw [afterCall_add]
    have hgone := h.uncounted key
    cases hr : resolved lookup selection ns with
    | error f => exact hgone
    | ok types =>
      have hsome := (AnsweredCall.types?_add key).mpr hr
      have hkey : (s.uncounted key).remembered key = none := by
        rw [remembered_uncounted, if_pos rfl]
      exact hgone.counted hkey (ne_nil_of_mem_resolved lookup hr) (hc types hsome)

theorem CountsPods.afterCalls [Nesting] {s : UsageStore} (h : CountsPods s) (p : Publication)
    {calls : List AnsweredCall} (hc : ∀ c ∈ calls, c.SparesAny) : CountsPods (s.afterCalls p calls) := by
  induction calls generalizing s with
  | nil => exact h
  | cons c rest ih =>
    have hstep := h.afterCall p (hc c List.mem_cons_self)
    exact ih hstep fun c' hm => hc c' (List.mem_cons_of_mem c hm)

end UsageStore

/-! ## A pod that is added and deleted again -/

namespace UsageTracker

/-- If the total is right when the first pod is tracked, and again when it has been deleted, then its types do
not have `any` among their pieces: a type of this name would have been counted, and a piece of this name would
have been taken back. -/
theorem spared_of_total_any (key : Text) {types : List Text} (hne : ∀ t ∈ types, t ≠ [])
    (hadded : (UsageStore.empty.counted key (.ok types)).total anyLabel =
      (UsageStore.empty.counted key (.ok types)).tracked)
    (hdeleted : ((UsageStore.empty.counted key (.ok types)).uncounted key).total anyLabel =
      ((UsageStore.empty.counted key (.ok types)).uncounted key).tracked) :
    ∀ t ∈ types, anyLabel ∉ t.splitOn comma := by
  have hkey : (UsageStore.empty.counted key (.ok types)).remembered key = some (combine types) := by
    rw [UsageStore.remembered_counted_ok, if_pos rfl]
  have htotal : UsageStore.empty.total anyLabel = 0 := rfl
  have htracked : UsageStore.empty.tracked = 0 := rfl
  have hnone : UsageStore.empty.remembered key = none := rfl
  have hcount : types.count anyLabel = 0 := by
    rw [UsageStore.total_counted, count_any_labels_combine hne, UsageStore.tracked_counted hnone, htotal,
      htracked] at hadded
    omega
  have htaken : (separate (combine types)).count anyLabel = 0 := by
    rw [UsageStore.total_uncounted, UsageStore.tracked_uncounted, hadded, hkey, share_any] at hdeleted
    simp only [Option.isSome_some, if_true] at hdeleted
    omega
  intro t ht hpiece
  exact List.count_eq_zero.mp htaken ((mem_separate_combine hne).mpr ⟨t, ht, hpiece⟩)

/-- **The total of `any` is the number of tracked pods unless a type has `any` among its pieces.**  Whatever
calls are allowed besides deletions, the two are equal after all calls of all runs, with whatever the cluster
answers, exactly when no call that is allowed resolves such a type. -/
theorem total_any_eq_tracked_iff [Nesting] (p : Publication) (allowed : AnsweredCall → Prop) :
    (∀ calls : List AnsweredCall, (∀ c ∈ calls, allowed c ∨ ∃ key, c.call = .delete key) →
      (UsageStore.empty.afterCalls p calls).total anyLabel =
        (UsageStore.empty.afterCalls p calls).tracked) ↔
    ∀ c, allowed c → c.SparesAny := by
  constructor
  · rintro h ⟨call, lookup⟩ hallowed types htypes
    cases call with
    | prime => exact nomatch htypes
    | delete key => exact nomatch htypes
    | add key selection ns =>
      have hr : resolved lookup selection ns = .ok types := (AnsweredCall.types?_add key).mp htypes
      have hadded := h [⟨.add key selection ns, lookup⟩] fun c hc => by
        obtain rfl := List.mem_singleton.mp hc
        exact Or.inl hallowed
      have hdeleted := h [⟨.add key selection ns, lookup⟩, ⟨.delete key, lookup⟩] fun c hc => by
        rcases List.mem_cons.mp hc with rfl | hc
        · exact Or.inl hallowed
        · obtain rfl := List.mem_singleton.mp hc
          exact Or.inr ⟨key, rfl⟩
      have huncounted : UsageStore.empty.uncounted key = .empty := rfl
      simp only [UsageStore.afterCalls, List.foldl_cons, List.foldl_nil, UsageStore.afterCall_add,
        UsageStore.afterCall_delete, huncounted, hr] at hadded hdeleted
      exact spared_of_total_any key (ne_nil_of_mem_resolved lookup hr) hadded hdeleted
  · intro h calls hcalls
    refine (UsageStore.countsPods_empty.afterCalls p fun c hc => ?_).total
    rcases hcalls c hc with hallowed | ⟨key, hdelete⟩
    · exact h c hallowed
    · intro types htypes
      rw [AnsweredCall.types?, hdelete] at htypes
      cases htypes

/-- A plugin type may be called `any`, and then one tracked pod makes a total of two. -/
theorem not_total_any_eq_tracked_of_type_any :
    let attachment : Text → Text → Lookup := fun name ns =>
      .found ⟨name, ns, "\x7b\"type\":\"any\"\x7d"⟩
    let s := UsageStore.empty.afterCalls ⟨false, none⟩ [⟨.add "ns/p" "n" "ns", attachment⟩]
    s.total anyLabel = 2 ∧ s.tracked = 1 ∧
      ¬∀ (p : Publication) (calls : List AnsweredCall),
        (UsageStore.empty.afterCalls p calls).total anyLabel =
          (UsageStore.empty.afterCalls p calls).tracked := by
  intro attachment s
  have htotal : s.total anyLabel = 2 := by decide +kernel
  have htracked : s.tracked = 1 := by decide +kernel
  refine ⟨htotal, htracked, fun hall => ?_⟩
  have h : s.total anyLabel = s.tracked := hall _ _
  rw [htotal, htracked] at h
  exact absurd h (by decide)

end UsageTracker

end NetAttach
