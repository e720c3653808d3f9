/-
  Adding a pod and deleting it again.

  All that is remembered of a pod is the combination it was counted with, and deleting the pod takes this
  apart to find the labels to take back.  So the deletion undoes the addition exactly when taking the
  combination apart gives back what was put together, which is when no plugin type holds a comma
  (`labels_perm_iff`).  With a comma in a type the labels that are taken back are more than those that were
  counted, and some totals stay below what they were.
-/
import NetAttach.Proofs.Usage.Effect

namespace NetAttach.UsageTracker

open UsageStore

variable (p : Publication) (lookup : Text → Text → Lookup)

/-- Deleting a pod that was just added leaves what deleting it at once leaves, up to the labels that were
counted and those that are taken back. -/
theorem total_uncounted_counted (s : UsageStore) (key l : Text) (types : List Text) :
    (((s.uncounted key).counted key (.ok types)).uncounted key).total l =
      (s.uncounted key).total l + (labels types (combine types)).count l -
        (labels (separate (combine types)) (combine types)).count l := by
  have hkey : ((s.uncounted key).counted key (.ok types)).remembered key = some (combine types) := by
    rw [remembered_counted]
    exact if_pos rfl
  rw [total_uncounted, hkey, total_counted]
  rfl

theorem remembered_uncounted_counted (s : UsageStore) (key k : Text) (types : List Text) :
    (((s.uncounted key).counted key (.ok types)).uncounted key).remembered k =
      (s.uncounted key).remembered k := by
  rw [remembered_uncounted, remembered_counted, remembered_uncounted]
  by_cases hk : k = key
  · rw [if_pos hk, if_pos hk]
  · simp only [if_neg hk]

/-- **Deleting undoes adding unless a type holds a comma.**  When a pod was added and is deleted, the same
pods are tracked as if it had been deleted at once, and all totals are the same exactly when no plugin type
that was resolved for it holds a comma. -/
theorem delete_undoes_add_iff [Nesting] (key selection ns : Text) (s : UsageStore) {combination : Text}
    (h : ((add key selection ns).run p lookup s).result = .ok combination) :
    let added := ((add key selection ns).run p lookup s).store
    let undone := ((delete key).run p lookup added).store
    let deleted := ((delete key).run p lookup s).store
    (∀ k, undone.remembered k = deleted.remembered k) ∧
    ∃ types, resolved lookup selection ns = .ok types ∧ combination = combine types ∧
      ((∀ l, undone.total l = deleted.total l) ↔ ∀ t ∈ types, comma ∉ t) := by
  intro added undone deleted
  obtain ⟨_, hadd⟩ := run_add p lookup key selection ns s
  obtain ⟨_, hundo⟩ := run_delete p lookup key added
  obtain ⟨_, hdel⟩ := run_delete p lookup key s
  rw [hadd] at h
  cases hr : resolved lookup selection ns with
  | error f =>
    rw [hr] at h
    exact nomatch h
  | ok types =>
    rw [hr] at h
    have hc : combination = combine types := (Except.ok.inj h).symm
    have hadded : added = (s.uncounted key).counted key (.ok types) := by
      rw [← hr]
      exact congrArg UsageOutcome.store hadd
    have hundone : undone = ((s.uncounted key).counted key (.ok types)).uncounted key := by
      rw [← hadded]
      exact congrArg UsageOutcome.store hundo
    have hdeleted : deleted = s.uncounted key := congrArg UsageOutcome.store hdel
    refine ⟨fun k => ?_, types, rfl, hc, ?_⟩
    · rw [hundone, hdeleted]
      exact remembered_uncounted_counted s key k types
    · -- label by label, the totals agree where as many were taken back as were counted
      rw [← labels_perm_iff (ne_nil_of_mem_resolved lookup hr), List.perm_iff_count]
      refine forall_congr' fun l => ?_
      rw [hundone, hdeleted, total_uncounted_counted]
      omega

/-- With the type `a,b` the total of `a` ends below zero: `a` was never counted, but it is taken back. -/
theorem not_delete_undoes_add_of_comma :
    let p : Publication := ⟨false, none⟩
    let lookup : Text → Text → Lookup := fun name ns => .found ⟨name, ns, "\x7b\"type\": \"a,b\"\x7d"⟩
    let added := (add "ns/pod" "net" "ns").run p lookup .empty
    let undone := ((delete "ns/pod").run p lookup added.store).store
    let deleted := ((delete "ns/pod").run p lookup .empty).store
    added.result = .ok "a,b" ∧ undone.total "a" = -1 ∧ deleted.total "a" = 0 ∧
      ¬∀ l, undone.total l = deleted.total l := by
  intro p lookup added undone deleted
  have hresult : added.result = .ok "a,b" := by decide +kernel
  have hresolved : resolved lookup "net" "ns" = .ok ["a,b"] := by decide +kernel
  refine ⟨hresult, by decide +kernel, by decide +kernel, fun hall => ?_⟩
  obtain ⟨-, types, hr, -, hiff⟩ := delete_undoes_add_iff p lookup "ns/pod" "net" "ns" .empty hresult
  obtain rfl : ([("a,b" : Text)] : List Text) = types := Except.ok.inj (hresolved.symm.trans hr)
  exact hiff.mp hall "a,b" (List.mem_singleton.mpr rfl) (by decide)

end NetAttach.UsageTracker
