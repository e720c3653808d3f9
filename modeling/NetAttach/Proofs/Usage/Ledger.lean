/-
  The books of a run.

  The books say of each tracked pod which plugin types were resolved when it was last added.  They are kept
  by looking at the calls and at what the cluster answers, never at the store (`UsageLedger.record`).  As long
  as no resolved type holds a comma the store agrees with them after every call: the pods in the books are
  those that are tracked, and the total of a label is the sum over the books of how often a pod with these
  types counts for the label (`totals_eq_sums_of_ledger`).

  Structure:
  1. `multiplicity`: how often a pod counts for a label, and that this is also what is taken back for it;
  2. `UsageLedger.Matches`: the books and the store agree; kept when a pod is uncounted and when one is
     counted, hence by a call (`Matches.afterCall`) and by all calls of a run (`Matches.afterCalls`).
-/
import NetAttach.Proofs.Usage.Call
import NetAttach.Proofs.Usage.Tally

namespace NetAttach

open UsageTracker

/-! ## How often a pod counts for a label -/

namespace UsageTracker

/-- How often a pod with the given types counts for a label: once for each of its types, once for their
combination if there are several, and once for `any`. -/
def multiplicity (types : List Text) (l : Text) : Int :=
  (if types.contains l then 1 else 0) + (if 1 < types.length ∧ l = combine types then 1 else 0) +
    (if l = anyLabel then 1 else 0)

theorem multiplicity_nonneg (types : List Text) (l : Text) : 0 ≤ multiplicity types l := by
  unfold multiplicity
  split <;> split <;> split <;> decide

theorem count_labels {types : List Text} (h : types.Nodup) (l : Text) :
    ((labels types (combine types)).count l : Int) = multiplicity types l := by
  have hsingle : ∀ t : Text, [t].count l = if l = t then 1 else 0 := fun t => by
    rw [(List.nodup_singleton t).count]
    simp only [List.mem_singleton]
  have hcomb : (if 1 < types.length then [combine types] else []).count l =
      if 1 < types.length ∧ l = combine types then 1 else 0 := by
    by_cases hlen : 1 < types.length
    · simp only [hlen, hsingle, if_true, true_and]
    · rw [if_neg hlen, if_neg fun hc => hlen hc.1, List.count_nil]
  rw [labels, List.count_append, List.count_append, h.count, hcomb, hsingle, multiplicity]
  simp only [List.contains_iff_mem]
  push_cast
  rfl

/-- Types that are got back when their combination is taken apart. -/
structure Separable (types : List Text) : Prop where
  nonempty : ∀ t ∈ types, t ≠ []
  plain : ∀ t ∈ types, comma ∉ t
  increasing : types.Pairwise (· < ·)

theorem separable_of_resolved [Nesting] {lookup : Text → Text → Lookup} {selection ns : Text} {types : List Text}
    (h : resolved lookup selection ns = .ok types) (hplain : ∀ t ∈ types, comma ∉ t) :
    Separable types :=
  ⟨ne_nil_of_mem_resolved lookup h, hplain, pairwise_resolved lookup h⟩

theorem Separable.nodup {types : List Text} (h : Separable types) : types.Nodup := by
  refine List.Pairwise.imp (fun {s t} hlt => ?_) h.increasing
  rintro rfl
  exact List.lt_irrefl s hlt

/-- As much is taken back for a pod as it was counted for. -/
theorem Separable.share {types : List Text} (h : Separable types) (l : Text) :
    UsageStore.share (some (combine types)) l = multiplicity types l := by
  rw [← count_labels h.nodup]
  simp only [UsageStore.share, Option.elim, separate_combine h.nonempty h.plain]

end UsageTracker

/-- No type that the call resolves holds a comma. -/
def AnsweredCall.Plain [Nesting] (c : AnsweredCall) : Prop := ∀ types ∈ c.types?, ∀ t ∈ types, comma ∉ t

instance [Nesting] (c : AnsweredCall) : Decidable c.Plain :=
  inferInstanceAs (Decidable (∀ types ∈ c.types?, ∀ t ∈ types, comma ∉ t))

/-! ## The books -/

/-- For each tracked pod, by its key, the types that were resolved when it was last added. -/
abbrev UsageLedger := Table Text (List Text)

namespace UsageLedger

/-- Enter a call.  A pod that could not be counted is not in the books, whatever it was before. -/
def record [Nesting] (b : UsageLedger) (c : AnsweredCall) : UsageLedger :=
  match c.call with
  | .prime => b
  | .delete key => b.erase key
  | .add key _ _ =>
    match c.types? with
    | some types => (b.erase key).put key types
    | none => b.erase key

/-- The books of a run from the beginning. -/
def ofCalls [Nesting] (calls : List AnsweredCall) : UsageLedger := calls.foldl record .empty

/-- The books and the store agree, and all types in the books can be got back. -/
structure Matches (b : UsageLedger) (s : UsageStore) : Prop where
  remembered : ∀ k, s.remembered k = (b.get? k).map combine
  total : ∀ l, s.total l = b.sum fun types => multiplicity types l
  separable : ∀ k types, b.get? k = some types → Separable types

theorem matches_empty : Matches .empty .empty := by
  refine ⟨fun _ => rfl, fun _ => rfl, fun k types h => ?_⟩
  rw [Table.get?_empty] at h
  exact nomatch h

/-- What is taken back for a pod is what the books say it was counted for. -/
theorem Matches.share {b : UsageLedger} {s : UsageStore} (h : Matches b s) (key l : Text) :
    UsageStore.share (s.remembered key) l = (b.get? key).elim 0 fun types => multiplicity types l := by
  rw [h.remembered key]
  cases hb : b.get? key with
  | none => rfl
  | some types => exact (h.separable key types hb).share l

theorem Matches.uncounted {b : UsageLedger} {s : UsageStore} (h : Matches b s) (key : Text) :
    Matches (b.erase key) (s.uncounted key) := by
  refine ⟨fun k => ?_, fun l => ?_, fun k types hk => ?_⟩
  · rw [UsageStore.remembered_uncounted, Table.get?_erase, h.remembered k]
    split <;> rfl
  · rw [UsageStore.total_uncounted, Table.sum_erase, h.total l, h.share key l]
  · rw [Table.get?_erase] at hk
    split at hk
    · cases hk
    · exact h.separable k types hk

theorem Matches.counted {b : UsageLedger} {s : UsageStore} (h : Matches b s) {key : Text}
    (hkey : b.get? key = none) {types : List Text} (ht : Separable types) :
    Matches (b.put key types) (s.counted key (.ok types)) := by
  refine ⟨fun k => ?_, fun l => ?_, fun k others hk => ?_⟩
  · rw [UsageStore.remembered_counted_ok, Table.get?_put, h.remembered k]
    split <;> rfl
  · rw [UsageStore.total_counted, Table.sum_put b _ hkey, h.total l, count_labels ht.nodup]
  · rw [Table.get?_put] at hk
    split at hk
    · exact Option.some.inj hk ▸ ht
    · exact h.separable k others hk

/-- One call: a pod is first taken out of the books and of the store, and then entered in both. -/
theorem Matches.afterCall [Nesting] {b : UsageLedger} {s : UsageStore} (h : Matches b s) (p : Publication)
    {c : AnsweredCall} (hc : c.Plain) : Matches (b.record c) (s.afterCall p c) := by
  obtain ⟨call, lookup⟩ := c
  cases call with
  | prime =>
    obtain ⟨hcomb, htotal⟩ := UsageStore.afterCall_prime p lookup s
    refine ⟨fun k => ?_, fun l => (htotal l).trans (h.total l), h.separable⟩
    rw [UsageStore.remembered, hcomb]
    exact h.remembered k
  | delete key =>
    rw [UsageStore.afterCall_delete]
    exact h.uncounted key
  | add key selection ns =>
    rw [UsageStore.afterCall_add]
    have hgone := h.uncounted key
    cases hr : resolved lookup selection ns with
    | error f =>
      have hnone : AnsweredCall.types? ⟨.add key selection ns, lookup⟩ = none := by
        simp only [AnsweredCall.types?, hr, Except.toOption]
      simp only [record, hnone]
      exact hgone
    | ok types =>
      have hsome := (AnsweredCall.types?_add key).mpr hr
      simp only [record, hsome]
      have hkey : (Table.erase b key).get? key = none := Table.get?_erase_self b key
      exact hgone.counted hkey (separable_of_resolved hr (hc types hsome))

/-- All calls of a run, by induction on the run. -/
theorem Matches.afterCalls [Nesting] {b : UsageLedger} {s : UsageStore} (h : Matches b s) (p : Publication)
    {calls : List AnsweredCall} (hc : ∀ c ∈ calls, c.Plain) :
    Matches (calls.foldl record b) (s.afterCalls p calls) := by
  induction calls generalizing b s with
  | nil => exact h
  | cons c rest ih =>
    have hstep := h.afterCall p (hc c List.mem_cons_self)
    exact ih hstep fun c' hm => hc c' (List.mem_cons_of_mem c hm)

end UsageLedger

/-! ## Totals are sums over the books -/

namespace UsageTracker

/-- **Totals are sums over the tracked pods.**  After any calls, with whatever the cluster answered to each of
them, and if no resolved type holds a comma: the tracked pods are those in the books, each remembered with its
types in increasing order between commas; the total of a label is the sum of how often each of them counts for
it; so no total is below zero, and all are zero when no pod is tracked. -/
theorem totals_eq_sums_of_ledger [Nesting] (p : Publication) (calls : List AnsweredCall)
    (hplain : ∀ c ∈ calls, c.Plain) :
    let s := UsageStore.empty.afterCalls p calls
    let b := UsageLedger.ofCalls calls
    (∀ k, s.remembered k = (b.get? k).map combine) ∧
    (∀ k types, b.get? k = some types → types.Pairwise (· < ·)) ∧
    (∀ l, s.total l = b.sum fun types => multiplicity types l) ∧
    (∀ l, 0 ≤ s.total l) ∧
    ((∀ k, s.remembered k = none) → ∀ l, s.total l = 0) := by
  intro s b
  have h : UsageLedger.Matches b s := UsageLedger.matches_empty.afterCalls p hplain
  refine ⟨h.remembered, fun k types hk => (h.separable k types hk).increasing, h.total, fun l => ?_,
    fun hnone l => ?_⟩
  · rw [h.total l]
    exact Table.sum_nonneg b fun types => multiplicity_nonneg types l
  · have hempty : ∀ k, b.get? k = (Table.empty : UsageLedger).get? k := by
      intro k
      have hk := (h.remembered k).symm.trans (hnone k)
      exact Option.map_eq_none_iff.mp hk
    rw [h.total l, Table.sum_congr hempty]
    rfl

/-- The first pod is counted for a chain of two plugins, and then again for one of them, because the attachment
has been changed in between; the second pod is counted for the other, and a third was never counted. -/
theorem totals_eq_sums_of_changed_attachment :
    let p : Publication := ⟨true, none⟩
    let chain : Text → Text → Lookup := fun name ns =>
      .found ⟨name, ns, "\x7b\"plugins\": [\x7b\"type\": \"macvlan\"\x7d, \x7b\"type\": \"bridge\"\x7d]\x7d"⟩
    let single (type : Text) : Text → Text → Lookup := fun name ns =>
      .found ⟨name, ns, "\x7b\"type\": \"" ++ type ++ "\"\x7d"⟩
    let calls : List AnsweredCall :=
      [⟨.prime, chain⟩, ⟨.add "ns/a" "net" "ns", chain⟩, ⟨.add "ns/b" "net" "ns", single "bridge"⟩,
        ⟨.add "ns/a" "net" "ns", single "macvlan"⟩, ⟨.delete "ns/c", chain⟩]
    (∀ c ∈ calls, c.Plain) ∧
      ∀ l, (UsageStore.empty.afterCalls p calls).total l =
        multiplicity ["bridge"] l + multiplicity ["macvlan"] l := by
  intro p chain single calls
  have hplain : ∀ c ∈ calls, c.Plain := by decide +kernel
  have hbooks : (UsageLedger.ofCalls calls).entries =
      [(("ns/b" : Text), [("bridge" : Text)]), (("ns/a" : Text), [("macvlan" : Text)])] := by
    decide +kernel
  refine ⟨hplain, fun l => ?_⟩
  obtain ⟨-, -, htotal, -, -⟩ := totals_eq_sums_of_ledger p calls hplain
  rw [htotal l, Table.sum, hbooks]
  simp

end UsageTracker

end NetAttach
