/-
  Totals are sums over the tracked pods.

  `UsageStore.Tallied` says that the total of each label is the sum, over the pods that are tracked, of how
  often the label would be taken back for the pod.  Taking back what a pod was counted for keeps this without
  any condition; counting a pod keeps it when no plugin type holds a comma.

  A tallied store is determined by what it remembers: of two that remember the same, all totals are the same
  (`Tallied.total_congr`), in whatever order the pods came and went.
-/
import NetAttach.Proofs.Usage.Effect

namespace NetAttach

/-! ## Sums over the entries of a table -/

namespace Table

variable {κ α : Type} [DecidableEq κ]

theorem findEntry_eq_some {key : κ} {a : α} {es : List (κ × α)} (hd : (es.map (·.1)).Nodup) :
    findEntry key es = some a ↔ (key, a) ∈ es := by
  induction es with
  | nil => simp [findEntry]
  | cons e rest ih =>
    obtain ⟨hnot, hrest⟩ := List.nodup_cons.mp hd
    by_cases hk : e.1 = key
    · subst hk
      rw [findEntry, if_pos rfl, List.mem_cons]
      constructor
      · intro h
        exact Or.inl (Prod.ext rfl (Option.some.inj h).symm)
      · rintro (h | h)
        · rw [← h]
        · exact absurd (List.mem_map_of_mem h) hnot
    · rw [findEntry, if_neg hk, ih hrest, List.mem_cons]
      constructor
      · exact Or.inr
      · rintro (h | h)
        · exact absurd (congrArg Prod.fst h).symm hk
        · exact h

/-- Two tables in which the same can be looked up have the same entries, in some order. -/
theorem perm_entries {t u : Table κ α} (h : ∀ key, t.get? key = u.get? key) :
    t.entries.Perm u.entries := by
  have hnodup : ∀ v : Table κ α, v.entries.Nodup := fun v => List.Nodup.of_map _ v.distinct
  refine (List.perm_ext_iff_of_nodup (hnodup t) (hnodup u)).mpr ?_
  rintro ⟨key, a⟩
  rw [← findEntry_eq_some t.distinct, ← findEntry_eq_some u.distinct]
  exact Eq.congr_left (h key)

/-- The sum of `f` over the values of a table. -/
def sum (t : Table κ α) (f : α → Int) : Int := (t.entries.map fun e => f e.2).sum

theorem sum_congr {t u : Table κ α} (h : ∀ key, t.get? key = u.get? key) (f : α → Int) :
    t.sum f = u.sum f :=
  ((perm_entries h).map _).sum_eq

omit [DecidableEq κ] in
theorem sum_nonneg (t : Table κ α) {f : α → Int} (h : ∀ a, 0 ≤ f a) : 0 ≤ t.sum f :=
  List.sum_nonneg fun x hx => by
    obtain ⟨e, -, rfl⟩ := List.mem_map.mp hx
    exact h e.2

theorem putEntry_of_absent {key : κ} {es : List (κ × α)} (h : ∀ e ∈ es, e.1 ≠ key) (a : α) :
    putEntry key a es = es ++ [(key, a)] := by
  induction es with
  | nil => rfl
  | cons e rest ih =>
    rw [putEntry, if_neg (h e List.mem_cons_self), List.cons_append,
      ih fun e' he => h e' (List.mem_cons_of_mem _ he)]

theorem sum_put (t : Table κ α) (f : α → Int) {key : κ} (h : t.get? key = none) (a : α) :
    (t.put key a).sum f = t.sum f + f a := by
  show ((putEntry key a t.entries).map fun e => f e.2).sum = _
  rw [putEntry_of_absent (findEntry_eq_none.mp h), List.map_append, List.sum_append]
  simp [sum]

theorem sum_filter (f : α → Int) (key : κ) {es : List (κ × α)} (hd : (es.map (·.1)).Nodup) :
    ((es.filter fun e => e.1 ≠ key).map fun e => f e.2).sum =
      (es.map fun e => f e.2).sum - (findEntry key es).elim 0 f := by
  induction es with
  | nil => rfl
  | cons e rest ih =>
    obtain ⟨hnot, hrest⟩ := List.nodup_cons.mp hd
    have ih := ih hrest
    rw [findEntry, List.map_cons, List.sum_cons]
    by_cases hk : e.1 = key
    · -- the key is not among the rest, so that nothing else is removed
      have hnone : findEntry key rest = none :=
        findEntry_eq_none.mpr fun e' he hk' =>
          hnot (List.mem_map.mpr ⟨e', he, hk'.trans hk.symm⟩)
      rw [hnone] at ih
      rw [List.filter_cons_of_neg (by simpa using hk), if_pos hk, ih]
      simp only [Option.elim]
      omega
    · rw [List.filter_cons_of_pos (by simpa using hk), if_neg hk, List.map_cons, List.sum_cons, ih]
      omega

theorem sum_erase (t : Table κ α) (f : α → Int) (key : κ) :
    (t.erase key).sum f = t.sum f - (t.get? key).elim 0 f :=
  sum_filter f key t.distinct

end Table

/-! ## Tallied stores -/

namespace UsageStore

open UsageTracker

/-- The total of each label is the sum of what would be taken back for the pods that are tracked. -/
def Tallied (s : UsageStore) : Prop := ∀ l, s.total l = s.combinations.sum fun c => share (some c) l

theorem tallied_empty : Tallied .empty := fun _ => rfl

theorem Tallied.total_congr {s u : UsageStore} (hs : Tallied s) (hu : Tallied u)
    (h : ∀ k, s.remembered k = u.remembered k) (l : Text) : s.total l = u.total l := by
  rw [hs l, hu l, Table.sum_congr h]

theorem combinations_uncounted (s : UsageStore) (key : Text) :
    (s.uncounted key).combinations = s.combinations.erase key := by
  unfold uncounted
  cases h : s.remembered key with
  | none => exact (Table.erase_of_get?_eq_none h).symm
  | some combination =>
    show ((s.forget key).adjustAll _ _).combinations = _
    rw [combinations_adjustAll]
    rfl

theorem combinations_counted (s : UsageStore) (key : Text) (types : List Text) :
    (s.counted key (.ok types)).combinations = s.combinations.put key (combine types) := by
  show ((s.adjustAll _ _).remember key _).combinations = _
  rw [remember, combinations_adjustAll]

theorem Tallied.uncounted {s : UsageStore} (h : Tallied s) (key : Text) : Tallied (s.uncounted key) := by
  intro l
  rw [total_uncounted, combinations_uncounted, Table.sum_erase, h l]
  have hshare : (s.combinations.get? key).elim 0 (fun c => share (some c) l) =
      share (s.remembered key) l := by
    show (s.remembered key).elim 0 (fun c => share (some c) l) = _
    cases s.remembered key <;> simp [share]
  rw [hshare]

/-- Counting a pod that is not tracked keeps the sums, if no type is taken apart later. -/
theorem Tallied.counted {s : UsageStore} (h : Tallied s) {key : Text} (hkey : s.remembered key = none)
    {r : Except Failure (List Text)}
    (hr : ∀ types, r = .ok types → (∀ t ∈ types, t ≠ []) ∧ ∀ t ∈ types, comma ∉ t) :
    Tallied (s.counted key r) := by
  cases r with
  | error f => exact h
  | ok types =>
    obtain ⟨hne, hcomma⟩ := hr types rfl
    intro l
    have hshare : share (some (combine types)) l = (labels types (combine types)).count l := by
      simp only [share, Option.elim, separate_combine hne hcomma]
    rw [total_counted, combinations_counted, Table.sum_put _ _ hkey, h l, hshare]

end UsageStore

end NetAttach
