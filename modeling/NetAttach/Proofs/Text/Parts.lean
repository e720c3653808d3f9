/-
  Parts of a text.

  A text that is cut at a separator falls into parts without it, and no other such parts make up the text when they are
  joined again (`splitOn_eq_iff`).  Joining parts that hold the separator themselves and cutting the result gives more
  parts than there were, and how many more is told by counting.  A text that is cut once only falls into what stands in
  front of its first separator, or its last, and what stands behind it (`cutFirst_eq_some`, `cutLast_eq_iff`).

  What stands around a part does not matter if it is white space (`Padded`): it is trimmed away, and a part without
  white space in it is what is left exactly of the texts in which it stands like that (`strip_eq_iff`).
-/
import Mathlib
import NetAttach.Text.Blank

namespace NetAttach

/-! ## Separators and pieces -/

theorem length_splitOn {α : Type} [DecidableEq α] (sep : α) (l : List α) :
    (l.splitOn sep).length = l.count sep + 1 := by
  induction l with
  | nil => rfl
  | cons x rest ih =>
    rw [List.splitOn_cons_eq_if_modifyHead]
    by_cases h : x = sep
    · subst h
      rw [if_pos (beq_self_eq_true x), List.length_cons, ih, List.count_cons_self]
    · rw [if_neg (by simpa using h), List.length_modifyHead, ih, List.count_cons_of_ne h]

theorem count_intercalate {α : Type} [DecidableEq α] (sep : α) {parts : List (List α)}
    (h : parts ≠ []) :
    ([sep].intercalate parts).count sep + 1 = parts.length + (parts.map (List.count sep)).sum := by
  induction parts with
  | nil => exact absurd rfl h
  | cons p rest ih =>
    cases rest with
    | nil => simp; omega
    | cons q rest =>
      have ih := ih (by simp)
      rw [List.intercalate_cons_cons, List.count_append, List.count_append, List.count_singleton_self,
        List.map_cons, List.sum_cons, List.length_cons]
      omega

/-- Cutting what was joined gives the pieces of each part. -/
theorem splitOn_intercalate_eq_flatMap {α : Type} [DecidableEq α] (sep : α) {parts : List (List α)}
    (h : parts ≠ []) :
    ([sep].intercalate parts).splitOn sep = parts.flatMap (List.splitOn sep) := by
  induction parts with
  | nil => exact absurd rfl h
  | cons p rest ih =>
    cases rest with
    | nil => simp
    | cons q rest =>
      have ih := ih (by simp)
      rw [List.intercalate_cons_cons, List.append_assoc, List.singleton_append,
        List.splitOn_append_cons_self, ih, List.flatMap_cons (x := p)]

theorem notMem_of_mem_splitOn {α : Type} [DecidableEq α] {sep : α} {l part : List α}
    (h : part ∈ l.splitOn sep) : sep ∉ part := by
  have hcount := count_intercalate sep (List.splitOn_ne_nil sep l)
  rw [List.intercalate_splitOn, length_splitOn] at hcount
  -- all separators of the text stand between its parts, so none is left for a part
  have hsum : ((l.splitOn sep).map (List.count sep)).sum = 0 := by omega
  have hle : part.count sep ≤ ((l.splitOn sep).map (List.count sep)).sum :=
    List.le_sum_of_mem (List.mem_map_of_mem h)
  exact List.count_eq_zero.mp (by omega)

namespace Text

/-- The parts of a text are the texts without the separator that it is joined from. -/
theorem splitOn_eq_iff {sep : CodePoint} {text : Text} {parts : List Text} (hne : parts ≠ []) :
    text.splitOn sep = parts ↔ (∀ part ∈ parts, sep ∉ part) ∧ text = join [sep] parts := by
  constructor
  · rintro rfl
    exact ⟨fun part => notMem_of_mem_splitOn, (List.intercalate_splitOn sep).symm⟩
  · rintro ⟨hfree, rfl⟩
    exact List.splitOn_intercalate sep hfree hne

theorem splitOn_eq_singleton {sep : CodePoint} {text a : Text} : text.splitOn sep = [a] ↔ text = a ∧ sep ∉ a := by
  rw [splitOn_eq_iff (List.cons_ne_nil a []), List.forall_mem_singleton, join, List.intercalate_singleton]
  exact and_comm

theorem splitOn_eq_pair {sep : CodePoint} {text a b : Text} :
    text.splitOn sep = [a, b] ↔ text = a ++ sep :: b ∧ sep ∉ a ∧ sep ∉ b := by
  rw [splitOn_eq_iff (List.cons_ne_nil a [b]), List.forall_mem_cons, List.forall_mem_singleton, join,
    List.intercalate_cons_cons, List.intercalate_singleton, List.append_assoc, List.singleton_append]
  exact and_comm

/-! ## Two parts -/

section Cutting

variable {sep : CodePoint} {t a b : Text}

theorem cutFirst_eq_none : cutFirst sep t = (a, none) ↔ t = a ∧ sep ∉ a := by
  induction t generalizing a with
  | nil =>
    constructor
    · intro h
      obtain rfl := (Prod.mk.inj h).1
      exact ⟨rfl, List.not_mem_nil⟩
    · rintro ⟨rfl, -⟩
      rfl
  | cons c rest ih =>
    rw [cutFirst]
    by_cases hc : c = sep
    · rw [if_pos hc]
      refine iff_of_false (fun h => nomatch (Prod.mk.inj h).2) ?_
      rintro ⟨rfl, hfree⟩
      exact hfree (hc ▸ List.mem_cons_self)
    · rw [if_neg hc]
      constructor
      · intro h
        obtain ⟨rfl, hnone⟩ := Prod.mk.inj h
        obtain ⟨hrest, hfree⟩ := ih.mp (Prod.ext rfl hnone)
        exact ⟨congrArg (c :: ·) hrest, List.not_mem_cons_of_ne_of_not_mem (Ne.symm hc) hfree⟩
      · rintro ⟨rfl, hfree⟩
        rw [ih.mpr ⟨rfl, mt (List.mem_cons_of_mem _) hfree⟩]

theorem cutFirst_eq_some : cutFirst sep t = (a, some b) ↔ t = a ++ sep :: b ∧ sep ∉ a := by
  induction t generalizing a with
  | nil =>
    refine iff_of_false (fun h => nomatch (Prod.mk.inj h).2) ?_
    rintro ⟨h, -⟩
    exact List.cons_ne_nil _ _ (List.append_eq_nil_iff.mp h.symm).2
  | cons c rest ih =>
    rw [cutFirst]
    by_cases hc : c = sep
    · subst hc
      rw [if_pos rfl]
      constructor
      · intro h
        obtain ⟨rfl, hsome⟩ := Prod.mk.inj h
        obtain rfl := Option.some.inj hsome
        exact ⟨rfl, List.not_mem_nil⟩
      · rintro ⟨h, hfree⟩
        cases a with
        | nil => rw [(List.cons.inj h).2]
        | cons d a => exact absurd ((List.cons.inj h).1 ▸ List.mem_cons_self) hfree
    · rw [if_neg hc]
      constructor
      · intro h
        obtain ⟨rfl, hsome⟩ := Prod.mk.inj h
        obtain ⟨hrest, hfree⟩ := ih.mp (Prod.ext rfl hsome)
        exact ⟨congrArg (c :: ·) hrest, List.not_mem_cons_of_ne_of_not_mem (Ne.symm hc) hfree⟩
      · rintro ⟨h, hfree⟩
        cases a with
        | nil => exact absurd (List.cons.inj h).1 hc
        | cons d a =>
          obtain ⟨rfl, hrest⟩ := List.cons.inj h
          rw [ih.mpr ⟨hrest, mt (List.mem_cons_of_mem _) hfree⟩]

end Cutting

/-! ## White space around a text -/

/-- White space and nothing else, or nothing at all. -/
def IsBlank (t : Text) : Prop := ∀ c ∈ t, c.isBlank = true

/-- There is no white space in the text. -/
def IsSolid (t : Text) : Prop := ∀ c ∈ t, c.isBlank = false

theorem isBlank_nil : IsBlank [] := List.forall_mem_nil _

/-- The text `t` with white space around it. -/
inductive Padded (t : Text) : Text → Prop
  | mk {before after : Text} (hbefore : IsBlank before) (hafter : IsBlank after) : Padded t (before ++ t ++ after)

theorem padded_self (t : Text) : Padded t t := by
  have h : Padded t ([] ++ t ++ []) := .mk isBlank_nil isBlank_nil
  rwa [List.nil_append, List.append_nil] at h

theorem Padded.behind {t s w : Text} (h : Padded t s) (hw : IsBlank w) : Padded t (w ++ s) := by
  obtain ⟨hbefore, hafter⟩ := h
  rw [List.append_assoc, ← List.append_assoc, ← List.append_assoc]
  exact .mk (List.forall_mem_append.mpr ⟨hw, hbefore⟩) hafter

theorem Padded.before {t s w : Text} (h : Padded t s) (hw : IsBlank w) : Padded t (s ++ w) := by
  obtain ⟨hbefore, hafter⟩ := h
  rw [List.append_assoc]
  exact .mk hbefore (List.forall_mem_append.mpr ⟨hafter, hw⟩)

theorem Padded.mem {t s : Text} (h : Padded t s) {c : CodePoint} (hc : c ∈ s) : c ∈ t ∨ c.isBlank = true := by
  obtain ⟨hbefore, hafter⟩ := h
  rcases List.mem_append.mp hc with hc | hc
  · rcases List.mem_append.mp hc with hc | hc
    · exact Or.inr (hbefore c hc)
    · exact Or.inl hc
  · exact Or.inr (hafter c hc)

/-! ## Trimming -/

section Dropping

variable {α : Type} {p : α → Bool}

theorem dropWhile_append_cons {c : α} (hc : p c = false) (a b : List α) :
    (a ++ c :: b).dropWhile p = a.dropWhile p ++ c :: b := by
  have hstop : (c :: b).dropWhile p = c :: b := List.dropWhile_cons_of_neg (by rw [hc]; decide)
  rw [List.dropWhile_append, hstop]
  by_cases hempty : a.dropWhile p = []
  · rw [hempty]
    rfl
  · rw [if_neg (mt List.isEmpty_iff.mp hempty)]

theorem rdropWhile_append_cons {c : α} (hc : p c = false) (a b : List α) :
    (a ++ c :: b).rdropWhile p = a ++ c :: b.rdropWhile p := by
  have hreverse : (a ++ c :: b).reverse = b.reverse ++ c :: a.reverse := by simp
  rw [List.rdropWhile, hreverse, dropWhile_append_cons hc, List.reverse_append, List.reverse_cons,
    List.reverse_reverse, List.append_assoc, List.singleton_append, ← List.rdropWhile]

end Dropping

theorem strip_eq (t : Text) : strip t = (t.dropWhile CodePoint.isBlank).rdropWhile CodePoint.isBlank := rfl

theorem strip_of_isBlank {t : Text} (h : IsBlank t) : strip t = [] := by
  rw [strip_eq, List.dropWhile_eq_nil_iff.mpr h]
  rfl

/-- What is not white space stays, and each side of it is trimmed on its own. -/
theorem strip_append_cons {c : CodePoint} (hc : c.isBlank = false) (a b : Text) :
    strip (a ++ c :: b) = a.dropWhile CodePoint.isBlank ++ c :: b.rdropWhile CodePoint.isBlank := by
  rw [strip_eq, dropWhile_append_cons hc, rdropWhile_append_cons hc]

/-- A text is white space, or there is something in it. -/
theorem isBlank_or_exists (t : Text) : IsBlank t ∨ ∃ a c b, t = a ++ c :: b ∧ c.isBlank = false := by
  by_cases h : IsBlank t
  · exact Or.inl h
  · obtain ⟨c, hc⟩ := not_forall.mp h
    obtain ⟨hmem, hsolid⟩ := Classical.not_imp.mp hc
    obtain ⟨a, b, rfl⟩ := List.append_of_mem hmem
    exact Or.inr ⟨a, c, b, rfl, Bool.eq_false_iff.mpr hsolid⟩

theorem strip_dropWhile (t : Text) : strip (t.dropWhile CodePoint.isBlank) = strip t := by
  rw [strip_eq, List.dropWhile_idempotent, ← strip_eq]

theorem strip_rdropWhile (t : Text) : strip (t.rdropWhile CodePoint.isBlank) = strip t := by
  rcases isBlank_or_exists t with hblank | ⟨a, c, b, rfl, hc⟩
  · rw [List.rdropWhile_eq_nil_iff.mpr hblank, strip_of_isBlank hblank]
    rfl
  · rw [rdropWhile_append_cons hc, strip_append_cons hc, strip_append_cons hc, List.rdropWhile_idempotent]

theorem padded_strip (t : Text) : Padded (strip t) t := by
  have hfront : t.takeWhile CodePoint.isBlank ++ t.dropWhile CodePoint.isBlank = t := List.takeWhile_append_dropWhile
  have hback : strip t ++ (t.dropWhile CodePoint.isBlank).rtakeWhile CodePoint.isBlank =
      t.dropWhile CodePoint.isBlank := by
    rw [strip_eq, List.rdropWhile, List.rtakeWhile, ← List.reverse_append, List.takeWhile_append_dropWhile,
      List.reverse_reverse]
  have h : Padded (strip t) (t.takeWhile CodePoint.isBlank ++ strip t ++
      (t.dropWhile CodePoint.isBlank).rtakeWhile CodePoint.isBlank) :=
    .mk (fun c hc => List.mem_takeWhile_imp hc) (fun c hc => List.mem_rtakeWhile_imp hc)
  rwa [List.append_assoc, hback, hfront] at h

/-- Trimming leaves a text without white space exactly if it stands with nothing but white space around it. -/
theorem strip_eq_iff {t s : Text} (ht : IsSolid t) : strip s = t ↔ Padded t s := by
  constructor
  · rintro rfl
    exact padded_strip s
  · rintro ⟨hbefore, hafter⟩
    rename_i before after
    cases t with
    | nil =>
      rw [List.append_nil]
      exact strip_of_isBlank (List.forall_mem_append.mpr ⟨hbefore, hafter⟩)
    | cons c rest =>
      obtain ⟨hc, hrest⟩ := List.forall_mem_cons.mp ht
      have hback : after.reverse.dropWhile CodePoint.isBlank = [] :=
        List.dropWhile_eq_nil_iff.mpr fun d hd => hafter d (List.mem_reverse.mp hd)
      have hkept : rest.rdropWhile CodePoint.isBlank = rest :=
        List.rdropWhile_eq_self_iff.mpr fun hne => by
          rw [hrest _ (List.getLast_mem hne)]
          decide
      have htrimmed : (rest ++ after).rdropWhile CodePoint.isBlank = rest := by
        rw [List.rdropWhile, List.reverse_append, List.dropWhile_append, hback]
        exact hkept
      rw [List.append_assoc, List.cons_append, strip_append_cons hc, htrimmed,
        List.dropWhile_eq_nil_iff.mpr hbefore, List.nil_append]

theorem Padded.dropWhile {t s : Text} (ht : IsSolid t) (h : Padded t s) :
    Padded t (s.dropWhile CodePoint.isBlank) :=
  (strip_eq_iff ht).mp ((strip_dropWhile s).trans ((strip_eq_iff ht).mpr h))

theorem Padded.rdropWhile {t s : Text} (ht : IsSolid t) (h : Padded t s) :
    Padded t (s.rdropWhile CodePoint.isBlank) :=
  (strip_eq_iff ht).mp ((strip_rdropWhile s).trans ((strip_eq_iff ht).mpr h))

end Text

end NetAttach
