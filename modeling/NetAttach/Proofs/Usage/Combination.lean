/-
  Combinations of plugin types, joined and taken apart.

  A combination is the types of a pod between commas, and taking it apart cuts it at every comma.  This gives
  the types back when none of them holds a comma.  A comma inside a type makes one more piece, so how many
  pieces there are tells whether there was one (`length_separate_combine`).  From this it follows that what a
  pod is counted for and what is taken back for it are the same labels exactly when no type holds a comma
  (`labels_perm_iff`).
-/
import NetAttach.Proofs.Text.Parts
import NetAttach.Usage.Tracker

namespace NetAttach

namespace UsageTracker

/-- What stands between the types of a combination. -/
def comma : CodePoint := .ofChar ','

theorem combine_eq (types : List Text) : combine types = [comma].intercalate types := rfl

/-- Only the combination of no types is empty. -/
theorem combine_ne_nil {types : List Text} (hne : types ≠ []) (h : ∀ t ∈ types, t ≠ []) :
    combine types ≠ [] := by
  rw [combine_eq]
  cases types with
  | nil => exact absurd rfl hne
  | cons t rest =>
    have ht : t ≠ [] := h t (List.mem_cons_self)
    cases rest with
    | nil => simpa using ht
    | cons u rest =>
      rw [List.intercalate_cons_cons]
      simp [ht]

theorem separate_of_ne_nil {c : Text} (h : c ≠ []) : separate c = c.splitOn comma := by
  have hempty : c.isEmpty = false := by simpa using h
  rw [separate, hempty]
  rfl

/-- Types without commas are got back. -/
theorem separate_combine {types : List Text} (h : ∀ t ∈ types, t ≠ [])
    (hc : ∀ t ∈ types, comma ∉ t) : separate (combine types) = types := by
  by_cases hne : types = []
  · subst hne
    rfl
  · rw [separate_of_ne_nil (combine_ne_nil hne h), combine_eq]
    exact List.splitOn_intercalate comma hc hne

/-- There is a piece for each type, and one more for each comma in a type. -/
theorem length_separate_combine {types : List Text} (h : ∀ t ∈ types, t ≠ []) :
    (separate (combine types)).length = types.length + (types.map (List.count comma)).sum := by
  by_cases hne : types = []
  · subst hne
    rfl
  · rw [separate_of_ne_nil (combine_ne_nil hne h), length_splitOn, combine_eq,
      count_intercalate comma hne]

/-- The pieces are those of the types. -/
theorem mem_separate_combine {types : List Text} (h : ∀ t ∈ types, t ≠ []) {piece : Text} :
    piece ∈ separate (combine types) ↔ ∃ t ∈ types, piece ∈ t.splitOn comma := by
  by_cases hne : types = []
  · subst hne
    simp [combine, separate, Text.join]
  · rw [separate_of_ne_nil (combine_ne_nil hne h), combine_eq,
      splitOn_intercalate_eq_flatMap comma hne, List.mem_flatMap]

/-! ## Labels -/

theorem length_labels (types : List Text) (combination : Text) :
    (labels types combination).length = types.length + (if 1 < types.length then 1 else 0) + 1 := by
  unfold labels
  split <;> simp

/-- The labels that are counted for types and those that are taken back are the same, whatever their order,
exactly when no type holds a comma. -/
theorem labels_perm_iff {types : List Text} (h : ∀ t ∈ types, t ≠ []) :
    (labels types (combine types)).Perm (labels (separate (combine types)) (combine types)) ↔
      ∀ t ∈ types, comma ∉ t := by
  constructor
  · intro hp t ht hmem
    have hlen := hp.length_eq
    rw [length_labels, length_labels, length_separate_combine h] at hlen
    have hpos : 0 < t.count comma := List.count_pos_iff.mpr hmem
    have hle : t.count comma ≤ (types.map (List.count comma)).sum :=
      List.le_sum_of_mem (List.mem_map_of_mem ht)
    -- one more piece is one more label, and it may bring the combination with it, but takes nothing away
    split at hlen <;> split at hlen <;> omega
  · intro hc
    rw [separate_combine h hc]

end UsageTracker

end NetAttach
