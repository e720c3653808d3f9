/-
  Words, as names and tokens have to be.

  A word is one letter, or letters and hyphens between two letters.  The check looks at both ends and at every
  place, which comes to the same (`isWord_iff`).
-/
import Mathlib
import NetAttach.Selection.Reference

namespace NetAttach.Text

/-- What may stand between the letters of a word. -/
def hyphen : CodePoint := .ofChar '-'

/-- One letter, or two letters with letters and hyphens between them. -/
inductive IsWord (letter : CodePoint → Bool) : Text → Prop
  | one {c : CodePoint} (hc : letter c = true) : IsWord letter [c]
  | more {first last : CodePoint} {middle : Text} (hfirst : letter first = true)
      (hmiddle : ∀ c ∈ middle, letter c = true ∨ c = hyphen) (hlast : letter last = true) :
      IsWord letter (first :: (middle ++ [last]))

variable {letter : CodePoint → Bool}

theorem isWord_singleton (c : CodePoint) : isWord letter [c] = true ↔ letter c = true := by
  have hone : isWord letter [c] = (letter c && letter c && ((letter c || decide (c = hyphen)) && true)) := rfl
  rw [hone]
  cases letter c <;> simp

theorem isWord_cons_append (first last : CodePoint) (middle : Text) :
    isWord letter (first :: (middle ++ [last])) = true ↔
      letter first = true ∧ (∀ c ∈ middle, letter c = true ∨ c = hyphen) ∧ letter last = true := by
  have hends : (first :: (middle ++ [last])).getLast? = some last := by
    rw [← List.cons_append, List.getLast?_concat]
  have hplace : ∀ c, (letter c || decide (c = CodePoint.ofChar '-')) = true ↔ letter c = true ∨ c = hyphen := by
    intro c
    rw [Bool.or_eq_true, decide_eq_true_eq]
    rfl
  simp only [isWord, List.head?_cons, hends, Bool.and_eq_true, List.all_eq_true, hplace]
  constructor
  · rintro ⟨⟨hfirst, hlast⟩, hall⟩
    refine ⟨hfirst, fun c hc => hall c ?_, hlast⟩
    exact List.mem_cons_of_mem first (List.mem_append_left [last] hc)
  · rintro ⟨hfirst, hmiddle, hlast⟩
    refine ⟨⟨hfirst, hlast⟩, fun c hc => ?_⟩
    rcases List.mem_cons.mp hc with rfl | hc
    · exact Or.inl hfirst
    · rcases List.mem_append.mp hc with hc | hc
      · exact hmiddle c hc
      · obtain rfl := List.mem_singleton.mp hc
        exact Or.inl hlast

theorem isWord_iff {t : Text} : t.isWord letter = true ↔ IsWord letter t := by
  constructor
  · intro h
    cases t with
    | nil => exact nomatch h
    | cons first rest =>
      rcases List.eq_nil_or_concat' rest with rfl | ⟨middle, last, rfl⟩
      · exact .one ((isWord_singleton first).mp h)
      · obtain ⟨hfirst, hmiddle, hlast⟩ := (isWord_cons_append first last middle).mp h
        exact .more hfirst hmiddle hlast
  · intro h
    cases h with
    | one hc => exact (isWord_singleton _).mpr hc
    | more hfirst hmiddle hlast => exact (isWord_cons_append _ _ _).mpr ⟨hfirst, hmiddle, hlast⟩

theorem IsWord.letter_or_hyphen {t : Text} (h : IsWord letter t) {c : CodePoint} (hc : c ∈ t) :
    letter c = true ∨ c = hyphen := by
  cases h with
  | one hone =>
    obtain rfl := List.mem_singleton.mp hc
    exact Or.inl hone
  | more hfirst hmiddle hlast =>
    rcases List.mem_cons.mp hc with rfl | hc
    · exact Or.inl hfirst
    · rcases List.mem_append.mp hc with hc | hc
      · exact hmiddle c hc
      · obtain rfl := List.mem_singleton.mp hc
        exact Or.inl hlast

/-- A word is one of any letters that include its own. -/
theorem IsWord.of_letters {other : CodePoint → Bool} {t : Text} (h : IsWord letter t)
    (hother : ∀ c ∈ t, letter c = true → other c = true) : IsWord other t := by
  cases h with
  | one hone => exact .one (hother _ List.mem_cons_self hone)
  | @more first last middle hfirst hmiddle hlast =>
    have hmem : ∀ c ∈ middle ++ [last], c ∈ first :: (middle ++ [last]) := fun _ => List.mem_cons_of_mem first
    refine .more (hother _ List.mem_cons_self hfirst) (fun c hc => ?_) (hother _ (hmem _ (by simp)) hlast)
    exact (hmiddle c hc).imp_left (hother c (hmem c (List.mem_append_left [last] hc)))

end NetAttach.Text
