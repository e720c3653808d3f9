/-
  The room makes no difference where there is enough of it.

  What has been read with some room is read in the same way with more (`Agrees`).  So when a text is read twice, and
  neither reading finds it too deep, the two come to the same, whatever room there was for either
  (`readWithin_eq_of_fits`).

  The proof is one induction on the fuel, for the three readers that call each other.  They spend the fuel in the same
  way whatever the room is, and look at the room only in front of a bracket.
-/
import NetAttach.Json.Reader

namespace NetAttach.Json

variable {α β : Type}

/-- The text was not too deep. -/
def Fits (r : Except Stop α) : Prop := ∀ c, r ≠ .error (.tooDeep c)

theorem Fits.of_map {r : Except Stop α} {f : α → β} (h : Fits (r.map f)) : Fits r := by
  rintro c rfl
  exact h c rfl

theorem Fits.of_error {stop : Stop} (h : Fits (.error stop : Except Stop α)) : Fits (.error stop : Except Stop β) := by
  rintro c hc
  obtain rfl := Except.error.inj hc
  exact h c rfl

/-- What is read with some room is read alike with more. -/
structure Agrees (fuel : Nat) : Prop where
  value : ∀ {room more : Nat}, room ≤ more → ∀ text, Fits (value fuel room text) →
    value fuel more text = value fuel room text
  elements : ∀ {room more : Nat}, room ≤ more → ∀ text, Fits (elements fuel room text) →
    elements fuel more text = elements fuel room text
  members : ∀ {room more : Nat}, room ≤ more → ∀ entries text, Fits (members fuel room entries text) →
    members fuel more entries text = members fuel room entries text

section Step

variable {fuel room more : Nat}

theorem agrees_value_succ (ih : Agrees fuel) (hroom : room ≤ more) (text : Text)
    (h : Fits (value (fuel + 1) room text)) : value (fuel + 1) more text = value (fuel + 1) room text := by
  cases text with
  | nil => rfl
  | cons c rest =>
    unfold Json.value at h ⊢
    simp only at h ⊢
    by_cases hquote : c = '"'
    · rw [if_pos hquote, if_pos hquote]
    rw [if_neg hquote] at h ⊢
    rw [if_neg hquote]
    by_cases hbrace : c = '{'
    · rw [if_pos hbrace] at h ⊢
      rw [if_pos hbrace]
      cases room with
      | zero => exact absurd rfl (h .object)
      | succ room =>
        obtain ⟨more, rfl⟩ : ∃ less, more = less + 1 := ⟨more - 1, by omega⟩
        cases hskip : skipBlanks rest with
        | nil => rfl
        | cons d behind =>
          simp only [hskip] at h ⊢
          split
          · rfl
          · rename_i hd
            rw [if_neg hd] at h
            rw [ih.members (Nat.le_of_succ_le_succ hroom) _ _ h.of_map]
    rw [if_neg hbrace] at h ⊢
    rw [if_neg hbrace]
    by_cases hbracket : c = '['
    · rw [if_pos hbracket] at h ⊢
      rw [if_pos hbracket]
      cases room with
      | zero => exact absurd rfl (h .list)
      | succ room =>
        obtain ⟨more, rfl⟩ : ∃ less, more = less + 1 := ⟨more - 1, by omega⟩
        cases hskip : skipBlanks rest with
        | nil => rfl
        | cons d behind =>
          simp only [hskip] at h ⊢
          split
          · rfl
          · rename_i hd
            rw [if_neg hd] at h
            rw [ih.elements (Nat.le_of_succ_le_succ hroom) _ h.of_map]
    rw [if_neg hbracket, if_neg hbracket]

theorem agrees_elements_succ (ih : Agrees fuel) (hroom : room ≤ more) (text : Text)
    (h : Fits (elements (fuel + 1) room text)) :
    elements (fuel + 1) more text = elements (fuel + 1) room text := by
  unfold Json.elements at h ⊢
  cases hv : value fuel room text with
  | error stop =>
    rw [hv] at h
    rw [ih.value hroom text (hv ▸ h.of_error), hv]
  | ok taken =>
    obtain ⟨v, rest⟩ := taken
    rw [ih.value hroom text (hv ▸ nofun), hv]
    rw [hv] at h
    simp only at h ⊢
    cases hskip : skipBlanks rest with
    | nil => rfl
    | cons c behind =>
      simp only [hskip] at h ⊢
      by_cases hclose : c = ']'
      · rw [if_pos hclose, if_pos hclose]
      rw [if_neg hclose] at h ⊢
      rw [if_neg hclose]
      by_cases hcomma : c = ','
      · rw [if_pos hcomma] at h ⊢
        rw [if_pos hcomma, ih.elements hroom _ h.of_map]
      rw [if_neg hcomma, if_neg hcomma]

theorem agrees_members_succ (ih : Agrees fuel) (hroom : room ≤ more) (entries : Entries) (text : Text)
    (h : Fits (members (fuel + 1) room entries text)) :
    members (fuel + 1) more entries text = members (fuel + 1) room entries text := by
  cases text with
  | nil => rfl
  | cons q rest =>
    unfold Json.members at h ⊢
    simp only at h ⊢
    by_cases hquote : q = '"'
    · rw [if_pos hquote] at h ⊢
      rw [if_pos hquote]
      cases hname : stringBody (q :: rest).length 0 rest with
      | error stop => rfl
      | ok taken =>
        obtain ⟨key, afterName⟩ := taken
        simp only [hname] at h ⊢
        cases hcolon : skipBlanks afterName with
        | nil => rfl
        | cons c afterColon =>
          simp only [hcolon] at h ⊢
          by_cases hc : c = ':'
          · rw [if_pos hc] at h ⊢
            rw [if_pos hc]
            cases hv : value fuel room (skipBlanks afterColon) with
            | error stop =>
              rw [hv] at h
              rw [ih.value hroom _ (hv ▸ h.of_error), hv]
            | ok taken =>
              obtain ⟨v, afterValue⟩ := taken
              rw [ih.value hroom _ (hv ▸ nofun), hv]
              rw [hv] at h
              simp only at h ⊢
              cases hskip : skipBlanks afterValue with
              | nil => rfl
              | cons d behind =>
                simp only [hskip] at h ⊢
                by_cases hclose : d = '}'
                · rw [if_pos hclose, if_pos hclose]
                rw [if_neg hclose] at h ⊢
                rw [if_neg hclose]
                by_cases hcomma : d = ','
                · rw [if_pos hcomma] at h ⊢
                  rw [if_pos hcomma, ih.members hroom _ _ h]
                rw [if_neg hcomma, if_neg hcomma]
          rw [if_neg hc, if_neg hc]
    rw [if_neg hquote, if_neg hquote]

end Step

theorem agrees (fuel : Nat) : Agrees fuel := by
  induction fuel with
  | zero => exact ⟨fun _ _ _ => rfl, fun _ _ _ => rfl, fun _ _ _ _ => rfl⟩
  | succ fuel ih => exact ⟨agrees_value_succ ih, agrees_elements_succ ih, agrees_members_succ ih⟩

/-! ## Whole texts -/

theorem document_eq_of_le {room more : Nat} (hroom : room ≤ more) {text : Text} (h : Fits (document room text)) :
    document more text = document room text := by
  unfold document at h ⊢
  have hvalue : Fits (value (2 * text.length + 2) room (skipBlanks text)) := by
    intro c hc
    rw [hc] at h
    exact h c rfl
  rw [(agrees _).value hroom _ hvalue]

theorem readWithin_eq_of_le {room more : Nat} (hroom : room ≤ more) {text : Text}
    (h : ∀ c, readWithin room text ≠ .error (.tooDeep c)) : readWithin more text = readWithin room text := by
  unfold readWithin at h ⊢
  split
  · rfl
  · rename_i hmark
    rw [if_neg hmark] at h
    have hdocument : Fits (document room text) := by
      intro c hc
      rw [hc] at h
      exact h c rfl
    rw [document_eq_of_le hroom hdocument]

/-- Two readings that do not find a text too deep come to the same. -/
theorem readWithin_eq_of_fits {room other : Nat} {text : Text} (h : ∀ c, readWithin room text ≠ .error (.tooDeep c))
    (hother : ∀ c, readWithin other text ≠ .error (.tooDeep c)) : readWithin room text = readWithin other text := by
  rcases Nat.le_total room other with hle | hle
  · exact (readWithin_eq_of_le hle h).symm
  · exact readWithin_eq_of_le hle hother

/-- A text that is read in two rooms is read as the same value. -/
theorem readWithin_unique {room other : Nat} {text : Text} {v w : Value} (h : readWithin room text = .ok v)
    (h' : readWithin other text = .ok w) : v = w := by
  have hsame : readWithin room text = readWithin other text :=
    readWithin_eq_of_fits (fun _ hdeep => nomatch h.symm.trans hdeep) fun _ hdeep => nomatch h'.symm.trans hdeep
  exact Except.ok.inj (h.symm.trans (hsame.trans h'))

end NetAttach.Json
