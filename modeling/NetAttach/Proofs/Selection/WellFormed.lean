/-
  References that can be read.

  Whatever the form of an annotation, a reference is read from it only if its name is a token, and so are its namespace
  and its interface unless they are empty (`Reference.WellFormed`).  Apart from that, an item of the short form and an
  object of the long form say what the reference is, each in its own way (`readItem_eq_ok`, `readElement_eq_ok`).
-/
import NetAttach.Proofs.Selection.Word
import NetAttach.Proofs.Success
import NetAttach.Selection.Parse

namespace NetAttach

/-- A name, namespace or interface as it has to be: letters, with hyphens between them. -/
def Text.IsTokenWord (t : Text) : Prop := t.IsWord CodePoint.isTokenLetter

/-- The name is a token, and so are the namespace and the interface, if there are any. -/
structure Reference.WellFormed (r : Reference) : Prop where
  name : r.name.IsTokenWord
  ns : r.ns = [] ∨ r.ns.IsTokenWord
  interface : r.interface = [] ∨ r.interface.IsTokenWord

theorem Text.isToken_iff {t : Text} : t.isToken = true ↔ t.IsTokenWord := isWord_iff

theorem Text.IsTokenWord.ne_nil {t : Text} (h : t.IsTokenWord) : t ≠ [] := by
  cases h with
  | one hc => exact List.cons_ne_nil _ _
  | more hfirst hmiddle hlast => exact List.cons_ne_nil _ _

/-- A letter or a hyphen: what tokens are made of. -/
def CodePoint.IsTokenPoint (c : CodePoint) : Prop := c.isTokenLetter = true ∨ c = Text.hyphen

instance (c : CodePoint) : Decidable c.IsTokenPoint := inferInstanceAs (Decidable (_ ∨ _))

theorem CodePoint.IsTokenPoint.not_isBlank {c : CodePoint} (h : c.IsTokenPoint) : c.isBlank = false := by
  rcases h with h | rfl
  · simp only [isTokenLetter, isLabelLetter, isAsciiLower, isAsciiDigit, isAsciiUpper, isWithin, Bool.or_eq_true,
      Bool.and_eq_true, decide_eq_true_eq] at h
    rw [Bool.eq_false_iff]
    simp only [isBlank, isPlainBlank, isWideBlank, isWithin, ne_eq, Bool.or_eq_true, Bool.and_eq_true,
      decide_eq_true_eq]
    omega
  · decide

theorem CodePoint.IsTokenPoint.number_lt {c : CodePoint} (h : c.IsTokenPoint) : c.number < 0xD800 := by
  rcases h with h | rfl
  · simp only [isTokenLetter, isLabelLetter, isAsciiLower, isAsciiDigit, isAsciiUpper, isWithin, Bool.or_eq_true,
      Bool.and_eq_true, decide_eq_true_eq] at h
    omega
  · decide

theorem Reference.WellFormed.isTokenPoint {r : Reference} (h : r.WellFormed) {word : Text}
    (hword : word ∈ [r.name, r.ns, r.interface]) {c : CodePoint} (hc : c ∈ word) : c.IsTokenPoint := by
  have hempty : ∀ {t : Text}, t = [] ∨ t.IsTokenWord → c ∈ t → c.IsTokenPoint := by
    rintro t (rfl | ht) hmem
    · exact nomatch hmem
    · exact ht.letter_or_hyphen hmem
  simp only [List.mem_cons, List.not_mem_nil, or_false] at hword
  rcases hword with rfl | rfl | rfl
  · exact h.name.letter_or_hyphen hc
  · exact hempty h.ns hc
  · exact hempty h.interface hc

namespace Selection

theorem checked_eq_ok {ns name interface : Text} {r : Reference} :
    checked ns name interface = .ok r ↔
      r = ⟨name, ns, interface⟩ ∧ ∀ word ∈ [ns, name, interface], word = [] ∨ word.IsTokenWord := by
  have hpasses : ∀ word : Text, ¬(!word.isEmpty && !word.isToken) = true ↔ word = [] ∨ word.IsTokenWord := by
    intro word
    rw [← Text.isToken_iff, ← List.isEmpty_iff]
    cases word.isEmpty <;> simp
  unfold checked
  constructor
  · intro h
    split at h
    · exact nomatch h
    · rename_i hfind
      exact ⟨(Except.ok.inj h).symm, fun word hword => (hpasses word).mp (List.find?_eq_none.mp hfind word hword)⟩
  · rintro ⟨rfl, hall⟩
    have hfind : [ns, name, interface].find? (fun word => !word.isEmpty && !word.isToken) = none :=
      List.find?_eq_none.mpr fun word hword => (hpasses word).mpr (hall word hword)
    rw [hfind]

/-- With a name, what is checked is that the reference is well formed. -/
theorem named_checked_eq_ok {ns name interface : Text} {e : Error} {r : Reference} :
    (if name.isEmpty then .error e else checked ns name interface) = .ok r ↔
      (ns, name, interface) = (r.ns, r.name, r.interface) ∧ r.WellFormed := by
  by_cases hempty : name = []
  · rw [if_pos (List.isEmpty_iff.mpr hempty)]
    refine ⟨(nomatch ·), fun ⟨heq, hr⟩ => ?_⟩
    obtain ⟨-, hrest⟩ := Prod.mk.inj heq
    obtain ⟨hname, -⟩ := Prod.mk.inj hrest
    exact absurd (hname.symm.trans hempty) hr.name.ne_nil
  · rw [if_neg (mt List.isEmpty_iff.mp hempty), checked_eq_ok]
    constructor
    · rintro ⟨rfl, hall⟩
      obtain ⟨hns, hname, hinterface⟩ : _ ∧ _ ∧ _ := by simpa using hall
      exact ⟨rfl, hname.resolve_left hempty, hns, hinterface⟩
    · rintro ⟨heq, hr⟩
      obtain ⟨rfl, hrest⟩ := Prod.mk.inj heq
      obtain ⟨rfl, rfl⟩ := Prod.mk.inj hrest
      refine ⟨rfl, ?_⟩
      simpa using ⟨hr.ns, Or.inr hr.name, hr.interface⟩

/-- An item is read as the reference that it falls into the parts of, if that is well formed. -/
theorem readItem_eq_ok {item : Text} {r : Reference} :
    readItem item = .ok r ↔ splitItem item = .ok (r.ns, r.name, r.interface) ∧ r.WellFormed := by
  unfold readItem
  cases hsplit : splitItem item with
  | error e => exact ⟨(nomatch ·), fun h => (nomatch h.1)⟩
  | ok parts =>
    obtain ⟨ns, name, interface⟩ := parts
    rw [Except.ok.injEq]
    exact named_checked_eq_ok

/-- An object is read as the reference that is in its fields, if that is well formed. -/
theorem readElement_eq_ok {v : Value} {r : Reference} :
    readElement v = .ok r ↔ ∃ object, v = .mapping object ∧ textField object "name" = .ok r.name ∧
      textField object "namespace" = .ok r.ns ∧ interfaceField object = .ok r.interface ∧ r.WellFormed := by
  constructor
  · intro h
    unfold readElement at h
    split at h
    · rename_i object
      obtain ⟨name, hname, h⟩ := bind_eq_ok.mp h
      obtain ⟨ns, hns, h⟩ := bind_eq_ok.mp h
      obtain ⟨interface, hinterface, h⟩ := bind_eq_ok.mp h
      obtain ⟨heq, hr⟩ := named_checked_eq_ok.mp h
      obtain ⟨rfl, hrest⟩ := Prod.mk.inj heq
      obtain ⟨rfl, rfl⟩ := Prod.mk.inj hrest
      exact ⟨object, rfl, hname, hns, hinterface, hr⟩
    · exact nomatch h
  · rintro ⟨object, rfl, hname, hns, hinterface, hr⟩
    unfold readElement
    refine bind_eq_ok.mpr ⟨_, hname, bind_eq_ok.mpr ⟨_, hns, bind_eq_ok.mpr ⟨_, hinterface, ?_⟩⟩⟩
    exact named_checked_eq_ok.mpr ⟨rfl, hr⟩

end Selection

end NetAttach
