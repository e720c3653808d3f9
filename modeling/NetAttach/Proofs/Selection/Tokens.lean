/-
  The letters of tokens.

  A token should be a word of ASCII letters and digits.  It is compared without regard to case, though, and there are
  four letters outside ASCII that are ASCII letters in another case (`isFolded`): dotted capital I, dotless small i,
  long s and the Kelvin sign.  A token may hold these as well, and is in ASCII exactly if it does not
  (`isWord_alphanumeric_iff`).

  All names, namespaces and interfaces that are read from an annotation are such words, in the short form and in the
  long one, and all such words can be names.
-/
import NetAttach.Proofs.Selection.Shorthand

namespace NetAttach

namespace CodePoint

/-- An ASCII letter of either case or an ASCII digit. -/
def isAlphanumeric (c : CodePoint) : Bool := c.isAsciiLower || c.isAsciiUpper || c.isAsciiDigit

/-- A letter outside ASCII that is an ASCII letter in another case. -/
def isFolded (c : CodePoint) : Bool := [0x130, 0x131, 0x17F, 0x212A].contains c.number

theorem isTokenLetter_iff {c : CodePoint} : c.isTokenLetter = true ↔ c.isAlphanumeric = true ∨ c.isFolded = true := by
  simp only [isTokenLetter, isLabelLetter, isAlphanumeric, isFolded, Bool.or_eq_true, decide_eq_true_eq,
    List.contains_eq_mem, List.mem_cons, List.not_mem_nil, or_false]
  tauto

theorem not_isFolded_of_isAlphanumeric {c : CodePoint} (h : c.isAlphanumeric = true) : c.isFolded = false := by
  simp only [isAlphanumeric, isAsciiLower, isAsciiUpper, isAsciiDigit, isWithin, Bool.or_eq_true, Bool.and_eq_true,
    decide_eq_true_eq] at h
  rw [Bool.eq_false_iff]
  simp only [isFolded, List.contains_eq_mem, List.mem_cons, List.not_mem_nil, or_false, ne_eq, decide_eq_true_eq]
  omega

end CodePoint

/-- The parts of a reference that are not empty. -/
def Reference.words (r : Reference) : List Text := [r.name, r.ns, r.interface].filter fun word => !word.isEmpty

theorem Reference.WellFormed.isTokenWord {r : Reference} (h : r.WellFormed) {word : Text} (hword : word ∈ r.words) :
    word.IsTokenWord := by
  obtain ⟨hmem, hne⟩ := List.mem_filter.mp hword
  have hword : word ≠ [] := by simpa using hne
  simp only [List.mem_cons, List.not_mem_nil, or_false] at hmem
  rcases hmem with rfl | rfl | rfl
  · exact h.name
  · exact h.ns.resolve_left hword
  · exact h.interface.resolve_left hword

/-- A token is in ASCII unless it holds one of the four letters. -/
theorem Text.IsTokenWord.isWord_alphanumeric_iff {t : Text} (h : t.IsTokenWord) :
    t.IsWord CodePoint.isAlphanumeric ↔ ∀ c ∈ t, c.isFolded = false := by
  constructor
  · intro hword c hc
    rcases hword.letter_or_hyphen hc with hletter | rfl
    · exact CodePoint.not_isFolded_of_isAlphanumeric hletter
    · decide
  · intro hplain
    refine h.of_letters fun c hc hletter => ?_
    exact (CodePoint.isTokenLetter_iff.mp hletter).resolve_right (by simp [hplain c hc])

namespace Selection

/-- Every token is a name that can be read. -/
theorem parse_token [Nesting] {t : Text} (h : t.IsTokenWord) (ns : Text) : parse t ns = .ok [⟨t, ns, []⟩] := by
  have hrow : SpellsRow t [⟨t, [], []⟩] := by
    refine ⟨[t], (List.intercalate_singleton).symm, .cons ⟨?_, h, Or.inl rfl, Or.inl rfl⟩ .nil⟩
    exact .bare (.bare rfl (Text.padded_self t)) rfl
  exact parse_of_row h.ne_nil hrow ns

/-- **What is read is in ASCII, four letters apart.**  Every reference that is read from an annotation of either form
has a name, and its name and the namespace and the interface that it is written with, if any, are words of ASCII
letters, ASCII digits and the four letters that are ASCII letters in another case, with hyphens between them.  They are
words of ASCII letters and digits exactly if none of the four is in them.  The names that are read are all words of this
kind. -/
theorem words_of_parse [Nesting] (raw ns : Text) :
    (∀ references, parse raw ns = .ok references →
      ∃ asWritten, written raw = .ok asWritten ∧ (references = asWritten.map fun r => r.inNamespace ns) ∧
        ∀ r ∈ asWritten, r.name ≠ [] ∧
          (∀ word ∈ r.words, word.IsWord fun c => c.isAlphanumeric || c.isFolded) ∧
          ((∀ word ∈ r.words, word.IsWord CodePoint.isAlphanumeric) ↔
            ∀ word ∈ r.words, ∀ c ∈ word, c.isFolded = false)) ∧
    ((raw.IsWord fun c => c.isAlphanumeric || c.isFolded) → parse raw ns = .ok [⟨raw, ns, []⟩]) := by
  constructor
  · intro references h
    obtain ⟨-, asWritten, hwritten, rfl⟩ := parse_eq_ok.mp h
    refine ⟨asWritten, hwritten, rfl, fun r hr => ?_⟩
    have hwell : r.WellFormed := wellFormed_of_written hwritten r hr
    refine ⟨hwell.name.ne_nil, fun word hword => ?_, forall₂_congr fun word hword => ?_⟩
    · refine (hwell.isTokenWord hword).of_letters fun c _ hletter => ?_
      rw [Bool.or_eq_true]
      exact CodePoint.isTokenLetter_iff.mp hletter
    · exact (hwell.isTokenWord hword).isWord_alphanumeric_iff
  · intro hword
    refine parse_token (hword.of_letters fun c _ hletter => ?_) ns
    exact CodePoint.isTokenLetter_iff.mpr (by simpa using hletter)

/-- The Kelvin sign is read as a name, in the short form and, spelled by its number, in the long form. -/
theorem not_alphanumeric_of_kelvin_sign :
    let name : Text := "\u212A"
    let long : Text := "[\x7b\"name\": \"\\u212a\"\x7d]"
    parse name "ns" = .ok [⟨name, "ns", []⟩] ∧ parse long "ns" = .ok [⟨name, "ns", []⟩] ∧
      ¬name.IsWord CodePoint.isAlphanumeric ∧
      ¬∀ raw ns references, parse raw ns = .ok references →
        ∀ r ∈ references, r.name.IsWord CodePoint.isAlphanumeric := by
  intro name long
  have hshort : parse name "ns" = .ok [⟨name, "ns", []⟩] :=
    (words_of_parse name "ns").2 (.one (by decide))
  have hlong : parse long "ns" = .ok [⟨name, "ns", []⟩] := by decide +kernel
  have hname : ¬name.IsWord CodePoint.isAlphanumeric := by
    intro hword
    have hisWord := Text.isWord_iff.mpr hword
    exact absurd hisWord (by decide)
  exact ⟨hshort, hlong, hname, fun hall => hname (hall name "ns" _ hshort _ (List.mem_singleton.mpr rfl))⟩

end Selection

end NetAttach
