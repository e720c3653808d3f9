/-
  Annotations that cannot be turned down.

  Whatever is wrong with an annotation, there is a reason for which it is turned down, with two exceptions: an
  annotation of the long form that holds an integer with too many digits, and one that is nested too deep.  Then
  what it selects is not known, and whoever asked for it fails (`parse_fails_iff`).
-/
import NetAttach.Proofs.Json.Limits
import NetAttach.Proofs.Success
import NetAttach.Selection.Parse

namespace NetAttach.Selection

/-- There is a reason to give. -/
def Error.Excused (e : Error) : Prop := ∃ reason, e.reason = .ok reason

/-! ## References -/

section References

variable {e : Error}

theorem excused_of_checked {ns name interface : Text} (h : checked ns name interface = .error e) : e.Excused := by
  unfold checked at h
  split at h
  · obtain rfl := Except.error.inj h
    exact ⟨.invalidToken, rfl⟩
  · exact nomatch h

theorem excused_of_splitInterface {item rest : Text} (h : splitInterface item rest = .error e) : e.Excused := by
  unfold splitInterface at h
  split at h
  · exact nomatch h
  · exact nomatch h
  · obtain rfl := Except.error.inj h
    exact ⟨.invalidObjectName, rfl⟩

theorem excused_of_splitItem {item : Text} (h : splitItem item = .error e) : e.Excused := by
  unfold splitItem at h
  split at h
  · exact excused_of_splitInterface (error_of_map h)
  · exact excused_of_splitInterface (error_of_map h)
  · obtain rfl := Except.error.inj h
    exact ⟨.invalidObjectName, rfl⟩

theorem excused_of_readItem {item : Text} (h : readItem item = .error e) : e.Excused := by
  unfold readItem at h
  split at h
  · rename_i other hsplit
    obtain rfl := Except.error.inj h
    exact excused_of_splitItem hsplit
  · split at h
    · obtain rfl := Except.error.inj h
      exact ⟨.invalidObjectName, rfl⟩
    · exact excused_of_checked h

theorem excused_of_textField {object : Entries} {field : Text} (h : textField object field = .error e) :
    e.Excused := by
  unfold textField at h
  split at h
  · exact nomatch h
  · exact nomatch h
  · exact nomatch h
  · obtain rfl := Except.error.inj h
    exact ⟨.malformedJson, rfl⟩

theorem excused_of_interfaceField {object : Entries} (h : interfaceField object = .error e) : e.Excused := by
  unfold interfaceField at h
  split at h
  · rename_i other hfield
    obtain rfl := Except.error.inj h
    exact excused_of_textField hfield
  · exact excused_of_textField h
  · exact nomatch h

theorem excused_of_readElement {v : Value} (h : readElement v = .error e) : e.Excused := by
  unfold readElement at h
  split at h
  · rcases error_of_bind h with hname | ⟨name, -, h⟩
    · exact excused_of_textField hname
    rcases error_of_bind h with hns | ⟨ns, -, h⟩
    · exact excused_of_textField hns
    rcases error_of_bind h with hinterface | ⟨interface, -, h⟩
    · exact excused_of_interfaceField hinterface
    split at h
    · obtain rfl := Except.error.inj h
      exact ⟨.invalidObjectName, rfl⟩
    · exact excused_of_checked h
  · obtain rfl := Except.error.inj h
    exact ⟨.malformedJson, rfl⟩

end References

/-! ## Annotations -/

variable [Nesting]

/-- The annotation has the long form, and its JSON is refused with `e`. -/
structure Refused (raw : Text) (e : Json.Error) : Prop where
  long : isJson raw = true
  refused : Json.readWithin Nesting.selection raw = .error e

/-- The annotation holds an integer with too many digits, or it is nested too deep: asking for what it selects ends in
a failure. -/
inductive Unreadable (raw : Text) : Failure → Prop
  | longInteger {n : Nat} (h : Refused raw (.longInteger n)) : Unreadable raw (.longInteger n)
  | tooDeep {c : Json.Collection} (h : Refused raw (.tooDeep c)) : Unreadable raw (.tooDeep (.reading c))

theorem Unreadable.unique {raw : Text} {f g : Failure} (hf : Unreadable raw f) (hg : Unreadable raw g) : f = g := by
  cases hf <;> rename_i h <;> cases hg <;> rename_i other <;>
    cases Except.error.inj (h.refused.symm.trans other.refused) <;> rfl

/-- In such an annotation there are many digits one after another, or many brackets. -/
theorem Unreadable.crowded {raw : Text} {f : Failure} (h : Unreadable raw f) :
    (∃ n, f = .longInteger n ∧ Json.LongRun raw n) ∨
      ∃ c, f = .tooDeep (.reading c) ∧ Nesting.selection < Json.brackets raw := by
  cases h with
  | longInteger h => exact Or.inl ⟨_, rfl, Json.longRun_of_readWithin h.refused⟩
  | tooDeep h => exact Or.inr ⟨_, rfl, Json.lt_brackets_of_readWithin h.refused⟩

theorem readJson_fails_iff {raw : Text} {f : Failure} (hlong : isJson raw = true) :
    (∃ e, readJson raw = .error e ∧ e.reason = .error f) ↔ Unreadable raw f := by
  constructor
  · rintro ⟨e, he, hreason⟩
    unfold readJson at he
    split at he
    · rename_i n hread
      obtain rfl := Except.error.inj he
      obtain rfl : .longInteger n = f := Except.error.inj hreason
      exact .longInteger ⟨hlong, hread⟩
    · rename_i c hread
      obtain rfl := Except.error.inj he
      obtain rfl : .tooDeep (.reading c) = f := Except.error.inj hreason
      exact .tooDeep ⟨hlong, hread⟩
    · obtain rfl := Except.error.inj he
      exact nomatch hreason
    · obtain ⟨v, -, hv⟩ := error_of_mapM he
      obtain ⟨reason, hexcused⟩ := excused_of_readElement hv
      exact nomatch hexcused.symm.trans hreason
    · obtain rfl := Except.error.inj he
      exact nomatch hreason
  · intro h
    cases h with
    | @longInteger n h => exact ⟨.longInteger n, by simp only [readJson, h.refused], rfl⟩
    | @tooDeep c h => exact ⟨.tooDeep c, by simp only [readJson, h.refused], rfl⟩

/-- There is no reason to turn an annotation down exactly when it is unreadable. -/
theorem parse_fails_iff {raw : Text} (ns : Text) {f : Failure} :
    (∃ e, parse raw ns = .error e ∧ e.reason = .error f) ↔ Unreadable raw f := by
  by_cases hempty : raw.isEmpty = true
  · obtain rfl := List.isEmpty_iff.mp hempty
    constructor
    · rintro ⟨e, he, hreason⟩
      obtain rfl : Error.empty = e := Except.error.inj he
      exact nomatch hreason
    · intro h
      cases h with
      | longInteger h => exact nomatch h.long
      | tooDeep h => exact nomatch h.long
  · by_cases hlong : isJson raw = true
    · rw [← readJson_fails_iff hlong]
      unfold parse
      rw [if_neg hempty, if_pos hlong]
      constructor
      · rintro ⟨e, he, hreason⟩
        exact ⟨e, error_of_map he, hreason⟩
      · rintro ⟨e, he, hreason⟩
        exact ⟨e, by rw [he]; rfl, hreason⟩
    · unfold parse
      rw [if_neg hempty, if_neg hlong]
      constructor
      · rintro ⟨e, he, hreason⟩
        obtain ⟨item, -, hitem⟩ := error_of_mapM (error_of_map he)
        obtain ⟨reason, hexcused⟩ := excused_of_readItem hitem
        exact nomatch hexcused.symm.trans hreason
      · intro h
        cases h with
        | longInteger h => exact absurd h.long hlong
        | tooDeep h => exact absurd h.long hlong

theorem unreadable_bracketed {n : Nat} (h : integerDigitLimit ≤ n) :
    Unreadable (Json.bracketed n) (.longInteger (n + 1)) :=
  .longInteger ⟨rfl, Json.readWithin_bracketed h (Nat.one_le_of_lt Nesting.selection_ge)⟩

end NetAttach.Selection
