/-
  Texts that can be sent.

  A text can be sent if there is no surrogate in it.  What the program says of itself is made of characters,
  and a character is no surrogate; so a refusal can be sent unless it repeats a piece of the request.  The only
  refusal of a review that does is the one for another media type (`isSendable_message`).
-/
import NetAttach.Http.Answer

namespace NetAttach

theorem CodePoint.not_isSurrogate_ofChar (c : Char) : ¬(CodePoint.ofChar c).isSurrogate = true := by
  have hvalid : c.toNat < 0xD800 ∨ 0xDFFF < c.toNat ∧ c.toNat < 0x110000 := c.valid
  have hnumber : (CodePoint.ofChar c).number = c.toNat := rfl
  intro h
  simp only [isSurrogate, isWithin, Bool.and_eq_true, decide_eq_true_eq, hnumber] at h
  omega

namespace Http

theorem isSendable_iff {t : Text} : isSendable t = true ↔ ∀ c ∈ t, ¬c.isSurrogate = true := by
  unfold isSendable
  rw [Bool.not_eq_true', List.any_eq_false]

@[simp] theorem isSendable_append (s t : Text) : isSendable (s ++ t) = (isSendable s && isSendable t) := by
  unfold isSendable
  rw [List.any_append, Bool.not_or]

theorem isSendable_map_ofChar (cs : List Char) : isSendable (cs.map CodePoint.ofChar) = true := by
  refine isSendable_iff.mpr fun c hc => ?_
  obtain ⟨d, -, rfl⟩ := List.mem_map.mp hc
  exact CodePoint.not_isSurrogate_ofChar d

@[simp] theorem isSendable_ofString (s : String) : isSendable (Text.ofString s) = true :=
  isSendable_map_ofChar s.toList

@[simp] theorem isSendable_ofNat (n : Nat) : isSendable (Text.ofNat n) = true := isSendable_map_ofChar _

@[simp] theorem isSendable_hexadecimal (width n : Nat) : isSendable (Text.hexadecimal width n) = true := by
  induction width generalizing n with
  | zero => rfl
  | succ width ih =>
    have hdigit : isSendable [CodePoint.ofChar (Nat.digitChar (n % 16))] = true :=
      isSendable_map_ofChar [Nat.digitChar (n % 16)]
    rw [Text.hexadecimal, isSendable_append, ih, hdigit]
    rfl

/-! ## Messages -/

@[simp] theorem isSendable_tooLongMessage (digits : Nat) :
    isSendable (IntegerFault.tooLongMessage digits) = true := by
  simp [IntegerFault.tooLongMessage]

@[simp] theorem isSendable_encoding_message (e : Encoding.Error) : isSendable e.message = true := by
  have hname : isSendable e.encoding.name = true := by
    cases e.encoding with
    | utf8 => rfl
    | utf16 big => cases big <;> rfl
    | utf32 big => cases big <;> rfl
  have hfault : isSendable e.fault.text = true := by cases e.fault <;> rfl
  unfold Encoding.Error.message
  split <;> simp [hname, hfault]

@[simp] theorem isSendable_descent_message (d : Descent) : isSendable d.message = true := by
  cases d with
  | reading c => cases c <;> rfl
  | _ => rfl

@[simp] theorem isSendable_json_message (e : Json.Error) : isSendable e.message = true := by
  cases e with
  | malformed fault line column index =>
    have hfault : isSendable fault.text = true := by cases fault <;> rfl
    simp [Json.Error.message, hfault]
  | longInteger digits => exact isSendable_tooLongMessage digits
  | tooDeep c => exact isSendable_descent_message (.reading c)

/-- The only refusal of a review that cannot be sent repeats a media type that cannot be sent. -/
theorem isSendable_message {e : Review.Error} :
    isSendable e.message = true ↔ ∀ t, e = .contentType (some t) → isSendable t = true := by
  cases e with
  | contentType given =>
    cases given with
    | none =>
      refine ⟨fun _ t ht => (nomatch ht), fun _ => ?_⟩
      simp [Review.Error.message, Review.mediaType]
    | some t =>
      have hmessage : isSendable (Review.Error.contentType (some t)).message = isSendable t := by
        simp [Review.Error.message, Review.mediaType]
      rw [hmessage]
      constructor
      · rintro h u hu
        obtain rfl := Option.some.inj (Review.Error.contentType.inj hu)
        exact h
      · exact fun h => h t rfl
  | unreadable e =>
    refine ⟨fun _ t ht => (nomatch ht), fun _ => ?_⟩
    cases e <;> simp [Review.Error.message, Json.BytesError.message]
  | emptyBody => exact ⟨fun _ t ht => (nomatch ht), fun _ => rfl⟩
  | otherKind => exact ⟨fun _ t ht => (nomatch ht), fun _ => rfl⟩
  | noRequest => exact ⟨fun _ t ht => (nomatch ht), fun _ => rfl⟩
  | tooDeep c => exact ⟨fun _ t ht => (nomatch ht), fun _ => isSendable_descent_message (.reading c)⟩

end Http

end NetAttach
