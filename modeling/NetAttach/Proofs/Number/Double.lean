/-
  Doubles that are no number.

  A comparison with a double that is no number fails whichever way it is put: that such a double is not at most zero
  does not make it positive.  There are few ways to come by one.  No decimal reads as one, however many digits it has,
  and neither does an integer; a document has to spell it.

  Structure:
  1. order: what is not at most zero is positive or no number (`not_le_zero_iff`);
  2. what packing, rounding and the arithmetic behind a decimal make of it (`isNaN_ofScientific`);
  3. the words that are read as no number (`isNaN_of_toDouble?`);
  4. the doubles without a size are the infinite ones (`ofBits?_eq_none_iff`).
-/
import Mathlib
import NetAttach.Number.Reading
import NetAttach.Number.Shortest

namespace NetAttach

open Float.Model (UnpackedFloat)
open Float.Model.UnpackedFloat (Sign Accuracy packedNaN unpackExponent unpackMantissa roundWithAccuracy valid_pack
  isNaN_unpack_iff_of_valid unpack_eq_zero_iff_of_valid unpackExponent_packComponents unpackExponent_def)

namespace Double

/-! ## Order -/

theorem unpack_zero : (0 : Float).toModel.unpack = .zero .positive := by
  refine (unpack_eq_zero_iff_of_valid (0 : Float).toModel.valid).mpr ?_
  decide +kernel

theorem le_iff {x y : Float} : x ≤ y ↔ x.toModel.unpack.le y.toModel.unpack = true := by
  change x.le y = true ↔ _
  rw [Float.le, decide_eq_true_iff]
  rfl

theorem lt_iff {x y : Float} : x < y ↔ x.toModel.unpack.lt y.toModel.unpack = true := by
  change x.lt y = true ↔ _
  rw [Float.lt, decide_eq_true_iff]
  rfl

/-- What is not at most zero need not be positive. -/
theorem not_le_zero_iff {x : Float} : ¬x ≤ 0 ↔ 0 < x ∨ x.isNaN = true := by
  rw [le_iff, lt_iff, unpack_zero, Float.isNaN, Float.Model.isNaN]
  unfold UnpackedFloat.le UnpackedFloat.lt UnpackedFloat.compare
  cases x.toModel.unpack with
  | notANumber | zero => simp [UnpackedFloat.isNaN]
  | infinity sign => cases sign <;> simp [UnpackedFloat.isNaN]
  | finite sign => cases sign <;> simp [UnpackedFloat.isNaN]

theorem not_pos_of_isNaN {x : Float} (h : x.isNaN = true) : ¬0 < x := by
  have hunpack : x.toModel.unpack = .notANumber := UnpackedFloat.isNaN_iff.mp h
  rw [lt_iff, hunpack, unpack_zero]
  exact (nomatch ·)

theorem pos_iff_of_not_le_zero {x : Float} (h : ¬x ≤ 0) : 0 < x ↔ ¬x.isNaN = true :=
  ⟨fun hpos hnan => not_pos_of_isNaN hnan hpos, (not_le_zero_iff.mp h).resolve_right⟩

/-! ## Decimals -/

theorem ne_packedNaN_of_mantissa {b : BitVec 64} (h : @unpackMantissa .binary64 b = 0#52) :
    b ≠ packedNaN .binary64 := by
  rintro rfl
  revert h
  decide

theorem ne_packedNaN_of_exponent {b : BitVec 64} (h : @unpackExponent .binary64 b ≠ -1#11) :
    b ≠ packedNaN .binary64 := by
  rintro rfl
  revert h
  decide

/-- Packing turns nothing into no number. -/
theorem isNaN_pack (u : UnpackedFloat) : (Float.ofModel (.pack u)).isNaN = u.isNaN := by
  have hpacked : (Float.ofModel (.pack u)).isNaN = true ↔ u.pack .binary64 = packedNaN .binary64 :=
    isNaN_unpack_iff_of_valid valid_pack
  rw [Bool.eq_iff_iff, hpacked]
  cases u with
  | notANumber => exact iff_of_true rfl rfl
  | infinity sign => cases sign <;> decide
  | zero sign => cases sign <;> decide
  | finite sign m e hm =>
    refine iff_of_false ?_ (by simp [UnpackedFloat.isNaN])
    rw [UnpackedFloat.pack]
    split
    · exact ne_packedNaN_of_mantissa (by cases sign <;> decide)
    · rename_i hsmall
      split
      · -- the exponent fits, so it is not the one that is set apart
        refine ne_packedNaN_of_exponent ?_
        rw [unpackExponent_packComponents]
        intro h
        have hmod := congrArg BitVec.toNat h
        rw [BitVec.toNat_ofNat, Nat.mod_eq_of_lt (by omega)] at hmod
        exact hsmall (by rw [hmod]; decide)
      · refine ne_packedNaN_of_exponent ?_
        rw [unpackExponent_packComponents]
        decide

theorem isNaN_neg (x : Float) : (-x).isNaN = x.isNaN := by
  have hpack : (-x).isNaN = x.toModel.unpack.neg.isNaN := isNaN_pack _
  rw [hpack, Float.isNaN, Float.Model.isNaN]
  cases x.toModel.unpack <;> rfl

theorem isNaN_round (sign : Sign) (m : Nat) (e : Int) (a : Accuracy) :
    (roundWithAccuracy .binary64 sign m e a).isNaN = false := by
  unfold roundWithAccuracy
  dsimp only
  split <;> rfl

section Arithmetic

variable {u : UnpackedFloat} (hu : u.isNaN = false) (sign : Sign) (m : Nat) (e : Int) (hm : 0 < m)

include hu

theorem isNaN_mul_finite : (u.mul .binary64 (.finite sign m e hm)).isNaN = false := by
  cases u with
  | notANumber => exact hu
  | infinity | zero => rfl
  | finite => exact isNaN_round ..

theorem isNaN_div_finite : (u.div .binary64 (.finite sign m e hm)).isNaN = false := by
  cases u with
  | notANumber => exact hu
  | infinity | zero => rfl
  | finite => exact isNaN_round ..

end Arithmetic

theorem isNaN_toFloat (n : UInt64) : n.toFloat.isNaN = false := by
  refine (isNaN_pack _).trans ?_
  change (UnpackedFloat.normalize .binary64 _ 0 .positive).isNaN = false
  unfold UnpackedFloat.normalize
  split
  · exact isNaN_round ..
  · rfl
  · exact isNaN_round ..

/-- The powers of ten that are doubles are neither zero nor infinite. -/
theorem powerOfTen_finite (e : Fin 23) :
    0 < Float.exactlyRepresentablePowersOfTen[e] ∧ Float.exactlyRepresentablePowersOfTen[e].isFinite = true := by
  revert e
  decide +kernel

theorem exists_unpack_finite {x : Float} (hpos : 0 < x) (hfinite : x.isFinite = true) :
    ∃ sign m e hm, x.toModel.unpack = .finite sign m e hm := by
  rw [lt_iff, unpack_zero] at hpos
  rw [Float.isFinite, Float.Model.isFinite] at hfinite
  cases h : x.toModel.unpack with
  | notANumber | infinity => rw [h] at hfinite; exact nomatch hfinite
  | zero => rw [h] at hpos; exact nomatch hpos
  | finite sign m e hm => exact ⟨sign, m, e, hm, rfl⟩

theorem isNaN_unpacked_ofScientific (m : Nat) (e : Int) :
    (UnpackedFloat.ofScientific .binary64 m e).isNaN = false := by
  unfold UnpackedFloat.ofScientific
  split
  · rfl
  · split
    · rfl
    · split
      · rfl
      · split
        · exact isNaN_mul_finite rfl ..
        · exact isNaN_div_finite rfl ..

/-- Small decimals are made of doubles by one operation, and the others are rounded once. -/
theorem isNaN_ofScientific (m : Nat) (below : Bool) (e : Nat) : (Float.ofScientific m below e).isNaN = false := by
  unfold Float.ofScientific
  split
  · rename_i hsmall
    obtain ⟨hpos, hfinite⟩ := powerOfTen_finite ⟨e, by omega⟩
    obtain ⟨sign, n, k, hn, hpower⟩ := exists_unpack_finite hpos hfinite
    have hm := isNaN_toFloat m.toUInt64
    dsimp only
    split
    · refine (isNaN_pack _).trans ?_
      exact hpower ▸ isNaN_div_finite hm sign n k hn
    · refine (isNaN_pack _).trans ?_
      exact hpower ▸ isNaN_mul_finite hm sign n k hn
  · exact (isNaN_pack _).trans (isNaN_unpacked_ofScientific ..)

theorem isNaN_ofDecimal (negative : Bool) (digits : Nat) (exponent : Int) :
    (ofDecimal negative digits exponent).isNaN = false := by
  unfold ofDecimal
  dsimp only
  split
  · rw [isNaN_neg, isNaN_ofScientific]
  · exact isNaN_ofScientific ..

theorem isNaN_ofInt (n : Int) : (Float.ofInt n).isNaN = false := by
  cases n with
  | ofNat n => exact isNaN_ofScientific ..
  | negSucc n => exact (isNaN_neg _).trans (isNaN_ofScientific ..)

/-! ## Infinite doubles -/

theorem toNat_unpackExponent (bits : UInt64) :
    (@unpackExponent .binary64 bits.toBitVec).toNat = bits.toNat / Dyadic.hiddenBit % 2048 := by
  rw [unpackExponent_def, BitVec.extractLsb'_toNat, Nat.shiftRight_eq_div_pow]
  rfl

theorem isInf_of_isNaN {x : Float} (h : x.isNaN = true) : x.isInf = false := by
  have hunpack : x.toModel.unpack = .notANumber := UnpackedFloat.isNaN_iff.mp h
  rw [Float.isInf, Float.Model.isInf, hunpack]
  rfl

/-- A double that is a number has no size exactly when it is infinite. -/
theorem ofBits?_eq_none_iff {x : Float} (h : x.isNaN = false) :
    Dyadic.ofBits? x.toBits = none ↔ x.isInf = true := by
  have hfield : Dyadic.ofBits? x.toBits = none ↔
      @unpackExponent .binary64 x.toBits.toBitVec = -1#11 := by
    rw [← BitVec.toNat_inj, toNat_unpackExponent]
    unfold Dyadic.ofBits?
    dsimp only
    split
    · rename_i hfield
      exact iff_of_true rfl hfield
    · rename_i hfield
      refine iff_of_false ?_ hfield
      split <;> exact (nomatch ·)
  rw [hfield]
  rw [Float.isNaN, Float.Model.isNaN, Float.Model.unpack] at h
  rw [Float.isInf, Float.Model.isInf, Float.Model.unpack]
  unfold UnpackedFloat.unpack at h ⊢
  dsimp only at h ⊢
  split at h
  · rename_i hexponent
    rw [if_pos hexponent]
    split at h
    · rename_i hmantissa
      rw [if_pos hmantissa]
      exact iff_of_true hexponent rfl
    · exact nomatch h
  · rename_i hexponent
    rw [if_neg hexponent]
    refine iff_of_false hexponent ?_
    split
    · split <;> exact (nomatch ·)
    · exact (nomatch ·)

end Double

/-! ## Words -/

namespace Text

/-- A text says that it is no number: in letters of either case, behind a sign or none, with blanks around it. -/
def SpellsNaN (t : Text) : Prop := toLowerAscii (takeSign (t.trim isNumberBlank)).2 = "nan"

theorem isNaN_of_toUnsignedDouble? {negative : Bool} {t : Text} {x : Float}
    (h : toUnsignedDouble? negative t = some x) : x.isNaN = true ↔ t.toLowerAscii = "nan" := by
  unfold toUnsignedDouble? at h
  dsimp only at h
  split at h
  · -- an infinite double is a number, and no word for it is the other word
    rename_i hinf
    obtain rfl := Option.some.inj h
    refine iff_of_false (by cases negative <;> decide +kernel) ?_
    intro hnan
    rw [hnan] at hinf
    revert hinf
    decide
  · split at h
    · rename_i hnan
      obtain rfl := Option.some.inj h
      exact iff_of_true (by decide +kernel) hnan
    · rename_i hnan
      -- whether there is a point or not, what is left is a decimal
      have hdecimal : ∃ digits exponent, x = Double.ofDecimal negative digits exponent := by
        repeat' split at h
        all_goals first
          | exact ⟨_, _, (Option.some.inj h).symm⟩
          | cases h
      obtain ⟨digits, exponent, rfl⟩ := hdecimal
      rw [Double.isNaN_ofDecimal]
      exact iff_of_false Bool.false_ne_true hnan

theorem isNaN_of_toDouble? {t : Text} {x : Float} (h : t.toDouble? = some x) : x.isNaN = true ↔ t.SpellsNaN :=
  isNaN_of_toUnsignedDouble? h

end Text

end NetAttach
