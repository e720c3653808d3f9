/-
  Text as the program meets it: a list of code points.

  JSON can spell a surrogate that has no partner (`"\ud800"`), and a program that repeats its input in
  a message must be able to hold one.  `Char` leaves these 2048 numbers out, so a code point here is any
  number below 0x110000.  A `String` becomes a text by reading its characters in order, and text is
  ordered the way a dictionary orders words, code point by code point.
-/

namespace NetAttach

/-- A code point: any number below 0x110000, surrogates included. -/
structure CodePoint where
  number : Nat
  number_lt : number < 0x110000
deriving DecidableEq

namespace CodePoint

/-- Every character is a code point. -/
def ofChar (c : Char) : CodePoint :=
  ⟨c.toNat, by
    have h := c.valid
    unfold UInt32.isValidChar Nat.isValidChar at h
    simp only [Char.toNat]
    omega⟩

instance : Coe Char CodePoint := ⟨ofChar⟩

instance : Inhabited CodePoint := ⟨ofChar ' '⟩

/-- The code point with number `n`, when there is one. -/
def ofNat? (n : Nat) : Option CodePoint :=
  if h : n < 0x110000 then some ⟨n, h⟩ else none

/-- Code points are ordered by number. -/
instance : LT CodePoint := ⟨fun a b => a.number < b.number⟩

instance : DecidableLT CodePoint :=
  fun a b => inferInstanceAs (Decidable (a.number < b.number))

theorem ext_number {a b : CodePoint} (h : a.number = b.number) : a = b := by
  cases a; cases b; simp_all

instance : Std.Irrefl (α := CodePoint) (· < ·) := ⟨fun a => Nat.lt_irrefl a.number⟩

instance : Std.Asymm (α := CodePoint) (· < ·) := ⟨fun _ _ h => Nat.lt_asymm h⟩

instance : Trans (α := CodePoint) (· < ·) (· < ·) (· < ·) := ⟨fun h k => Nat.lt_trans h k⟩

instance : Std.Antisymm (α := CodePoint) (¬ · < ·) :=
  ⟨fun _ _ h k => ext_number (Nat.le_antisymm (Nat.not_lt.mp k) (Nat.not_lt.mp h))⟩

/-- The number lies between `low` and `high`, both included. -/
def isWithin (c : CodePoint) (low high : Nat) : Bool :=
  decide (low ≤ c.number) && decide (c.number ≤ high)

/-- One of the ten ASCII digits. -/
def isAsciiDigit (c : CodePoint) : Bool := c.isWithin 0x30 0x39

/-- A small ASCII letter. -/
def isAsciiLower (c : CodePoint) : Bool := c.isWithin 0x61 0x7A

/-- A capital ASCII letter. -/
def isAsciiUpper (c : CodePoint) : Bool := c.isWithin 0x41 0x5A

/-- A surrogate: half of a pair that stands for one code point above 0xFFFF. -/
def isSurrogate (c : CodePoint) : Bool := c.isWithin 0xD800 0xDFFF

end CodePoint

/-- A text is a list of code points. -/
abbrev Text := List CodePoint

namespace Text

/-- The characters of a string, as a text. -/
def ofString (s : String) : Text := s.toList.map CodePoint.ofChar

instance : Coe String Text := ⟨ofString⟩

/-- The decimal digits of a natural number. -/
def ofNat (n : Nat) : Text := (Nat.toDigits 10 n).map CodePoint.ofChar

/-- The decimal digits of an integer, behind a minus sign when it is negative. -/
def ofInt : Int → Text
  | .ofNat n => ofNat n
  | .negSucc n => '-' :: ofNat (n + 1)

/-- The string of a text; a surrogate, which no string holds, becomes U+FFFD. -/
def toString (t : Text) : String :=
  String.ofList <| t.map fun c => if c.isSurrogate then '\uFFFD' else Char.ofNat c.number

/-! ## Cutting and joining -/

/-- The texts in a row with `sep` between neighbours. -/
def join (sep : Text) (parts : List Text) : Text := sep.intercalate parts

/-- `text` without the leading and trailing code points of class `drop`. -/
def trim (drop : CodePoint → Bool) (text : Text) : Text :=
  ((text.dropWhile drop).reverse.dropWhile drop).reverse

/-- The parts before and after the first `sep`; the second is absent where there is no `sep`. -/
def cutFirst (sep : CodePoint) : Text → Text × Option Text
  | [] => ([], none)
  | c :: rest =>
    if c = sep then ([], some rest)
    else
      let (before, after) := cutFirst sep rest
      (c :: before, after)

/-- The parts before and after the last `sep`; without one, all of the text comes after it. -/
def cutLast (sep : CodePoint) (text : Text) : Text × Text :=
  match cutFirst sep text.reverse with
  | (after, some before) => (before.reverse, after.reverse)
  | (_, none) => ([], text)

/-- The rest of `text` behind the first part `start`, when it begins with that. -/
def after? (start : Text) (text : Text) : Option Text :=
  if start.isPrefixOf text then some (text.drop start.length) else none

/-- `text` with small letters for the capital ASCII letters. -/
def toLowerAscii (text : Text) : Text :=
  text.map fun c =>
    if h : c.number ≤ 0x5A then
      if 0x41 ≤ c.number then ⟨c.number + 0x20, by omega⟩ else c
    else c

/-! ## Order -/

/-- Two texts have no third one between being before, after and the same. -/
theorem lt_or_eq_or_gt (s t : Text) : s < t ∨ s = t ∨ t < s := by
  by_cases h : s < t
  · exact Or.inl h
  · by_cases k : t < s
    · exact Or.inr (Or.inr k)
    · exact Or.inr (Or.inl (List.le_antisymm (List.not_lt.mp k) (List.not_lt.mp h)))

/-- Put `t` in its place in an increasing list of texts; one already there is not repeated. -/
def insertInOrder (t : Text) : List Text → List Text
  | [] => [t]
  | u :: us => if t < u then t :: u :: us else if t = u then u :: us else u :: insertInOrder t us

/-- The different texts of a list, in increasing order. -/
def distinctInOrder (texts : List Text) : List Text :=
  texts.foldr insertInOrder []

theorem mem_insertInOrder {s t : Text} {us : List Text} :
    s ∈ insertInOrder t us ↔ s = t ∨ s ∈ us := by
  induction us with
  | nil => simp [insertInOrder]
  | cons u us ih =>
    unfold insertInOrder
    split
    · simp
    · split
      · rename_i h
        subst h
        simp
      · rw [List.mem_cons, List.mem_cons, ih]
        exact or_left_comm

theorem mem_distinctInOrder {t : Text} {texts : List Text} : t ∈ distinctInOrder texts ↔ t ∈ texts := by
  induction texts with
  | nil => rfl
  | cons u us ih => exact mem_insertInOrder.trans ((or_congr_right ih).trans List.mem_cons.symm)

theorem pairwise_insertInOrder (t : Text) {us : List Text} (h : us.Pairwise (· < ·)) :
    (insertInOrder t us).Pairwise (· < ·) := by
  induction us with
  | nil => exact List.pairwise_singleton _ t
  | cons u us ih =>
    obtain ⟨hu, hus⟩ := List.pairwise_cons.mp h
    unfold insertInOrder
    by_cases hlt : t < u
    · rw [if_pos hlt]
      refine List.pairwise_cons.mpr ⟨fun v hv => ?_, h⟩
      rcases List.mem_cons.mp hv with rfl | hv
      · exact hlt
      · exact List.lt_trans hlt (hu v hv)
    · rw [if_neg hlt]
      by_cases heq : t = u
      · rw [if_pos heq]
        exact h
      · rw [if_neg heq]
        have hgt : u < t := ((lt_or_eq_or_gt t u).resolve_left hlt).resolve_left heq
        refine List.pairwise_cons.mpr ⟨fun v hv => ?_, ih hus⟩
        rcases mem_insertInOrder.mp hv with rfl | hv
        · exact hgt
        · exact hu v hv

/-- Each text comes before the next, so that none is listed twice. -/
theorem pairwise_distinctInOrder (texts : List Text) : (distinctInOrder texts).Pairwise (· < ·) := by
  induction texts with
  | nil => exact List.Pairwise.nil
  | cons t texts ih => exact pairwise_insertInOrder t ih

example : Text.join "," ["b", "a"] = ("b,a" : Text) := by decide
example : Text.cutLast ':' "a:b:c" = (("a:b" : Text), ("c" : Text)) := by decide
example : Text.distinctInOrder ["b", "a", "b"] = (["a", "b"] : List Text) := by decide

end Text

end NetAttach
