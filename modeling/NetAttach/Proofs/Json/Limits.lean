/-
  Texts that are refused though nothing is wrong with their form.

  All refusals of the JSON reader but two are about the form of the text.  One of the two is for an integer of
  more than 4300 digits, the other for collections that are nested deeper than there is room for.  Whoever calls
  the reader has to know when they can come up: only for a text in which that many digits follow each other, and
  only for a text with more brackets than there is room for.

  Structure:
  1. `LongRun`, such a row of digits, `brackets`, and `Tells`, which says of any reader that it reads from the
     start of its text and refuses it for one of the two only if the text is like this;
  2. one lemma for each reader, `tells_stringBody`, `tells_number`, and `tells_values` for the three that call
     each other, by induction on the fuel that they share;
  3. `longRun_of_readWithin` and `lt_brackets_of_readWithin`, the statements about a whole text, and a text that is
     refused for its integer, `readWithin_bracketed`.
-/
import Mathlib.Data.List.TakeWhile
import NetAttach.Json.Reader

namespace NetAttach.Json

/-- Somewhere in the text `n` digits follow each other, and this is more than an integer may have. -/
structure LongRun (text : Text) (n : Nat) : Prop where
  limit : integerDigitLimit < n
  digits : ∃ digits : Text, digits <:+: text ∧ digits.length = n ∧ ∀ c ∈ digits, c.isAsciiDigit = true

theorem LongRun.mono {rest text : Text} {n : Nat} (hrest : rest <:+ text) (h : LongRun rest n) :
    LongRun text n := by
  obtain ⟨digits, hin, hlength, hall⟩ := h.digits
  exact ⟨h.limit, digits, hin.trans hrest.isInfix, hlength, hall⟩

/-- With this a list or an object begins. -/
def isOpening (c : CodePoint) : Bool := c = '[' || c = '{'

/-- How many brackets and braces are opened in a text. -/
def brackets (text : Text) : Nat := text.countP isOpening

theorem brackets_mono {rest text : Text} (hrest : rest <:+ text) : brackets rest ≤ brackets text :=
  hrest.sublist.countP_le

variable {α β : Type} {room : Nat}

/-- What reading from the start of `text` may come to: what is left is the end of it, an integer that is
refused stands in it, and there is not room for all its brackets if they are too many. -/
def Tells (room : Nat) (text : Text) : Except Stop (α × Text) → Prop
  | .ok (_, left) => left <:+ text
  | .error (.malformed _ _) => True
  | .error (.longInteger n) => LongRun text n
  | .error (.tooDeep _) => room < brackets text

/-- Reading may begin further on. -/
theorem Tells.mono {rest text : Text} (hrest : rest <:+ text) {r : Except Stop (α × Text)}
    (h : Tells room rest r) : Tells room text r := by
  match r, h with
  | .ok (_, left), h => exact List.IsSuffix.trans h hrest
  | .error (.malformed _ _), _ => exact trivial
  | .error (.longInteger n), h => exact LongRun.mono hrest h
  | .error (.tooDeep _), h => exact h.trans_le (brackets_mono hrest)

/-- Without room a bracket is too many. -/
theorem tells_tooDeep {c : CodePoint} (hc : isOpening c = true) (rest : Text) (k : Collection) :
    Tells 0 (c :: rest) (.error (.tooDeep k) : Except Stop (α × Text)) :=
  List.countP_pos_iff.mpr ⟨c, List.mem_cons_self, hc⟩

/-- A bracket takes one from the room. -/
theorem Tells.enter {c : CodePoint} (hc : isOpening c = true) {rest : Text} {r : Except Stop (α × Text)}
    (h : Tells room rest r) : Tells (room + 1) (c :: rest) r := by
  match r, h with
  | .error (.tooDeep _), h =>
    show room + 1 < brackets (c :: rest)
    rw [brackets, List.countP_cons_of_pos hc]
    exact Nat.succ_lt_succ h
  | .ok (_, left), h => exact List.IsSuffix.trans h (List.suffix_cons c rest)
  | .error (.malformed _ _), _ => exact trivial
  | .error (.longInteger n), h => exact LongRun.mono (List.suffix_cons c rest) h

/-- What is made of the result does not matter, as long as it leaves the text alone. -/
theorem Tells.map {text : Text} {r : Except Stop (α × Text)} {f : α × Text → β × Text}
    (hf : ∀ taken, (f taken).2 = taken.2) (h : Tells room text r) : Tells room text (r.map f) := by
  match r, h with
  | .ok taken, h =>
    show (f taken).2 <:+ text
    rw [hf]
    exact h
  | .error (.malformed _ _), _ => exact trivial
  | .error (.longInteger n), h => exact h
  | .error (.tooDeep _), h => exact h

/-- A refusal is the same whatever was to be read. -/
theorem Tells.of_error {text : Text} {stop : Stop} (h : Tells room text (.error stop : Except Stop (α × Text))) :
    Tells room text (.error stop : Except Stop (β × Text)) := by
  cases stop with
  | malformed fault left => exact trivial
  | longInteger n => exact h
  | tooDeep c => exact h

/-! ## Blanks and words -/

theorem skipBlanks_suffix (text : Text) : skipBlanks text <:+ text := List.dropWhile_suffix _

/-- What follows the first code point behind the blanks. -/
theorem suffix_of_skipBlanks {text rest : Text} {c : CodePoint} (h : skipBlanks text = c :: rest) :
    rest <:+ text := by
  have hcons : c :: rest <:+ text := h ▸ skipBlanks_suffix text
  exact (List.suffix_cons c rest).trans hcons

theorem suffix_of_word? {text left : Text} {v : Value} (h : word? text = some (v, left)) : left <:+ text := by
  obtain ⟨⟨w, u⟩, -, htaken⟩ := List.exists_of_findSome?_eq_some h
  obtain ⟨rest, hrest, heq⟩ := Option.map_eq_some_iff.mp htaken
  obtain rfl := (Prod.mk.inj heq).2
  unfold Text.after? at hrest
  split at hrest
  · obtain rfl := Option.some.inj hrest
    exact List.drop_suffix _ _
  · exact nomatch hrest

/-! ## Strings -/

/-- Nothing in a string is an integer. -/
theorem malformed_of_unicodeEscape {digits : Text} {stop : Stop} (h : unicodeEscape digits = .error stop) :
    ∃ fault left, stop = .malformed fault left := by
  unfold unicodeEscape at h
  simp only at h
  split at h
  · exact ⟨_, _, (Except.error.inj h).symm⟩
  · split at h
    · exact ⟨_, _, (Except.error.inj h).symm⟩
    · split at h
      · split at h
        · exact ⟨_, _, (Except.error.inj h).symm⟩
        · split at h <;> exact nomatch h
      · exact nomatch h

theorem malformed_of_stringElement {opening : Nat} {c : CodePoint} {rest : Text} {stop : Stop}
    (h : stringElement opening c rest = .error stop) : ∃ fault left, stop = .malformed fault left := by
  unfold stringElement at h
  split at h
  · split at h
    · exact ⟨_, _, (Except.error.inj h).symm⟩
    · rename_i e more
      split at h
      · cases hescape : unicodeEscape more with
        | ok taken => exact nomatch hescape ▸ h
        | error other =>
          rw [hescape] at h
          obtain rfl : other = stop := Except.error.inj h
          exact malformed_of_unicodeEscape hescape
      · split at h
        · exact ⟨_, _, (Except.error.inj h).symm⟩
        · exact nomatch h
  · split at h
    · exact ⟨_, _, (Except.error.inj h).symm⟩
    · exact nomatch h

theorem tells_stringBody (room opening skip : Nat) (text : Text) :
    Tells room text (stringBody opening skip text) := by
  -- on the text, for any number of code points that are still passed over
  induction text generalizing skip with
  | nil => cases skip <;> exact trivial
  | cons c rest ih =>
    have hrest : rest <:+ c :: rest := List.suffix_cons c rest
    cases skip with
    | succ skip => exact (ih skip).mono hrest
    | zero =>
      unfold stringBody
      split
      · exact hrest
      · cases helement : stringElement opening c rest with
        | error stop =>
          obtain ⟨fault, left, rfl⟩ := malformed_of_stringElement helement
          exact trivial
        | ok taken => exact ((ih taken.2).mono hrest).map fun _ => rfl

/-! ## Numbers -/

theorem takeDigits_suffix (text : Text) : (takeDigits text).2 <:+ text := List.dropWhile_suffix _

theorem takeWhole_suffix (text : Text) : (takeWhole text).2 <:+ text := by
  cases text with
  | nil => exact List.suffix_rfl
  | cons c rest =>
    simp only [takeWhole]
    split
    · exact List.suffix_cons c rest
    · exact takeDigits_suffix (c :: rest)

/-- The digits of a whole part follow each other in the text. -/
theorem longRun_of_takeWhole {text : Text} (h : integerDigitLimit < (takeWhole text).1.length) :
    LongRun text (takeWhole text).1.length := by
  cases text with
  | nil => exact absurd h (by decide)
  | cons c rest =>
    simp only [takeWhole] at h ⊢
    by_cases hzero : c = '0'
    · rw [if_pos hzero] at h
      exact absurd h (show ¬integerDigitLimit < 1 by decide)
    · -- without a zero in front, the whole part is all the digits there are
      rw [if_neg hzero] at h ⊢
      refine ⟨h, (c :: rest).takeWhile CodePoint.isAsciiDigit, (List.takeWhile_prefix _).isInfix, ?_, ?_⟩
      · exact (List.length_map _).symm
      · exact fun d hd => List.mem_takeWhile_imp hd

/-- What is left behind a fraction, if there is one. -/
theorem takeFraction_suffix (text : Text) : (takeFraction text).elim text (·.2) <:+ text := by
  cases text with
  | nil => exact List.suffix_rfl
  | cons c rest =>
    simp only [takeFraction]
    by_cases hpoint : c = '.'
    · rw [if_pos hpoint]
      have hdigits := takeDigits_suffix rest
      generalize takeDigits rest = taken at hdigits ⊢
      obtain ⟨digits, left⟩ := taken
      cases digits with
      | nil => exact List.suffix_rfl
      | cons d more => exact List.IsSuffix.trans hdigits (List.suffix_cons c rest)
    · rw [if_neg hpoint]
      exact List.suffix_rfl

theorem takeSign_suffix (text : Text) : (Text.takeSign text).2 <:+ text := by
  cases text with
  | nil => exact List.suffix_rfl
  | cons c rest =>
    simp only [Text.takeSign]
    split
    · exact List.suffix_cons c rest
    · split
      · exact List.suffix_cons c rest
      · exact List.suffix_rfl

/-- What is left behind an exponent, if there is one. -/
theorem takeExponent_suffix (text : Text) : (takeExponent text).elim text (·.2) <:+ text := by
  cases text with
  | nil => exact List.suffix_rfl
  | cons c rest =>
    simp only [takeExponent]
    by_cases hletter : c = 'e' ∨ c = 'E'
    · rw [if_pos hletter]
      have hsign := takeSign_suffix rest
      have hdigits := takeDigits_suffix (Text.takeSign rest).2
      generalize takeDigits (Text.takeSign rest).2 = taken at hdigits ⊢
      obtain ⟨digits, left⟩ := taken
      cases digits with
      | nil => exact List.suffix_rfl
      | cons d more => exact (List.IsSuffix.trans hdigits hsign).trans (List.suffix_cons c rest)
    · rw [if_neg hletter]
      exact List.suffix_rfl

theorem tells_number (room : Nat) (text : Text) : Tells room text (number text) := by
  unfold number
  split
  rename_i negative unsigned hsigned
  have hunsigned : unsigned <:+ text := by
    cases text with
    | nil =>
      obtain ⟨-, rfl⟩ := Prod.mk.inj hsigned
      exact List.suffix_rfl
    | cons c rest =>
      simp only at hsigned
      split at hsigned
      · obtain ⟨-, rfl⟩ := Prod.mk.inj hsigned
        exact List.suffix_cons c rest
      · obtain ⟨-, rfl⟩ := Prod.mk.inj hsigned
        exact List.suffix_rfl
  have hwhole := takeWhole_suffix unsigned
  have hlong := @longRun_of_takeWhole unsigned
  generalize takeWhole unsigned = taken at hwhole hlong ⊢
  obtain ⟨whole, rest⟩ := taken
  have hrest : rest <:+ text := List.IsSuffix.trans hwhole hunsigned
  cases whole with
  | nil => exact trivial
  | cons d more =>
    simp only
    split
    · split
      · rename_i hlimit
        exact (hlong hlimit).mono hunsigned
      · exact hrest
    · -- a double may have any number of digits
      have hfraction := takeFraction_suffix rest
      have hexponent := takeExponent_suffix ((takeFraction rest).elim rest (·.2))
      exact (hexponent.trans hfraction).trans hrest

/-! ## Values -/

/-- Values, lists and mappings, with the fuel that they share. -/
structure TellsValues (fuel : Nat) : Prop where
  value : ∀ room text, Tells room text (value fuel room text)
  elements : ∀ room text, Tells room text (elements fuel room text)
  members : ∀ room entries text, Tells room text (members fuel room entries text)

theorem tells_value_succ {fuel : Nat} (ih : TellsValues fuel) (room : Nat) (text : Text) :
    Tells room text (value (fuel + 1) room text) := by
  cases text with
  | nil =>
    unfold Json.value
    exact trivial
  | cons c rest =>
    have hrest : rest <:+ c :: rest := List.suffix_cons c rest
    -- a bracket or a brace is followed by its partner, or else by the items
    have hinside : ∀ {d : CodePoint} {more : Text}, skipBlanks rest = d :: more →
        d :: more <:+ rest ∧ more <:+ c :: rest := by
      intro d more hskip
      exact ⟨hskip ▸ skipBlanks_suffix rest, (suffix_of_skipBlanks hskip).trans hrest⟩
    unfold Json.value
    simp only
    split
    · exact ((tells_stringBody room _ 0 rest).mono hrest).map fun _ => rfl
    · split
      · rename_i hbrace
        have hopening : isOpening c = true := by rw [hbrace]; decide
        cases room with
        | zero => exact tells_tooDeep hopening rest .object
        | succ room =>
          cases hskip : skipBlanks rest with
          | nil => exact trivial
          | cons d more =>
            obtain ⟨hitems, hmore⟩ := hinside hskip
            simp only
            split
            · exact hmore
            · exact (((ih.members room [] (d :: more)).mono hitems).enter hopening).map fun _ => rfl
      · split
        · rename_i hbracket
          have hopening : isOpening c = true := by rw [hbracket]; decide
          cases room with
          | zero => exact tells_tooDeep hopening rest .list
          | succ room =>
            cases hskip : skipBlanks rest with
            | nil => exact trivial
            | cons d more =>
              obtain ⟨hitems, hmore⟩ := hinside hskip
              simp only
              split
              · exact hmore
              · exact (((ih.elements room (d :: more)).mono hitems).enter hopening).map fun _ => rfl
        · split
          · rename_i hword
            exact suffix_of_word? hword
          · exact tells_number room (c :: rest)

theorem tells_elements_succ {fuel : Nat} (ih : TellsValues fuel) (room : Nat) (text : Text) :
    Tells room text (elements (fuel + 1) room text) := by
  unfold Json.elements
  have hvalue := ih.value room text
  cases hv : value fuel room text with
  | error stop => exact (hv ▸ hvalue).of_error
  | ok taken =>
    obtain ⟨v, rest⟩ := taken
    have hrest : rest <:+ text := by
      rw [hv] at hvalue
      exact hvalue
    simp only
    cases hskip : skipBlanks rest with
    | nil => exact trivial
    | cons c more =>
      have hmore : more <:+ text := (suffix_of_skipBlanks hskip).trans hrest
      simp only
      split
      · exact hmore
      · split
        · exact ((ih.elements room (skipBlanks more)).mono ((skipBlanks_suffix more).trans hmore)).map fun _ => rfl
        · exact trivial

theorem tells_members_succ {fuel : Nat} (ih : TellsValues fuel) (room : Nat) (entries : Entries) (text : Text) :
    Tells room text (members (fuel + 1) room entries text) := by
  cases text with
  | nil =>
    unfold Json.members
    exact trivial
  | cons q rest =>
    unfold Json.members
    simp only
    split
    · -- a name, its colon, its value, and what parts it from the next one
      have hname := (tells_stringBody room (q :: rest).length 0 rest).mono (List.suffix_cons q rest)
      cases hn : stringBody (q :: rest).length 0 rest with
      | error stop => exact (hn ▸ hname).of_error
      | ok taken =>
        obtain ⟨key, afterName⟩ := taken
        have hafterName : afterName <:+ q :: rest := by
          rw [hn] at hname
          exact hname
        simp only
        cases hcolon : skipBlanks afterName with
        | nil => exact trivial
        | cons c afterColon =>
          have hafterColon : afterColon <:+ q :: rest := (suffix_of_skipBlanks hcolon).trans hafterName
          simp only
          split
          · have hvalue := (ih.value room (skipBlanks afterColon)).mono
              ((skipBlanks_suffix afterColon).trans hafterColon)
            cases hv : value fuel room (skipBlanks afterColon) with
            | error stop => exact (hv ▸ hvalue).of_error
            | ok taken =>
              obtain ⟨v, afterValue⟩ := taken
              have hafterValue : afterValue <:+ q :: rest := by
                rw [hv] at hvalue
                exact hvalue
              simp only
              cases hcomma : skipBlanks afterValue with
              | nil => exact trivial
              | cons d more =>
                have hmore : more <:+ q :: rest := (suffix_of_skipBlanks hcomma).trans hafterValue
                simp only
                split
                · exact hmore
                · split
                  · exact (ih.members room _ (skipBlanks more)).mono ((skipBlanks_suffix more).trans hmore)
                  · exact trivial
          · exact trivial
    · exact trivial

theorem tells_values (fuel : Nat) : TellsValues fuel := by
  induction fuel with
  | zero =>
    constructor
    · intro room text
      unfold Json.value
      exact trivial
    · intro room text
      unfold Json.elements
      exact trivial
    · intro room entries text
      unfold Json.members
      exact trivial
  | succ fuel ih => exact ⟨tells_value_succ ih, tells_elements_succ ih, tells_members_succ ih⟩

/-! ## Whole texts -/

theorem tells_document {text : Text} {stop : Stop} (h : document room text = .error stop) :
    Tells room text (.error stop : Except Stop (Value × Text)) := by
  unfold document at h
  have hvalue := (tells_values (2 * text.length + 2)).value room (skipBlanks text)
  split at h
  · rename_i other hother
    obtain rfl := Except.error.inj h
    rw [hother] at hvalue
    exact hvalue.mono (skipBlanks_suffix text)
  · split at h
    · exact nomatch h
    · obtain rfl := Except.error.inj h
      exact trivial

/-- A text is refused as its document is. -/
theorem exists_stop_of_readWithin {text : Text} {e : Error} (h : readWithin room text = .error e) :
    (∃ fault line column index, e = .malformed fault line column index) ∨
      ∃ stop, document room text = .error stop ∧ e = .ofStop text stop := by
  unfold readWithin at h
  split at h
  · exact Or.inl ⟨_, _, _, _, (Except.error.inj h).symm⟩
  · cases hdocument : document room text with
    | ok v => exact nomatch hdocument ▸ h
    | error stop =>
      rw [hdocument] at h
      exact Or.inr ⟨stop, rfl, (Except.error.inj h).symm⟩

/-- A text is refused for an integer only if there are so many digits in it. -/
theorem longRun_of_readWithin {text : Text} {n : Nat} (h : readWithin room text = .error (.longInteger n)) :
    LongRun text n := by
  rcases exists_stop_of_readWithin h with ⟨_, _, _, _, he⟩ | ⟨stop, hstop, he⟩
  · exact nomatch he
  · cases stop with
    | malformed fault left => exact nomatch he
    | tooDeep c => exact nomatch he
    | longInteger m =>
      obtain rfl := Error.longInteger.inj he
      exact tells_document hstop

/-- A text is refused for its depth only if it has more brackets than there is room for. -/
theorem lt_brackets_of_readWithin {text : Text} {c : Collection} (h : readWithin room text = .error (.tooDeep c)) :
    room < brackets text := by
  rcases exists_stop_of_readWithin h with ⟨_, _, _, _, he⟩ | ⟨stop, hstop, he⟩
  · exact nomatch he
  · cases stop with
    | malformed fault left => exact nomatch he
    | longInteger n => exact nomatch he
    | tooDeep d => exact tells_document hstop

/-! ## A text that is refused for its integer -/

/-- An integer with one digit more than `n`, and a closing bracket. -/
def ones (n : Nat) : Text :=
  CodePoint.ofChar '1' :: (List.replicate n (CodePoint.ofChar '1') ++ [CodePoint.ofChar ']'])

/-- A list with such an integer as its only item. -/
def bracketed (n : Nat) : Text := CodePoint.ofChar '[' :: ones n

theorem takeDigits_ones (n : Nat) :
    takeDigits (ones n) = (List.replicate (n + 1) 1, [CodePoint.ofChar ']']) := by
  have hone : ∀ c ∈ List.replicate (n + 1) (CodePoint.ofChar '1'), c.isAsciiDigit = true := by
    intro c hc
    obtain rfl := List.eq_of_mem_replicate hc
    decide
  have hbracket : ¬CodePoint.isAsciiDigit ']' = true := by decide
  have hsplit : ones n = List.replicate (n + 1) (CodePoint.ofChar '1') ++ [CodePoint.ofChar ']'] := by
    rw [ones, List.replicate_succ, List.cons_append]
  rw [hsplit, takeDigits, List.takeWhile_append_of_pos hone, List.dropWhile_append_of_pos hone,
    List.takeWhile_cons_of_neg hbracket, List.dropWhile_cons_of_neg hbracket, List.append_nil, List.map_replicate]
  rfl

theorem number_ones {n : Nat} (h : integerDigitLimit ≤ n) : number (ones n) = .error (.longInteger (n + 1)) := by
  have hwhole : takeWhole (ones n) = (1 :: List.replicate n 1, [CodePoint.ofChar ']']) := takeDigits_ones n
  have hlength : (1 :: List.replicate n 1).length = n + 1 := by
    rw [List.length_cons, List.length_replicate]
  unfold number
  split
  rename_i negative unsigned hsigned
  obtain rfl : ones n = unsigned := (Prod.mk.inj hsigned).2
  -- the bracket begins neither a fraction nor an exponent
  have hfraction : takeFraction [CodePoint.ofChar ']'] = none := rfl
  have hexponent : takeExponent [CodePoint.ofChar ']'] = none := rfl
  rw [hwhole]
  simp only [hfraction, hexponent, Option.elim, hlength]
  exact if_pos (Nat.lt_succ_of_le h)

theorem value_ones {n : Nat} (h : integerDigitLimit ≤ n) (fuel room : Nat) :
    value (fuel + 1) room (ones n) = .error (.longInteger (n + 1)) := by
  have hword : word? (ones n) = none := rfl
  rw [← number_ones h]
  rfl

theorem value_bracketed {n : Nat} (h : integerDigitLimit ≤ n) (fuel room : Nat) :
    value (fuel + 3) (room + 1) (bracketed n) = .error (.longInteger (n + 1)) := by
  have helements : elements (fuel + 2) room (ones n) = .error (.longInteger (n + 1)) := by
    unfold elements
    rw [value_ones h]
  show (elements (fuel + 2) room (ones n)).map _ = _
  rw [helements]
  rfl

/-- Only the number of digits is wrong with such a text. -/
theorem readWithin_bracketed {n : Nat} (h : integerDigitLimit ≤ n) (hroom : 1 ≤ room) :
    readWithin room (bracketed n) = .error (.longInteger (n + 1)) := by
  obtain ⟨room, rfl⟩ : ∃ less, room = less + 1 := ⟨room - 1, by omega⟩
  have hdocument : document (room + 1) (bracketed n) = .error (.longInteger (n + 1)) := by
    unfold document
    have hfuel : 2 * (bracketed n).length + 2 = (2 * (ones n).length + 1) + 3 := by
      rw [bracketed, List.length_cons]
      omega
    rw [hfuel]
    have hskip : skipBlanks (bracketed n) = bracketed n := rfl
    rw [hskip, value_bracketed h]
  unfold readWithin
  rw [hdocument]
  rfl

end NetAttach.Json
