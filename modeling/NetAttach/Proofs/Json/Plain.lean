/-
  Reading plain JSON.

  Text in ASCII without marks, backslashes and control characters stands in a JSON string as it is.  What is
  read from strings of such texts and from objects made of them is said here, one lemma for each step of the
  reader, so that it can be followed through a document in which some of the texts are not known, or of which only
  is known how deep it is nested (`spells_nested`).
-/
import Mathlib.Data.List.Basic
import NetAttach.Json.Reader

namespace NetAttach

/-! ## ASCII -/

/-- All code points are in ASCII. -/
def Text.IsAscii (t : Text) : Prop := ∀ c ∈ t, c.number < 0x80

theorem Text.isAscii_cons {c : CodePoint} {t : Text} : IsAscii (c :: t) ↔ c.number < 0x80 ∧ IsAscii t :=
  List.forall_mem_cons

theorem Text.isAscii_append {s t : Text} : IsAscii (s ++ t) ↔ IsAscii s ∧ IsAscii t := List.forall_mem_append

namespace Encoding

theorem utf8Step_ascii {c : CodePoint} (h : c.number < 0x80) (rest : Bytes) :
    utf8Step c.number.toUInt8 rest = .point c 1 := by
  have hnumber : c.number.toUInt8.toNat = c.number := by
    rw [Nat.toUInt8, UInt8.toNat_ofNat']
    exact Nat.mod_eq_of_lt (by omega)
  have hbyte : c.number.toUInt8 < 0x80 := by
    rw [UInt8.lt_iff_toNat_lt, hnumber]
    exact h
  unfold utf8Step
  rw [if_pos hbyte, hnumber, Step.ofNat, CodePoint.ofNat?, dif_pos c.number_lt]

/-- ASCII is decoded from UTF-8 as it was written. -/
theorem decodeFrom_ascii {t : Text} (h : t.IsAscii) (start : Nat) : decodeFrom utf8 start 0 t.toUtf8 = .ok t := by
  induction t generalizing start with
  | nil => rfl
  | cons c rest ih =>
    obtain ⟨hc, hrest⟩ := Text.isAscii_cons.mp h
    have hbytes : Text.toUtf8 (c :: rest) = c.number.toUInt8 :: Text.toUtf8 rest := by
      rw [Text.toUtf8, List.flatMap_cons, utf8Bytes, if_pos hc]
      rfl
    rw [hbytes, decodeFrom, step, utf8Step_ascii hc]
    simp only [Nat.sub_self, ih hrest (start + 1)]
    rfl

end Encoding

namespace Json

/-! ## Strings -/

/-- A code point that stands for itself in a string. -/
def isPlain (c : CodePoint) : Bool := 0x20 ≤ c.number && c.number < 0x80 && c ≠ '"' && c ≠ '\\'

/-- A text that stands for itself in a string. -/
def Plain (t : Text) : Prop := ∀ c ∈ t, isPlain c = true

instance (t : Text) : Decidable (Plain t) := inferInstanceAs (Decidable (∀ c ∈ t, isPlain c = true))

/-- The text between its marks, and what follows. -/
def marked (t rest : Text) : Text := CodePoint.ofChar '"' :: (t ++ CodePoint.ofChar '"' :: rest)

theorem stringElement_plain {c : CodePoint} (h : isPlain c = true) (opening : Nat) (rest : Text) :
    c ≠ '"' ∧ stringElement opening c rest = .ok (c, 0) := by
  simp only [isPlain, Bool.and_eq_true, decide_eq_true_eq] at h
  obtain ⟨⟨⟨hlow, -⟩, hmark⟩, hbackslash⟩ := h
  refine ⟨hmark, ?_⟩
  unfold stringElement
  rw [if_neg hbackslash, if_neg (by omega)]

theorem stringBody_plain {t : Text} (h : Plain t) (opening : Nat) (rest : Text) :
    stringBody opening 0 (t ++ CodePoint.ofChar '"' :: rest) = .ok (t, rest) := by
  induction t with
  | nil => rfl
  | cons c t ih =>
    obtain ⟨hc, ht⟩ := List.forall_mem_cons.mp h
    obtain ⟨hmark, helement⟩ := stringElement_plain hc opening (t ++ CodePoint.ofChar '"' :: rest)
    rw [List.cons_append, stringBody, if_neg hmark, helement]
    simp only [ih ht]
    rfl

theorem value_marked {t : Text} (h : Plain t) (fuel room : Nat) (rest : Text) :
    value (fuel + 1) room (marked t rest) = .ok (.text t, rest) := by
  unfold marked value
  simp only [if_true, stringBody_plain h]
  rfl

/-! ## Objects and lists -/

/-- An object with something in it. -/
theorem value_object {text more : Text} {d : CodePoint} (h : skipBlanks text = d :: more) (hd : d ≠ '}')
    (fuel room : Nat) :
    value (fuel + 1) (room + 1) (CodePoint.ofChar '{' :: text) =
      (members fuel room [] (d :: more)).map fun (entries, left) => (.mapping entries, left) := by
  conv_lhs => unfold value
  simp only [h, if_neg hd]
  rfl

theorem value_object_nil {text more : Text} (h : skipBlanks text = CodePoint.ofChar '}' :: more)
    (fuel room : Nat) : value (fuel + 1) (room + 1) (CodePoint.ofChar '{' :: text) = .ok (.mapping [], more) := by
  unfold value
  simp only [h]
  rfl

/-- A list with something in it. -/
theorem value_list {text more : Text} {d : CodePoint} (h : skipBlanks text = d :: more) (hd : d ≠ ']')
    (fuel room : Nat) :
    value (fuel + 1) (room + 1) (CodePoint.ofChar '[' :: text) =
      (elements fuel room (d :: more)).map fun (items, left) => (.list items, left) := by
  conv_lhs => unfold value
  simp only [h, if_neg hd]
  rfl

theorem value_list_nil {text more : Text} (h : skipBlanks text = CodePoint.ofChar ']' :: more)
    (fuel room : Nat) : value (fuel + 1) (room + 1) (CodePoint.ofChar '[' :: text) = .ok (.list [], more) := by
  unfold value
  simp only [h]
  rfl

/-! ## Documents -/

/-- What `written` writes in front of any text is plain, and is read as `v` in so many steps, with so many collections
around each other. -/
structure Spells (steps depth : Nat) (written : Text → Text) (v : Value) : Prop where
  value : ∀ fuel room rest, value (fuel + steps) (room + depth) (written rest) = .ok (v, rest)
  begins : ∀ rest, skipBlanks (written rest) = written rest
  ascii : ∀ {rest}, rest.IsAscii → (written rest).IsAscii
  steps_le : ∀ rest, steps + rest.length ≤ (written rest).length

theorem Plain.isAscii {t : Text} (h : Plain t) : t.IsAscii := by
  intro c hc
  have hplain := h c hc
  simp only [isPlain, Bool.and_eq_true, decide_eq_true_eq] at hplain
  exact hplain.1.1.2

theorem isAscii_marked {t rest : Text} (ht : t.IsAscii) (hrest : rest.IsAscii) : (marked t rest).IsAscii :=
  Text.isAscii_cons.mpr ⟨by decide, Text.isAscii_append.mpr ⟨ht, Text.isAscii_cons.mpr ⟨by decide, hrest⟩⟩⟩

theorem length_marked (t rest : Text) : (marked t rest).length = t.length + rest.length + 2 := by
  rw [marked, List.length_cons, List.length_append, List.length_cons]
  omega

theorem spells_marked {t : Text} (h : Plain t) : Spells 1 0 (marked t) (.text t) where
  value fuel room rest := value_marked h fuel room rest
  begins _ := rfl
  ascii hrest := isAscii_marked h.isAscii hrest
  steps_le rest := by
    rw [length_marked]
    omega

/-- A name and what is written for its value. -/
def entry (key : Text) (written : Text → Text) (rest : Text) : Text :=
  marked key (CodePoint.ofChar ':' :: written rest)

section Entry

variable {steps depth : Nat} {key : Text} {written : Text → Text} {v : Value}

/-- Where an entry has been read, what follows the value decides how it goes on. -/
theorem Spells.members_entry (h : Spells steps depth written v) (hkey : Plain key) {d : CodePoint}
    (hd : ¬isBlank d = true) (fuel room : Nat) (entries : Entries) (rest : Text) :
    members (fuel + steps + 1) (room + depth) entries (entry key written (d :: rest)) =
      if d = '}' then .ok (entries.put (.text key) v, rest)
      else if d = ',' then members (fuel + steps) (room + depth) (entries.put (.text key) v) (skipBlanks rest)
      else refuse .comma (d :: rest) := by
  have hcolon : skipBlanks (CodePoint.ofChar ':' :: written (d :: rest)) =
      CodePoint.ofChar ':' :: written (d :: rest) := rfl
  have hbehind : skipBlanks (d :: rest) = d :: rest := List.dropWhile_cons_of_neg hd
  conv_lhs => unfold entry marked members
  simp only [if_true, stringBody_plain hkey, hcolon, h.begins, h.value, hbehind]

theorem Spells.isAscii_entry (h : Spells steps depth written v) (hkey : Plain key) {rest : Text}
    (hrest : rest.IsAscii) : (entry key written rest).IsAscii :=
  isAscii_marked hkey.isAscii (Text.isAscii_cons.mpr ⟨by decide, h.ascii hrest⟩)

theorem Spells.steps_le_entry (h : Spells steps depth written v) (key rest : Text) :
    steps + rest.length + 3 ≤ (entry key written rest).length := by
  have hsteps := h.steps_le rest
  rw [entry, length_marked, List.length_cons]
  omega

/-- An object with one entry. -/
def object (key : Text) (written : Text → Text) (rest : Text) : Text :=
  CodePoint.ofChar '{' :: entry key written (CodePoint.ofChar '}' :: rest)

/-- An object with two entries. -/
def object₂ (first : Text) (before : Text → Text) (key : Text) (written : Text → Text) (rest : Text) : Text :=
  CodePoint.ofChar '{' ::
    entry first before (CodePoint.ofChar ',' :: entry key written (CodePoint.ofChar '}' :: rest))

theorem Spells.object (h : Spells steps depth written v) (hkey : Plain key) :
    Spells (steps + 2) (depth + 1) (object key written) (.mapping [(.text key, v)]) where
  value fuel room rest := by
    have hmembers := h.members_entry hkey (d := '}') (by decide) fuel room [] rest
    have hbehind : skipBlanks (entry key written (CodePoint.ofChar '}' :: rest)) =
        entry key written (CodePoint.ofChar '}' :: rest) := rfl
    refine (value_object hbehind (by decide) (fuel + steps + 1) (room + depth)).trans ?_
    show (members (fuel + steps + 1) (room + depth) [] (entry key written (CodePoint.ofChar '}' :: rest))).map _ = _
    rw [hmembers]
    rfl
  begins _ := rfl
  ascii hrest := Text.isAscii_cons.mpr
    ⟨by decide, h.isAscii_entry hkey (Text.isAscii_cons.mpr ⟨by decide, hrest⟩)⟩
  steps_le rest := by
    have hsteps := h.steps_le_entry key (CodePoint.ofChar '}' :: rest)
    rw [Json.object, List.length_cons]
    rw [List.length_cons] at hsteps
    omega

/-- Both values are read with the fuel that the longer one needs; the first is a text. -/
theorem Spells.object₂ {first t : Text} (h : Spells steps depth written v) (hfirst : Plain first) (ht : Plain t)
    (hkey : Plain key) (hne : first ≠ key) :
    Spells (steps + 3) (depth + 1) (object₂ first (marked t) key written)
      (.mapping [(.text first, .text t), (.text key, v)]) where
  value fuel room rest := by
    -- the second name is another one, so its entry goes behind the first
    have hput : Entries.put [(.text first, .text t)] (.text key) v =
        [(.text first, .text t), (.text key, v)] := by
      have hsame : Scalar.same (.text first) (.text key) = false := decide_eq_false hne
      simp only [Entries.put, hsame]
      rfl
    have hfirstEntry := (spells_marked ht).members_entry hfirst (d := ',') (by decide) (fuel + steps)
      (room + depth) [] (entry key written (CodePoint.ofChar '}' :: rest))
    have hlastEntry := h.members_entry hkey (d := '}') (by decide) fuel room [(.text first, .text t)] rest
    have hbehind : skipBlanks (entry first (marked t) (CodePoint.ofChar ',' ::
        entry key written (CodePoint.ofChar '}' :: rest))) = entry first (marked t) _ := rfl
    refine (value_object hbehind (by decide) (fuel + steps + 2) (room + depth)).trans ?_
    show (members (fuel + steps + 1 + 1) (room + depth + 0) [] (entry first (marked t) _)).map _ = _
    rw [hfirstEntry, if_neg (by decide), if_pos rfl]
    show (members (fuel + steps + 1) (room + depth) [(.text first, .text t)]
      (entry key written (CodePoint.ofChar '}' :: rest))).map _ = _
    rw [hlastEntry, if_pos rfl, hput]
    rfl
  begins _ := rfl
  ascii hrest := by
    have hbrace : (CodePoint.ofChar '}').number < 0x80 := by decide
    have hcommaPoint : (CodePoint.ofChar ',').number < 0x80 := by decide
    have hlast := h.isAscii_entry hkey (Text.isAscii_cons.mpr ⟨hbrace, hrest⟩)
    have hcomma := Text.isAscii_cons.mpr ⟨hcommaPoint, hlast⟩
    exact Text.isAscii_cons.mpr ⟨by decide, (spells_marked ht).isAscii_entry hfirst hcomma⟩
  steps_le rest := by
    have hlast := h.steps_le_entry key (CodePoint.ofChar '}' :: rest)
    have hsteps := (spells_marked ht).steps_le_entry first
      (CodePoint.ofChar ',' :: entry key written (CodePoint.ofChar '}' :: rest))
    rw [Json.object₂, List.length_cons]
    rw [List.length_cons] at hlast hsteps
    omega

end Entry

/-! ## Lists in lists -/

/-- Lists in each other, around an empty one. -/
def nested : Nat → Value
  | 0 => .list []
  | n + 1 => .list [nested n]

/-- The text of such lists. -/
def nestedText : Nat → Text → Text
  | 0, rest => CodePoint.ofChar '[' :: CodePoint.ofChar ']' :: rest
  | n + 1, rest => CodePoint.ofChar '[' :: nestedText n (CodePoint.ofChar ']' :: rest)

theorem nestedText_begins (n : Nat) (rest : Text) : ∃ more, nestedText n rest = CodePoint.ofChar '[' :: more := by
  cases n <;> exact ⟨_, rfl⟩

theorem spells_nested (n : Nat) : Spells (2 * n + 1) (n + 1) (nestedText n) (nested n) := by
  have hopening : (CodePoint.ofChar '[').number < 0x80 := by decide
  have hclosing : (CodePoint.ofChar ']').number < 0x80 := by decide
  induction n with
  | zero =>
    exact {
      value := fun fuel room rest => value_list_nil rfl fuel room
      begins := fun _ => rfl
      ascii := fun hrest => Text.isAscii_cons.mpr ⟨hopening, Text.isAscii_cons.mpr ⟨hclosing, hrest⟩⟩
      steps_le := fun rest => by simp only [nestedText, List.length_cons]; omega }
  | succ n ih =>
    refine ⟨fun fuel room rest => ?_, fun _ => rfl, fun hrest => ?_, fun rest => ?_⟩
    · obtain ⟨more, hmore⟩ := nestedText_begins n (CodePoint.ofChar ']' :: rest)
      have hbehind : skipBlanks (nestedText n (CodePoint.ofChar ']' :: rest)) = CodePoint.ofChar '[' :: more := by
        rw [ih.begins, hmore]
      have hinner : value (fuel + (2 * n + 1)) (room + (n + 1)) (CodePoint.ofChar '[' :: more) =
          .ok (nested n, CodePoint.ofChar ']' :: rest) := by
        rw [← hmore]
        exact ih.value fuel room _
      refine (value_list hbehind (by decide) (fuel + 2 * n + 2) (room + n + 1)).trans ?_
      have helements : elements (fuel + 2 * n + 2) (room + n + 1) (CodePoint.ofChar '[' :: more) =
          .ok ([nested n], rest) := by
        unfold elements
        rw [show fuel + 2 * n + 1 = fuel + (2 * n + 1) from rfl, show room + n + 1 = room + (n + 1) from rfl, hinner]
        rfl
      rw [helements]
      rfl
    · exact Text.isAscii_cons.mpr ⟨hopening, ih.ascii (Text.isAscii_cons.mpr ⟨hclosing, hrest⟩)⟩
    · have hsteps := ih.steps_le (CodePoint.ofChar ']' :: rest)
      rw [nestedText, List.length_cons]
      rw [List.length_cons] at hsteps
      omega

/-! ## Whole texts -/

section Whole

variable {steps depth room : Nat} {written : Text → Text} {v : Value}

theorem Spells.document (h : Spells steps depth written v) (hroom : depth ≤ room) :
    document room (written []) = .ok v := by
  have hsteps := h.steps_le []
  obtain ⟨fuel, hfuel⟩ : ∃ fuel, 2 * (written []).length + 2 = fuel + steps :=
    ⟨2 * (written []).length + 2 - steps, by omega⟩
  obtain ⟨more, rfl⟩ : ∃ more, room = more + depth := ⟨room - depth, by omega⟩
  unfold Json.document
  rw [hfuel, h.begins, h.value]
  rfl

/-- A text is read as what it spells. -/
theorem Spells.readWithin (h : Spells steps depth written v) (hroom : depth ≤ room) :
    readWithin room (written []) = .ok v := by
  have hascii : (written []).IsAscii := h.ascii fun _ hc => nomatch hc
  have hmark : (written []).head? ≠ some (CodePoint.ofChar '\uFEFF') := fun hhead =>
    absurd (hascii _ (List.mem_of_head? hhead)) (by decide)
  unfold Json.readWithin
  rw [if_neg hmark, h.document hroom]
  rfl

/-- A document is read as what it spells. -/
theorem Spells.readBytes (h : Spells steps depth written v)
    (hutf8 : Encoding.detect (written []).toUtf8 = (.utf8, 0)) (hroom : depth ≤ room) :
    readBytes room (written []).toUtf8 = .ok v := by
  have hascii : (written []).IsAscii := h.ascii fun _ hc => nomatch hc
  have hdecode : Encoding.decode (written []).toUtf8 = .ok (written []) := by
    unfold Encoding.decode
    rw [hutf8]
    exact Encoding.decodeFrom_ascii hascii 0
  unfold Json.readBytes
  rw [hdecode]
  simp only [h.document hroom]
  rfl

end Whole

end Json

end NetAttach
