/-
  Reading lists of records.

  A record is a list of names, each with a text or with null.  `SpellsDocument` is the grammar of the JSON texts that
  hold a list of records: white space wherever JSON allows for it, and any code point of a string as itself or by an
  escape.

  Every such text is read, as the records that it spells (`SpellsDocument.read`).

  Structure:
  1. the grammar, from the white space up; objects and lists are one thing with different brackets (`Bracketed`);
  2. one lemma for each function of the reader: `SpellsText.stringBody`, `SpellsField.value`, `SpellsItems.members` for
     the entries of an object and `SpellsItems.elements` for the items of a list, both by induction on the items.  The
     reader has fuel enough if it has as much as there is text;
  3. whole documents.
-/
import NetAttach.Proofs.Json.Plain

namespace NetAttach

namespace Json

variable {α : Type}

/-! ## The grammar -/

/-- White space, or nothing. -/
def Blanks (w : Text) : Prop := ∀ c ∈ w, isBlank c = true

instance (w : Text) : Decidable (Blanks w) := inferInstanceAs (Decidable (∀ c ∈ w, isBlank c = true))

/-- A code point in a string: as itself, by an escape of one letter, or by its number.  High surrogates are left out, as
one that is spelled by its number can be taken together with what follows it. -/
inductive SpellsPoint (c : CodePoint) : Text → Prop
  | plain (hlow : 0x20 ≤ c.number) (hmark : c ≠ '"') (hbackslash : c ≠ '\\') : SpellsPoint c [c]
  | short {letter : CodePoint} (hletter : shortEscape? letter = some c) : SpellsPoint c ['\\', letter]
  | digits {digits : Text} (hlength : digits.length = 4) (hunit : unit? digits = some c.number)
      (hhigh : ¬(0xD800 ≤ c.number ∧ c.number < 0xDC00)) :
      SpellsPoint c (CodePoint.ofChar '\\' :: CodePoint.ofChar 'u' :: digits)

/-- A text, without the marks around it. -/
inductive SpellsText : Text → Text → Prop
  | nil : SpellsText [] []
  | cons {c : CodePoint} {t s u : Text} (hpoint : SpellsPoint c s) (htext : SpellsText t u) :
      SpellsText (c :: t) (s ++ u)

/-- What stands in a field: null or a text. -/
inductive SpellsField : Value → Text → Prop
  | null : SpellsField .null "null"
  | text {t s : Text} (htext : SpellsText t s) : SpellsField (.text t) (marked s [])

/-- A name with what stands in its field. -/
inductive SpellsEntry : Text × Value → Text → Prop
  | intro {key k w w' x : Text} {v : Value} (hkey : SpellsText key k) (hbefore : Blanks w) (hbehind : Blanks w')
      (hfield : SpellsField v x) : SpellsEntry (key, v) (marked k (w ++ CodePoint.ofChar ':' :: (w' ++ x)))

/-- One or more items with commas between them, and what closes them. -/
inductive SpellsItems (spells : α → Text → Prop) (close : CodePoint) : List α → Text → Prop
  | last {a : α} {s w : Text} (hitem : spells a s) (hbefore : Blanks w) :
      SpellsItems spells close [a] (s ++ (w ++ [close]))
  | more {a : α} {rest : List α} {s w w' u : Text} (hitem : spells a s) (hbefore : Blanks w) (hbehind : Blanks w')
      (hrest : SpellsItems spells close rest u) :
      SpellsItems spells close (a :: rest) (s ++ (w ++ CodePoint.ofChar ',' :: (w' ++ u)))

/-- Any number of items between brackets. -/
inductive Bracketed (spells : α → Text → Prop) (opening close : CodePoint) : List α → Text → Prop
  | empty {w : Text} (hw : Blanks w) : Bracketed spells opening close [] (opening :: (w ++ [close]))
  | items {items : List α} {w u : Text} (hw : Blanks w) (hitems : SpellsItems spells close items u) :
      Bracketed spells opening close items (opening :: (w ++ u))

/-- Names with texts or null. -/
abbrev Record := List (Text × Value)

/-- A record, as an object. -/
def SpellsRecord : Record → Text → Prop := Bracketed SpellsEntry '{' '}'

/-- Records, as a list of objects. -/
def SpellsRecords : List Record → Text → Prop := Bracketed SpellsRecord '[' ']'

/-- A text that holds a list of records, and nothing else. -/
inductive SpellsDocument (records : List Record) : Text → Prop
  | intro {w s w' : Text} (hbefore : Blanks w) (hrecords : SpellsRecords records s) (hbehind : Blanks w') :
      SpellsDocument records (w ++ (s ++ w'))

/-! ## White space and what follows it -/

theorem blanks_nil : Blanks [] := List.forall_mem_nil _

theorem Blanks.skip {w : Text} (h : Blanks w) (rest : Text) : skipBlanks (w ++ rest) = skipBlanks rest :=
  List.dropWhile_append_of_pos h

theorem Blanks.skip_cons {w : Text} (h : Blanks w) {d : CodePoint} (hd : ¬isBlank d = true) (rest : Text) :
    skipBlanks (w ++ d :: rest) = d :: rest := by
  rw [h.skip]
  exact List.dropWhile_cons_of_neg hd

theorem SpellsField.skip {v : Value} {x : Text} (h : SpellsField v x) (rest : Text) :
    skipBlanks (x ++ rest) = x ++ rest := by
  cases h with
  | null => rfl
  | text htext => rfl

/-! Entries, objects and lists can be told by their first code point. -/

theorem SpellsEntry.begins {e : Text × Value} {s : Text} (h : SpellsEntry e s) :
    ∃ more, s = CodePoint.ofChar '"' :: more := by
  cases h
  exact ⟨_, rfl⟩

section Brackets

variable {spells : α → Text → Prop} {opening close c : CodePoint} {items : List α} {s u : Text}

theorem Bracketed.begins (h : Bracketed spells opening close items s) : ∃ more, s = opening :: more := by
  cases h with
  | empty hw => exact ⟨_, rfl⟩
  | items hw hitems => exact ⟨_, rfl⟩

theorem Bracketed.length_pos (h : Bracketed spells opening close items s) : 0 < s.length := by
  obtain ⟨more, rfl⟩ := h.begins
  exact Nat.succ_pos _

theorem SpellsItems.begins (h : SpellsItems spells close items u)
    (hspells : ∀ {a s}, spells a s → ∃ more, s = c :: more) : ∃ more, u = c :: more := by
  cases h with
  | last hitem hbefore =>
    obtain ⟨more, rfl⟩ := hspells hitem
    exact ⟨_, rfl⟩
  | more hitem hbefore hbehind hrest =>
    obtain ⟨more, rfl⟩ := hspells hitem
    exact ⟨_, rfl⟩

/-- White space in front of the items is skipped, and nothing else. -/
theorem SpellsItems.skip (h : SpellsItems spells close items u) (hspells : ∀ {a s}, spells a s → ∃ more, s = c :: more)
    (hc : ¬isBlank c = true) {w : Text} (hw : Blanks w) (rest : Text) : skipBlanks (w ++ u ++ rest) = u ++ rest := by
  obtain ⟨more, rfl⟩ := h.begins hspells
  rw [List.append_assoc, List.cons_append, hw.skip_cons hc]

/-- Behind the opening bracket stands, after white space, the closing one, or else the first of the items. -/
theorem Bracketed.inside (h : Bracketed spells opening close items s)
    (hspells : ∀ {a s}, spells a s → ∃ more, s = c :: more) (hc : ¬isBlank c = true) (hclose : ¬isBlank close = true)
    (rest : Text) :
    ∃ text, s ++ rest = opening :: text ∧
      ((items = [] ∧ skipBlanks text = close :: rest) ∨
        ∃ u more, SpellsItems spells close items u ∧ u.length < s.length ∧ u ++ rest = c :: more ∧
          skipBlanks text = c :: more) := by
  cases h with
  | @empty w hw =>
    refine ⟨w ++ [close] ++ rest, rfl, Or.inl ⟨rfl, ?_⟩⟩
    rw [List.append_assoc]
    exact hw.skip_cons hclose rest
  | @items _ w u hw hitems =>
    have hskip := hitems.skip hspells hc hw rest
    obtain ⟨more, rfl⟩ := hitems.begins hspells
    refine ⟨w ++ c :: more ++ rest, rfl, Or.inr ⟨c :: more, more ++ rest, hitems, ?_, rfl, hskip⟩⟩
    simp only [List.length_cons, List.length_append]
    omega

end Brackets

/-! ## Strings -/

theorem marked_append (s t rest : Text) : marked s t ++ rest = marked s (t ++ rest) := by simp [marked]

theorem unicodeEscape_of_unit {c : CodePoint} {digits : Text} (hlength : digits.length = 4)
    (hunit : unit? digits = some c.number) (hhigh : ¬(0xD800 ≤ c.number ∧ c.number < 0xDC00)) {rest : Text}
    (hrest : rest ≠ []) : unicodeEscape (digits ++ rest) = .ok (c, 4) := by
  have hunit' : unit? (digits ++ rest) = some c.number := by
    rw [← hunit]
    unfold unit?
    rw [List.take_append_of_le_length (by omega)]
  have htail : (digits ++ rest).drop 4 = rest := List.drop_left' hlength
  have hpoint : pointOfUnit c.number = c := by
    unfold pointOfUnit CodePoint.ofNat?
    rw [dif_pos c.number_lt]
    rfl
  unfold unicodeEscape
  simp only [hunit', htail, hpoint]
  rw [if_neg (by simpa using hrest), if_neg (fun h => hhigh ⟨h.1, h.2.1⟩)]

theorem stringBody_skip (opening : Nat) (w rest : Text) :
    stringBody opening w.length (w ++ rest) = stringBody opening 0 rest := by
  induction w with
  | nil => rfl
  | cons c w ih =>
    rw [List.length_cons, List.cons_append, stringBody]
    exact ih

/-- One code point of a string is read, whichever way it is spelled. -/
theorem SpellsPoint.stringBody {c : CodePoint} {s : Text} (h : SpellsPoint c s) (opening : Nat) {rest : Text}
    (hrest : rest ≠ []) :
    stringBody opening 0 (s ++ rest) = (stringBody opening 0 rest).map fun (t, left) => (c :: t, left) := by
  cases h with
  | plain hlow hmark hbackslash =>
    have helement : stringElement opening c rest = .ok (c, 0) := by
      unfold stringElement
      rw [if_neg hbackslash, if_neg (by omega)]
    rw [List.singleton_append, Json.stringBody, if_neg hmark, helement]
  | @short letter hletter =>
    have hu : letter ≠ 'u' := by
      rintro rfl
      exact Option.some_ne_none c hletter.symm
    have helement : stringElement opening '\\' (letter :: rest) = .ok (c, 1) := by
      simp only [stringElement, if_true, if_neg hu, hletter]
    show Json.stringBody opening 0 (CodePoint.ofChar '\\' :: letter :: rest) = _
    rw [Json.stringBody, if_neg (by decide), helement]
    rfl
  | @digits digits hlength hunit hhigh =>
    have helement : stringElement opening '\\' (CodePoint.ofChar 'u' :: (digits ++ rest)) = .ok (c, 5) := by
      simp only [stringElement, if_true, unicodeEscape_of_unit hlength hunit hhigh hrest]
      rfl
    -- the letter and the digits have been read, and are passed over one by one
    have hskip := stringBody_skip opening (CodePoint.ofChar 'u' :: digits) rest
    rw [List.length_cons, hlength] at hskip
    show Json.stringBody opening 0 (CodePoint.ofChar '\\' :: CodePoint.ofChar 'u' :: (digits ++ rest)) = _
    rw [Json.stringBody, if_neg (by decide), helement]
    exact congrArg (Except.map _) hskip

theorem SpellsText.stringBody {t s : Text} (h : SpellsText t s) (opening : Nat) (rest : Text) :
    stringBody opening 0 (s ++ CodePoint.ofChar '"' :: rest) = .ok (t, rest) := by
  induction h with
  | nil => rfl
  | @cons c t s u hpoint htext ih =>
    rw [List.append_assoc, hpoint.stringBody opening (by simp), ih]
    rfl

/-- Plain text stands for itself. -/
theorem Plain.spellsText {t : Text} (h : Plain t) : SpellsText t t := by
  induction t with
  | nil => exact .nil
  | cons c t ih =>
    obtain ⟨hc, ht⟩ := List.forall_mem_cons.mp h
    simp only [isPlain, Bool.and_eq_true, decide_eq_true_eq] at hc
    exact .cons (.plain hc.1.1.1 hc.1.2 hc.2) (ih ht)

/-! ## Records -/

theorem SpellsField.value {v : Value} {x : Text} (h : SpellsField v x) (fuel room : Nat) (rest : Text) :
    value (fuel + 1) room (x ++ rest) = .ok (v, rest) := by
  cases h with
  | null => rfl
  | @text t s htext =>
    rw [marked_append, List.nil_append]
    unfold marked Json.value
    simp only [if_true, htext.stringBody]
    rfl

/-- Where an entry has been read, what follows it decides how it goes on. -/
theorem SpellsEntry.members {e : Text × Value} {s : Text} (h : SpellsEntry e s) {w : Text} (hw : Blanks w)
    {d : CodePoint} (hd : ¬isBlank d = true) (fuel room : Nat) (entries : Entries) (rest : Text) :
    members (fuel + 2) room entries (s ++ (w ++ d :: rest)) =
      if d = '}' then .ok (entries.put (.text e.1) e.2, rest)
      else if d = ',' then members (fuel + 1) room (entries.put (.text e.1) e.2) (skipBlanks rest)
      else refuse .comma (d :: rest) := by
  obtain @⟨key, k, w₁, w₂, x, v, hkey, hbefore, hbehind, hfield⟩ := h
  have hcolon : skipBlanks (w₁ ++ CodePoint.ofChar ':' :: (w₂ ++ (x ++ (w ++ d :: rest)))) =
      CodePoint.ofChar ':' :: (w₂ ++ (x ++ (w ++ d :: rest))) := hbefore.skip_cons (by decide) _
  have hvalue : skipBlanks (w₂ ++ (x ++ (w ++ d :: rest))) = x ++ (w ++ d :: rest) := by
    rw [hbehind.skip, hfield.skip]
  rw [marked_append, List.append_assoc, List.cons_append, List.append_assoc]
  conv_lhs => unfold marked Json.members
  simp only [if_true, hkey.stringBody, hcolon, hvalue, hfield.value, hw.skip_cons hd]

/-- Put entries one after another. -/
def putAll (entries : Entries) (record : Record) : Entries :=
  record.foldl (fun entries e => entries.put (.text e.1) e.2) entries

theorem SpellsItems.members {record : Record} {u : Text} (h : SpellsItems SpellsEntry '}' record u) {fuel : Nat}
    (hfuel : u.length ≤ fuel) (room : Nat) (entries : Entries) (rest : Text) :
    members fuel room entries (u ++ rest) = .ok (putAll entries record, rest) := by
  -- an entry takes two steps of fuel, one for itself and one for its value, and is at least as long as that
  induction h generalizing fuel entries with
  | @last e s w hentry hw =>
    obtain ⟨more, hs⟩ := hentry.begins
    obtain ⟨n, rfl⟩ : ∃ n, fuel = n + 2 := ⟨fuel - 2, by simp [hs] at hfuel; omega⟩
    rw [List.append_assoc, List.append_assoc, List.singleton_append]
    exact hentry.members hw (d := '}') (by decide) n room entries rest
  | @more e record s w w' u hentry hw hw' hrecord ih =>
    obtain ⟨more, hs⟩ := hentry.begins
    obtain ⟨n, rfl⟩ : ∃ n, fuel = n + 2 := ⟨fuel - 2, by simp [hs] at hfuel; omega⟩
    have hnext := hrecord.skip SpellsEntry.begins (by decide) hw' rest
    rw [List.append_assoc, List.append_assoc, List.cons_append,
      hentry.members hw (d := ',') (by decide) n room entries, if_neg (by decide), if_pos rfl, hnext]
    exact ih (by simp [hs] at hfuel; omega) _

/-- The object that a record is read as. -/
def Record.object (record : Record) : Entries := putAll [] record

theorem SpellsRecord.value {record : Record} {s : Text} (h : SpellsRecord record s) {fuel : Nat}
    (hfuel : s.length ≤ fuel) (room : Nat) (rest : Text) :
    value fuel (room + 1) (s ++ rest) = .ok (.mapping record.object, rest) := by
  have hpos := h.length_pos
  obtain ⟨text, hs, ⟨rfl, hempty⟩ | ⟨u, more, hitems, hshort, hu, hskip⟩⟩ :=
    h.inside SpellsEntry.begins (by decide) (by decide) rest
  · obtain ⟨n, rfl⟩ : ∃ n, fuel = n + 1 := ⟨fuel - 1, by omega⟩
    rw [hs]
    exact value_object_nil hempty n room
  · obtain ⟨n, rfl⟩ : ∃ n, fuel = n + 1 := ⟨fuel - 1, by omega⟩
    have hmembers := @SpellsItems.members _ _ hitems n (by omega) room [] rest
    rw [hu] at hmembers
    rw [hs, value_object hskip (by decide), hmembers]
    rfl

theorem get?_putAll_of_notMem {record : Record} {field : Text} (h : field ∉ record.map Prod.fst) (entries : Entries) :
    (putAll entries record).get? field = entries.get? field := by
  induction record generalizing entries with
  | nil => rfl
  | cons e record ih =>
    obtain ⟨hfirst, hrest⟩ := List.ne_and_not_mem_of_not_mem_cons h
    have hput := Entries.get?_put entries e.1 field e.2
    rw [if_neg hfirst.symm] at hput
    exact (ih hrest _).trans hput

theorem get?_putAll_of_mem {record : Record} {field : Text} {v : Value} (hnames : (record.map Prod.fst).Nodup)
    (h : (field, v) ∈ record) (entries : Entries) : (putAll entries record).get? field = some v := by
  induction record generalizing entries with
  | nil => exact nomatch h
  | cons e record ih =>
    obtain ⟨hfirst, hrest⟩ := List.nodup_cons.mp hnames
    rcases List.mem_cons.mp h with rfl | hmem
    · have hput := Entries.get?_put entries field field v
      rw [if_pos rfl] at hput
      exact (get?_putAll_of_notMem hfirst _).trans hput
    · exact ih hrest hmem _

/-! ## Lists of records -/

theorem SpellsItems.elements {records : List Record} {u : Text} (h : SpellsItems SpellsRecord ']' records u)
    {fuel : Nat} (hfuel : u.length ≤ fuel) (room : Nat) (rest : Text) :
    elements fuel (room + 1) (u ++ rest) = .ok (records.map fun record => .mapping record.object, rest) := by
  induction h generalizing fuel with
  | @last record s w hrecord hw =>
    obtain ⟨n, rfl⟩ : ∃ n, fuel = n + 1 := ⟨fuel - 1, by simp at hfuel; omega⟩
    have hvalue := @SpellsRecord.value _ _ hrecord n (by simp at hfuel; omega) room
      (w ++ CodePoint.ofChar ']' :: rest)
    rw [List.append_assoc, List.append_assoc, List.singleton_append]
    unfold Json.elements
    simp only [hvalue, hw.skip_cons (d := ']') (by decide)]
    rfl
  | @more record records s w w' u hrecord hw hw' hrecords ih =>
    obtain ⟨n, rfl⟩ : ∃ n, fuel = n + 1 := ⟨fuel - 1, by simp at hfuel; omega⟩
    have hnext := hrecords.skip Bracketed.begins (by decide) hw' rest
    have hvalue := @SpellsRecord.value _ _ hrecord n (by simp at hfuel; omega) room
      (w ++ CodePoint.ofChar ',' :: (w' ++ u ++ rest))
    have hrest := @ih n (by simp at hfuel; omega)
    rw [List.append_assoc, List.append_assoc, List.cons_append]
    unfold Json.elements
    simp only [hvalue, hw.skip_cons (d := ',') (by decide), hnext, hrest]
    rfl

/-- The value that a list of records is read as. -/
def recordList (records : List Record) : Value := .list (records.map fun record => .mapping record.object)

theorem SpellsRecords.value {records : List Record} {s : Text} (h : SpellsRecords records s) {fuel : Nat}
    (hfuel : s.length ≤ fuel) (room : Nat) (rest : Text) :
    value fuel (room + 2) (s ++ rest) = .ok (recordList records, rest) := by
  have hpos := h.length_pos
  obtain ⟨text, hs, ⟨rfl, hempty⟩ | ⟨u, more, hitems, hshort, hu, hskip⟩⟩ :=
    h.inside Bracketed.begins (by decide) (by decide) rest
  · obtain ⟨n, rfl⟩ : ∃ n, fuel = n + 1 := ⟨fuel - 1, by omega⟩
    rw [hs]
    exact value_list_nil hempty n (room + 1)
  · obtain ⟨n, rfl⟩ : ∃ n, fuel = n + 1 := ⟨fuel - 1, by omega⟩
    have helements := @SpellsItems.elements _ _ hitems n (by omega) room rest
    rw [hu] at helements
    rw [hs, value_list hskip (by decide), helements]
    rfl

/-- A document is read as the records that it spells, if there is room for a list of objects. -/
theorem SpellsDocument.readWithin {records : List Record} {raw : Text} (h : SpellsDocument records raw) {room : Nat}
    (hroom : 2 ≤ room) : readWithin room raw = .ok (recordList records) := by
  obtain ⟨room, rfl⟩ : ∃ less, room = less + 2 := ⟨room - 2, by omega⟩
  obtain @⟨w, s, w', hbefore, hrecords, hbehind⟩ := h
  obtain ⟨more, hs⟩ := hrecords.begins
  have hskip : skipBlanks (w ++ (s ++ w')) = s ++ w' := by
    rw [hs, List.cons_append, hbefore.skip_cons (by decide)]
  have hend : skipBlanks w' = [] := by
    have hall := hbehind.skip []
    rwa [List.append_nil] at hall
  have hdocument : document (room + 2) (w ++ (s ++ w')) = .ok (recordList records) := by
    unfold document
    rw [hskip, hrecords.value (by simp; omega)]
    simp only [hend]
  -- what comes first is white space or the opening bracket
  have hmark : (w ++ (s ++ w')).head? ≠ some (CodePoint.ofChar '\uFEFF') := by
    intro hhead
    cases w with
    | nil =>
      rw [hs] at hhead
      exact absurd (Option.some.inj hhead) (by decide)
    | cons c w =>
      obtain rfl := Option.some.inj hhead
      exact nomatch hbefore _ List.mem_cons_self
  unfold Json.readWithin
  rw [if_neg hmark, hdocument]
  rfl

end Json

end NetAttach
