/-
  Lists of records that the program writes.

  The names of an object are put in order when it is written, so what is written spells each record with its entries in
  some order (`spells_write`), and is read accordingly.  Nothing is said of code points from the surrogates on: these
  are written as pairs, or could be taken for halves of one.
-/
import Mathlib.Data.List.Forall2
import NetAttach.Json.Writer
import NetAttach.Proofs.Json.Records

namespace NetAttach.Json

variable {α : Type}

/-- All code points come before the surrogates. -/
def IsLow (t : Text) : Prop := ∀ c ∈ t, c.number < 0xD800

instance (t : Text) : Decidable (IsLow t) := inferInstanceAs (Decidable (∀ c ∈ t, c.number < 0xD800))

/-! ## Strings -/

theorem hexValue?_digitChar : ∀ n < 16, hexValue? (CodePoint.ofChar (Nat.digitChar n)) = some n := by decide

theorem unit?_hexadecimal {n : Nat} (h : n < 0x10000) : unit? (Text.hexadecimal 4 n) = some n := by
  have hdigit : ∀ m, hexValue? (CodePoint.ofChar (Nat.digitChar (m % 16))) = some (m % 16) :=
    fun m => hexValue?_digitChar _ (Nat.mod_lt m (by decide))
  have hvalue : ((n / 16 / 16 / 16 % 16 * 16 + n / 16 / 16 % 16) * 16 + n / 16 % 16) * 16 + n % 16 = n := by omega
  simp [unit?, Text.hexadecimal, hdigit, hvalue]

theorem spellsPoint_escaped {c : CodePoint} (h : c.number < 0xD800) : SpellsPoint c (escaped c) := by
  -- the cases are those of `escaped`; the last one, a pair of surrogates, is out of reach
  unfold escaped
  split_ifs with hmark hnewline hreturn htab hbackspace hfeed hplain hshort
  · exact .short (by rcases hmark with rfl | rfl <;> rfl)
  · exact hnewline ▸ .short rfl
  · exact hreturn ▸ .short rfl
  · exact htab ▸ .short rfl
  · exact hbackspace ▸ .short rfl
  · exact hfeed ▸ .short rfl
  · rw [not_or] at hmark
    exact .plain hplain.1 hmark.1 hmark.2
  · exact .digits (Text.hexadecimal_length 4 c.number) (unit?_hexadecimal hshort) (by omega)
  · omega

theorem spellsText_escaped {t : Text} (h : IsLow t) : SpellsText t (t.flatMap escaped) := by
  induction t with
  | nil => exact .nil
  | cons c t ih =>
    obtain ⟨hc, ht⟩ := List.forall_mem_cons.mp h
    exact .cons (spellsPoint_escaped hc) (ih ht)

theorem quote_eq (t : Text) : quote t = marked (t.flatMap escaped) [] := rfl

/-! ## Records -/

/-- A name and a field that are written without surrogates. -/
inductive Writable : Text × Value → Prop
  | null {key : Text} (hkey : IsLow key) : Writable (key, .null)
  | text {key t : Text} (hkey : IsLow key) (htext : IsLow t) : Writable (key, .text t)

/-- An entry, as it is written. -/
def writtenEntry (pair : Text × Text) : Text := quote pair.1 ++ ":" ++ pair.2

theorem writtenEntry_eq (key written : Text) :
    writtenEntry (key, written) = marked (key.flatMap escaped) ([] ++ CodePoint.ofChar ':' :: ([] ++ written)) := by
  rw [writtenEntry, quote_eq, List.append_assoc, marked_append]
  rfl

theorem spellsEntry_written {e : Text × Value} (h : Writable e) : SpellsEntry e (writtenEntry (e.1, write e.2)) := by
  rw [writtenEntry_eq]
  cases h with
  | null hkey => exact .intro (spellsText_escaped hkey) blanks_nil blanks_nil .null
  | text hkey htext => exact .intro (spellsText_escaped hkey) blanks_nil blanks_nil (.text (spellsText_escaped htext))

theorem forall₂_insertEntry {R : α → Text × Text → Prop} {items : List α} {pairs : List (Text × Text)}
    (h : List.Forall₂ R items pairs) {a : α} {name written : Text} (ha : R a (name, written)) :
    ∃ sorted, sorted.Perm (a :: items) ∧ List.Forall₂ R sorted (insertEntry name written pairs) := by
  induction h with
  | nil => exact ⟨[a], .refl _, .cons ha .nil⟩
  | @cons b pair items pairs hb hrest ih =>
    unfold insertEntry
    split
    · exact ⟨a :: b :: items, .refl _, .cons ha (.cons hb hrest)⟩
    · obtain ⟨sorted, hperm, hsorted⟩ := ih
      exact ⟨b :: sorted, (hperm.cons b).trans (.swap a b items), .cons hb hsorted⟩

/-- The entries that an object is made of. -/
def Record.entries (record : Record) : Entries := record.map fun e => (.text e.1, e.2)

theorem spells_writeEntries {record : Record} (h : ∀ e ∈ record, Writable e) :
    ∃ sorted : Record, sorted.Perm record ∧
      List.Forall₂ (fun e pair => SpellsEntry e (writtenEntry pair)) sorted (writeEntries record.entries) := by
  induction record with
  | nil => exact ⟨[], .refl _, .nil⟩
  | cons e record ih =>
    obtain ⟨he, hrecord⟩ := List.forall_mem_cons.mp h
    obtain ⟨sorted, hperm, hsorted⟩ := ih hrecord
    obtain ⟨more, hmore, hinserted⟩ := forall₂_insertEntry hsorted (spellsEntry_written he)
    exact ⟨more, hmore.trans (hperm.cons e), hinserted⟩

/-- Items that are joined by commas are items with commas between them. -/
theorem spellsItems_of_join {spells : α → Text → Prop} (close : CodePoint) {items : List α} {texts : List Text} {a : α}
    {s : Text} (ha : spells a s) (h : List.Forall₂ spells items texts) :
    SpellsItems spells close (a :: items) (Text.join "," (s :: texts) ++ [close]) := by
  induction h generalizing a s with
  | nil =>
    have hlast : SpellsItems spells close [a] _ := .last ha blanks_nil
    simpa [Text.join] using hlast
  | @cons b t items texts hb hrest ih =>
    have hmore := SpellsItems.more ha blanks_nil blanks_nil (ih hb)
    simpa [Text.join, Text.ofString] using hmore

theorem bracketed_of_join {spells : α → Text → Prop} (opening close : CodePoint) {items : List α} {texts : List Text}
    (h : List.Forall₂ spells items texts) :
    Bracketed spells opening close items (opening :: (Text.join "," texts ++ [close])) := by
  cases h with
  | nil => exact .empty blanks_nil
  | @cons a s items texts ha hrest =>
    have hitems := spellsItems_of_join close ha hrest
    exact @Bracketed.items _ spells opening close _ [] _ blanks_nil hitems

theorem spellsRecord_write {record : Record} (h : ∀ e ∈ record, Writable e) :
    ∃ sorted : Record, sorted.Perm record ∧ SpellsRecord sorted (write (.mapping record.entries)) := by
  obtain ⟨sorted, hperm, hsorted⟩ := spells_writeEntries h
  have htexts : List.Forall₂ SpellsEntry sorted ((writeEntries record.entries).map writtenEntry) :=
    List.forall₂_map_right_iff.mpr hsorted
  exact ⟨sorted, hperm, bracketed_of_join '{' '}' htexts⟩

/-- Records are written as themselves, up to the order of their entries. -/
theorem spells_write {records : List Record} (h : ∀ record ∈ records, ∀ e ∈ record, Writable e) :
    ∃ sorted : List Record, List.Forall₂ List.Perm sorted records ∧
      SpellsDocument sorted (write (.list (records.map fun record => .mapping record.entries))) := by
  have hitems : ∃ sorted : List Record, List.Forall₂ List.Perm sorted records ∧
      List.Forall₂ SpellsRecord sorted (writeItems (records.map fun record => .mapping record.entries)) := by
    induction records with
    | nil => exact ⟨[], .nil, .nil⟩
    | cons record records ih =>
      obtain ⟨hrecord, hrecords⟩ := List.forall_mem_cons.mp h
      obtain ⟨first, hperm, hfirst⟩ := spellsRecord_write hrecord
      obtain ⟨sorted, hperms, hsorted⟩ := ih hrecords
      exact ⟨first :: sorted, .cons hperm hperms, .cons hfirst hsorted⟩
  obtain ⟨sorted, hperms, hsorted⟩ := hitems
  have hlist := bracketed_of_join '[' ']' hsorted
  have hdocument : SpellsDocument sorted _ := .intro blanks_nil hlist blanks_nil
  refine ⟨sorted, hperms, ?_⟩
  rwa [List.nil_append, List.append_nil] at hdocument

end NetAttach.Json
