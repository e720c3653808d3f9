/-
  The two forms of an annotation agree.

  A list of references can be written down in either form.  The short form is a function of the references
  (`shortForm`).  The long form leaves some choices: a field that says nothing can be left out, null or empty, an
  interface goes by either of two names, and then there are the choices that JSON leaves (`Renders`,
  `Json.SpellsDocument`).

  Whatever is chosen, both are read as the references that were written, those without a namespace put into the given
  one (`parse_shortForm`, `parse_of_spells`).  The text that the program itself would write is one of the choices, so
  there always is one (`parse_longForm`).
-/
import NetAttach.Proofs.Json.Written
import NetAttach.Proofs.Selection.Shorthand

namespace NetAttach

open Json (Record)

/-! ## References written down -/

/-- A reference as an item of the short form. -/
def Reference.item (r : Reference) : Text :=
  (if r.ns = [] then [] else r.ns ++ [Selection.slash]) ++ r.name ++
    (if r.interface = [] then [] else Selection.atSign :: r.interface)

/-- A reference as a record with all three fields. -/
def Reference.record (r : Reference) : Record :=
  [(Text.ofString "name", .text r.name), (Text.ofString "namespace", .text r.ns),
    (Text.ofString "interface", .text r.interface)]

namespace Selection

/-- References in the short form. -/
def shortForm (references : List Reference) : Text := Text.join "," (references.map Reference.item)

/-- The field of a record holds a text; an empty one may also be null or left out. -/
def Holds (record : Record) (field t : Text) : Prop :=
  (field, .text t) ∈ record ∨ t = [] ∧ ((field, .null) ∈ record ∨ field ∉ record.map Prod.fst)

instance (record : Record) (field t : Text) : Decidable (Holds record field t) :=
  inferInstanceAs (Decidable (_ ∨ _ ∧ (_ ∨ _)))

/-- The record says which reference is meant.  The interface stands in one of two fields, and the other one is empty. -/
structure Renders (record : Record) (r : Reference) : Prop where
  names : (record.map Prod.fst).Nodup
  name : (Text.ofString "name", Value.text r.name) ∈ record
  ns : Holds record "namespace" r.ns
  interface : (Holds record "interface" r.interface ∧ Holds record "interfaceRequest" []) ∨
    (Holds record "interface" [] ∧ Holds record "interfaceRequest" r.interface)

/-- The references in the long form, with every field. -/
def longForm (references : List Reference) : Text :=
  Json.write (.list (references.map fun r => .mapping r.record.entries))

/-! ## The short form -/

theorem spellsItem_item (r : Reference) : SpellsItem r r.item := by
  have hnetwork : SpellsNetwork r.ns r.name ((if r.ns = [] then [] else r.ns ++ [slash]) ++ r.name) := by
    by_cases hns : r.ns = []
    · rw [if_pos hns]
      exact .bare hns (Text.padded_self r.name)
    · rw [if_neg hns, List.append_assoc, List.singleton_append]
      exact .qualified (Text.padded_self r.ns) (Text.padded_self r.name)
  unfold Reference.item
  by_cases hinterface : r.interface = []
  · rw [if_pos hinterface, List.append_nil]
    exact .bare hnetwork hinterface
  · rw [if_neg hinterface]
    exact .attached hnetwork (Text.padded_self r.interface)

theorem spellsRow_shortForm {references : List Reference} (h : ∀ r ∈ references, r.WellFormed) :
    SpellsRow (shortForm references) references := by
  refine ⟨references.map Reference.item, rfl, ?_⟩
  rw [List.forall₂_map_left_iff, List.forall₂_same]
  exact fun r hr => ⟨spellsItem_item r, h r hr⟩

theorem item_ne_nil {r : Reference} (h : r.WellFormed) : r.item ≠ [] := by
  have hname := h.name.ne_nil
  simp [Reference.item, hname]

theorem shortForm_ne_nil {references : List Reference} (hne : references ≠ []) (h : ∀ r ∈ references, r.WellFormed) :
    shortForm references ≠ [] := by
  obtain ⟨r, rest, rfl⟩ := List.exists_cons_of_ne_nil hne
  have hitem : r.item ≠ [] := item_ne_nil (h r List.mem_cons_self)
  cases rest with
  | nil => simpa [shortForm, Text.join] using hitem
  | cons next rest => simp [shortForm, Text.join, hitem]

theorem parse_shortForm [Nesting] {references : List Reference} (hne : references ≠ [])
    (h : ∀ r ∈ references, r.WellFormed) (ns : Text) :
    parse (shortForm references) ns = .ok (references.map fun r => r.inNamespace ns) :=
  parse_of_row (shortForm_ne_nil hne h) (spellsRow_shortForm h) ns

/-! ## The long form -/

theorem Holds.textField {record : Record} {field t : Text} (h : Holds record field t)
    (hnames : (record.map Prod.fst).Nodup) : textField record.object field = .ok t := by
  rw [textField_eq_ok]
  rcases h with htext | ⟨rfl, hnull | hnone⟩
  · exact Or.inl (Json.get?_putAll_of_mem hnames htext [])
  · exact Or.inr ⟨rfl, Or.inr (Json.get?_putAll_of_mem hnames hnull [])⟩
  · exact Or.inr ⟨rfl, Or.inl (Json.get?_putAll_of_notMem hnone [])⟩

/-- It makes no difference by which of its names the interface goes. -/
theorem Renders.interfaceField {record : Record} {r : Reference} (h : Renders record r) :
    interfaceField record.object = .ok r.interface := by
  unfold Selection.interfaceField
  rcases h.interface with ⟨hinterface, hrequest⟩ | ⟨hinterface, hrequest⟩
  · rw [hinterface.textField h.names]
    cases hempty : r.interface with
    | nil => exact hrequest.textField h.names
    | cons c rest => rfl
  · rw [hinterface.textField h.names]
    exact hrequest.textField h.names

theorem Renders.readElement {record : Record} {r : Reference} (h : Renders record r) (hr : r.WellFormed) :
    readElement (.mapping record.object) = .ok r := by
  have hname : Holds record "name" r.name := Or.inl h.name
  exact readElement_eq_ok.mpr
    ⟨record.object, rfl, hname.textField h.names, h.ns.textField h.names, h.interfaceField, hr⟩

/-- A list shows by its bracket that it has the long form. -/
theorem isJson_of_spells {records : List Record} {raw : Text} (h : Json.SpellsDocument records raw) :
    isJson raw = true := by
  obtain @⟨w, s, w', -, hrecords, -⟩ := h
  obtain ⟨more, rfl⟩ := hrecords.begins
  simp [isJson]

theorem parse_of_spells [Nesting] {references : List Reference} (h : ∀ r ∈ references, r.WellFormed)
    {records : List Record} (hrenders : List.Forall₂ Renders records references) {raw : Text}
    (hraw : Json.SpellsDocument records raw) (ns : Text) :
    parse raw ns = .ok (references.map fun r => r.inNamespace ns) := by
  have helements : (records.map fun record => Value.mapping record.object).mapM readElement = .ok references := by
    rw [mapM_eq_ok, List.forall₂_map_left_iff]
    have hboth := (List.forall₂_and_left references records).mpr ⟨h, hrenders.flip⟩
    exact (hboth.imp fun r record hr => Renders.readElement hr.2 hr.1).flip
  have hjson := isJson_of_spells hraw
  have hwritten : written raw = .ok references := by
    rw [written, if_pos hjson, readJson, hraw.readWithin Nesting.selection_ge]
    exact helements
  have hne : raw ≠ [] := by
    rintro rfl
    exact Bool.false_ne_true hjson
  exact parse_eq_ok.mpr ⟨hne, references, hwritten, rfl⟩

/-! ## What the program would write -/

theorem Holds.perm {record other : Record} {field t : Text} (h : Holds record field t) (hperm : other.Perm record) :
    Holds other field t := by
  simpa only [Holds, hperm.mem_iff, (hperm.map Prod.fst).mem_iff] using h

theorem Renders.perm {record other : Record} {r : Reference} (h : Renders record r) (hperm : other.Perm record) :
    Renders other r where
  names := (hperm.map Prod.fst).nodup_iff.mpr h.names
  name := hperm.mem_iff.mpr h.name
  ns := h.ns.perm hperm
  interface := h.interface.imp (fun h => ⟨h.1.perm hperm, h.2.perm hperm⟩) fun h => ⟨h.1.perm hperm, h.2.perm hperm⟩

theorem renders_record (r : Reference) : Renders r.record r where
  names := (by decide : ([Text.ofString "name", "namespace", "interface"] : List Text).Nodup)
  name := by simp [Reference.record]
  ns := Or.inl (by simp [Reference.record])
  interface := by
    have hother : Text.ofString "interfaceRequest" ∉
        ([Text.ofString "name", "namespace", "interface"] : List Text) := by decide
    exact Or.inl ⟨Or.inl (by simp [Reference.record]), Or.inr ⟨rfl, Or.inr hother⟩⟩

theorem writable_record {r : Reference} (h : r.WellFormed) : ∀ e ∈ r.record, Json.Writable e := by
  have hlow : ∀ word ∈ [r.name, r.ns, r.interface], Json.IsLow word :=
    fun word hword c hc => (h.isTokenPoint hword hc).number_lt
  have hfield : ∀ {key word}, Json.IsLow key → word ∈ [r.name, r.ns, r.interface] → Json.Writable (key, .text word) :=
    fun hkey hword => .text hkey (hlow _ hword)
  intro e he
  simp only [Reference.record, List.mem_cons, List.not_mem_nil, or_false] at he
  rcases he with rfl | rfl | rfl
  · exact hfield (by decide) (by simp)
  · exact hfield (by decide) (by simp)
  · exact hfield (by decide) (by simp)

theorem parse_longForm [Nesting] {references : List Reference} (h : ∀ r ∈ references, r.WellFormed) (ns : Text) :
    parse (longForm references) ns = .ok (references.map fun r => r.inNamespace ns) := by
  have hwritable : ∀ record ∈ references.map Reference.record, ∀ e ∈ record, Json.Writable e := by
    intro record hrecord
    obtain ⟨r, hr, rfl⟩ := List.mem_map.mp hrecord
    exact writable_record (h r hr)
  obtain ⟨sorted, hperms, hdocument⟩ := Json.spells_write hwritable
  have hrenders : List.Forall₂ Renders sorted references :=
    (List.forall₂_map_right_iff.mp hperms).imp fun record r hperm => (renders_record r).perm hperm
  rw [List.map_map] at hdocument
  exact parse_of_spells h hrenders hdocument ns

/-! ## Both forms -/

/-- **The two forms agree.**  References are read alike from the short form and from the long one, whichever of its
choices were made, and what is read is what was written, with the given namespace in place of those left empty. -/
theorem parse_eq_parse_shortForm [Nesting] {references : List Reference} (hne : references ≠ [])
    (h : ∀ r ∈ references, r.WellFormed) {records : List Record}
    (hrenders : List.Forall₂ Renders records references) {raw : Text} (hraw : Json.SpellsDocument records raw)
    (ns : Text) :
    parse raw ns = parse (shortForm references) ns ∧
      parse raw ns = .ok (references.map fun r => r.inNamespace ns) := by
  have hlong := parse_of_spells h hrenders hraw ns
  exact ⟨hlong.trans (parse_shortForm hne h ns).symm, hlong⟩

/-- Two references, one with every part and one with none but the name; an interface under its second name, an escape,
a field that is null and one that is left out. -/
theorem parse_eq_parse_shortForm_of_two_objects :
    let references : List Reference := [⟨"net-a", "ns1", "eth1"⟩, ⟨"net-b", [], []⟩]
    let raw : Text := "[\x7b\"name\": \"\\u006eet-a\", \"namespace\": \"ns1\", \"interfaceRequest\": \"eth1\"\x7d,\n" ++
      " \x7b\"interface\":null,\"name\":\"net-b\"\x7d]"
    shortForm references = "ns1/net-a@eth1,net-b" ∧
      parse raw "default" = parse (shortForm references) "default" ∧
      parse raw "default" = .ok [⟨"net-a", "ns1", "eth1"⟩, ⟨"net-b", "default", []⟩] := by
  intro references raw
  have hwell : ∀ r ∈ references, r.WellFormed := by
    have htoken : ∀ {t : Text}, t.isToken = true → t.IsTokenWord := Text.isToken_iff.mp
    have hfirst : Reference.WellFormed ⟨"net-a", "ns1", "eth1"⟩ :=
      ⟨htoken (by decide), Or.inr (htoken (by decide)), Or.inr (htoken (by decide))⟩
    have hsecond : Reference.WellFormed ⟨"net-b", [], []⟩ := ⟨htoken (by decide), Or.inl rfl, Or.inl rfl⟩
    exact List.forall_mem_cons.mpr ⟨hfirst, List.forall_mem_cons.mpr ⟨hsecond, List.forall_mem_nil _⟩⟩
  let first : Record := [("name", .text "net-a"), ("namespace", .text "ns1"), ("interfaceRequest", .text "eth1")]
  let second : Record := [("interface", .null), ("name", .text "net-b")]
  have hrenders : List.Forall₂ Renders [first, second] references :=
    .cons ⟨by decide, by decide, by decide, by decide⟩ (.cons ⟨by decide, by decide, by decide, by decide⟩ .nil)
  have hraw : Json.SpellsDocument [first, second] raw := by
    have hentry : ∀ {key w x v}, Json.Plain key → Json.Blanks w → Json.SpellsField v x →
        Json.SpellsEntry (key, v) (Json.marked key (CodePoint.ofChar ':' :: (w ++ x))) :=
      fun hkey hw hx => .intro hkey.spellsText Json.blanks_nil hw hx
    have htext : ∀ {t}, Json.Plain t → Json.SpellsField (.text t) (Json.marked t []) := fun ht => .text ht.spellsText
    have hescaped : Json.SpellsText "net-a" ("\\u006e" ++ "et-a") :=
      .cons (.digits (by decide) (by decide) (by decide)) (Json.Plain.spellsText (by decide))
    have hblank : Json.Blanks " " := by decide
    have hline : Json.Blanks "\n " := by decide
    have hnil := Json.blanks_nil
    have hname := @hentry "name" " " _ _ (by decide) hblank (.text hescaped)
    have hns := @hentry "namespace" " " _ _ (by decide) hblank (@htext "ns1" (by decide))
    have hrequest := @hentry "interfaceRequest" " " _ _ (by decide) hblank (@htext "eth1" (by decide))
    have hinterface := @hentry "interface" [] _ _ (by decide) hnil .null
    have hother := @hentry "name" [] _ _ (by decide) hnil (@htext "net-b" (by decide))
    have hfirst : Json.SpellsRecord first _ :=
      .items hnil (.more hname hnil hblank (.more hns hnil hblank (.last hrequest hnil)))
    have hsecond : Json.SpellsRecord second _ := .items hnil (.more hinterface hnil hnil (.last hother hnil))
    have hdocument := Json.SpellsDocument.intro hnil (.items hnil (.more hfirst hnil hline (.last hsecond hnil))) hnil
    convert hdocument using 1
    decide +kernel
  obtain ⟨hsame, hread⟩ := parse_eq_parse_shortForm (List.cons_ne_nil _ _) hwell hrenders hraw "default"
  exact ⟨by decide, hsame, hread⟩

end Selection

end NetAttach
