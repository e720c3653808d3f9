/-
  The grammar of the short form.

  An annotation of the short form is a row of items between commas, one for each reference.  An item is the name of the
  network, or a namespace, a slash and the name, and an at-sign and the interface may follow; white space may stand
  around each of the three (`SpellsItem`).  A namespace or an interface that is marked off may be empty.

  An item is trimmed, cut at its slash, cut at its at-sign, and its parts are trimmed again.  The grammar knows of no
  such order, and it comes to the same.

  Structure:
  1. `SpellsNetwork` and `SpellsItem`, what an item may look like; white space around it makes no difference
     (`SpellsItem.padded`, `SpellsItem.strip`);
  2. `readItem_strip_eq_ok`: items are read by the grammar.  The separators are no parts of tokens and no white space,
     so that an item can be cut only where the grammar has them;
  3. `readItems_eq_ok`, the same for a row, and `reason_of_readItem`, what else can come of it.
-/
import NetAttach.Proofs.Selection.Items

namespace NetAttach.Selection

open Text (IsBlank IsSolid Padded)

/-! ## Items -/

/-- What says which network is meant: its name, behind its namespace and a slash unless it is in none. -/
inductive SpellsNetwork (ns name : Text) : Text → Prop
  | bare {t : Text} (hns : ns = []) (hname : Padded name t) : SpellsNetwork ns name t
  | qualified {before rest : Text} (hns : Padded ns before) (hname : Padded name rest) :
      SpellsNetwork ns name (before ++ slash :: rest)

/-- An item that stands for a reference: the network, and behind an at-sign the interface unless there is none. -/
inductive SpellsItem (r : Reference) : Text → Prop
  | bare {t : Text} (hnetwork : SpellsNetwork r.ns r.name t) (hinterface : r.interface = []) : SpellsItem r t
  | attached {t interface : Text} (hnetwork : SpellsNetwork r.ns r.name t)
      (hinterface : Padded r.interface interface) : SpellsItem r (t ++ atSign :: interface)

/-- The items of the short form, each of which stands for one reference. -/
def SpellsRow (raw : Text) (references : List Reference) : Prop :=
  ∃ items, raw = Text.join "," items ∧
    List.Forall₂ (fun item r => SpellsItem r item ∧ r.WellFormed) items references

section WhiteSpace

variable {ns name t w : Text} {r : Reference}

theorem SpellsNetwork.behind (h : SpellsNetwork ns name t) (hw : IsBlank w) : SpellsNetwork ns name (w ++ t) := by
  cases h with
  | bare hns hname => exact .bare hns (hname.behind hw)
  | qualified hns hname =>
    rw [← List.append_assoc]
    exact .qualified (hns.behind hw) hname

theorem SpellsNetwork.before (h : SpellsNetwork ns name t) (hw : IsBlank w) : SpellsNetwork ns name (t ++ w) := by
  cases h with
  | bare hns hname => exact .bare hns (hname.before hw)
  | qualified hns hname =>
    rw [List.append_assoc, List.cons_append]
    exact .qualified hns (hname.before hw)

theorem SpellsItem.padded (h : SpellsItem r t) {item : Text} (hitem : Padded t item) : SpellsItem r item := by
  obtain ⟨hfront, hback⟩ := hitem
  cases h with
  | bare hnetwork hinterface => exact .bare ((hnetwork.behind hfront).before hback) hinterface
  | attached hnetwork hinterface =>
    rw [← List.append_assoc, List.append_assoc, List.cons_append]
    exact .attached (hnetwork.behind hfront) (hinterface.before hback)

end WhiteSpace

/-! ## Tokens in items -/

/-- Nothing but letters and hyphens, and perhaps not even that. -/
def OfTokenPoints (t : Text) : Prop := ∀ c ∈ t, c.IsTokenPoint

theorem OfTokenPoints.isSolid {t : Text} (h : OfTokenPoints t) : IsSolid t := fun c hc => (h c hc).not_isBlank

theorem ofTokenPoints {r : Reference} (h : r.WellFormed) :
    OfTokenPoints r.ns ∧ OfTokenPoints r.name ∧ OfTokenPoints r.interface :=
  ⟨fun _ => h.isTokenPoint (by simp), fun _ => h.isTokenPoint (by simp), fun _ => h.isTokenPoint (by simp)⟩

/-- What separates the parts of an item is no part of a token, and no white space. -/
theorem OfTokenPoints.notMem {t s : Text} (ht : OfTokenPoints t) (h : Padded t s) {sep : CodePoint}
    (hpoint : ¬sep.IsTokenPoint) (hblank : sep.isBlank = false) : sep ∉ s := by
  intro hmem
  rcases h.mem hmem with hmem | hmem
  · exact hpoint (ht sep hmem)
  · exact nomatch hblank.symm.trans hmem

section Separators

variable {ns name interface t u : Text} {r : Reference}

theorem SpellsNetwork.dropWhile (hns : OfTokenPoints ns) (hname : OfTokenPoints name) (h : SpellsNetwork ns name t) :
    SpellsNetwork ns name (t.dropWhile CodePoint.isBlank) := by
  cases h with
  | bare hnone hpadded => exact .bare hnone (hpadded.dropWhile hname.isSolid)
  | qualified hbefore hrest =>
    rw [Text.dropWhile_append_cons (by decide)]
    exact .qualified (hbefore.dropWhile hns.isSolid) hrest

theorem SpellsNetwork.rdropWhile (hname : OfTokenPoints name) (h : SpellsNetwork ns name t) :
    SpellsNetwork ns name (t.rdropWhile CodePoint.isBlank) := by
  cases h with
  | bare hnone hpadded => exact .bare hnone (hpadded.rdropWhile hname.isSolid)
  | qualified hbefore hrest =>
    rw [Text.rdropWhile_append_cons (by decide)]
    exact .qualified hbefore (hrest.rdropWhile hname.isSolid)

theorem SpellsItem.strip (hr : r.WellFormed) (h : SpellsItem r t) : SpellsItem r (Text.strip t) := by
  obtain ⟨hns, hname, hinterface⟩ := ofTokenPoints hr
  cases h with
  | bare hnetwork hnone =>
    rw [Text.strip_eq]
    exact .bare ((hnetwork.dropWhile hns hname).rdropWhile hname) hnone
  | attached hnetwork hpadded =>
    rw [Text.strip_append_cons (by decide)]
    exact .attached (hnetwork.dropWhile hns hname) (hpadded.rdropWhile hinterface.isSolid)

theorem SpellsItem.notMem (hr : r.WellFormed) (h : SpellsItem r t) {c : CodePoint} (hpoint : ¬c.IsTokenPoint)
    (hblank : c.isBlank = false) (hslash : c ≠ slash) (hat : c ≠ atSign) : c ∉ t := by
  obtain ⟨hns, hname, hinterface⟩ := ofTokenPoints hr
  have hnetwork : ∀ {t}, SpellsNetwork r.ns r.name t → c ∉ t := by
    intro t h
    cases h with
    | bare hnone hpadded => exact hname.notMem hpadded hpoint hblank
    | qualified hbefore hrest =>
      rw [List.mem_append, List.mem_cons]
      rintro (hc | rfl | hc)
      · exact hns.notMem hbefore hpoint hblank hc
      · exact hslash rfl
      · exact hname.notMem hrest hpoint hblank hc
  cases h with
  | bare h hnone => exact hnetwork h
  | attached h hpadded =>
    rw [List.mem_append, List.mem_cons]
    rintro (hc | rfl | hc)
    · exact hnetwork h hc
    · exact hat rfl
    · exact hinterface.notMem hpadded hpoint hblank hc

/-! ## Items are read by the grammar -/

theorem splitInterface_bare (hname : OfTokenPoints name) (h : Padded name t) (item : Text) :
    splitInterface item t = .ok (name, []) :=
  splitInterface_eq_ok.mpr
    (Or.inl ⟨hname.notMem h (by decide) (by decide), (Text.strip_eq_iff hname.isSolid).mpr h, rfl⟩)

theorem splitInterface_attached (hname : OfTokenPoints name) (hinterface : OfTokenPoints interface)
    (h : Padded name t) (hu : Padded interface u) (item : Text) :
    splitInterface item (t ++ atSign :: u) = .ok (name, interface) := by
  refine splitInterface_eq_ok.mpr (Or.inr ⟨t, u, rfl, ?_, ?_, ?_, ?_⟩)
  · exact hname.notMem h (by decide) (by decide)
  · exact hinterface.notMem hu (by decide) (by decide)
  · exact (Text.strip_eq_iff hname.isSolid).mpr h
  · exact (Text.strip_eq_iff hinterface.isSolid).mpr hu

/-- What follows the network is read with the name. -/
theorem splitItem_of_spellsNetwork (hns : OfTokenPoints ns) (hname : OfTokenPoints name)
    (h : SpellsNetwork ns name t) (hu : slash ∉ u)
    (hinterface : ∀ {rest}, Padded name rest → ∀ item, splitInterface item (rest ++ u) = .ok (name, interface)) :
    splitItem (t ++ u) = .ok (ns, name, interface) := by
  cases h with
  | bare hnone hpadded =>
    have hslash : slash ∉ t := hname.notMem hpadded (by decide) (by decide)
    exact splitItem_eq_ok.mpr (Or.inl ⟨by simp [hslash, hu], hnone, hinterface hpadded _⟩)
  | @qualified before rest hbefore hrest =>
    have hslash : slash ∉ rest := hname.notMem hrest (by decide) (by decide)
    rw [List.append_assoc, List.cons_append]
    refine splitItem_eq_ok.mpr (Or.inr ⟨before, rest ++ u, rfl, ?_, by simp [hslash, hu], ?_, hinterface hrest _⟩)
    · exact hns.notMem hbefore (by decide) (by decide)
    · exact (Text.strip_eq_iff hns.isSolid).mpr hbefore

theorem splitItem_of_spellsItem (hr : r.WellFormed) (h : SpellsItem r t) :
    splitItem t = .ok (r.ns, r.name, r.interface) := by
  obtain ⟨hns, hname, hinterface⟩ := ofTokenPoints hr
  cases h with
  | bare hnetwork hnone =>
    rw [← List.append_nil t]
    refine splitItem_of_spellsNetwork hns hname hnetwork (List.not_mem_nil) fun hrest item => ?_
    rw [List.append_nil, hnone]
    exact splitInterface_bare hname hrest item
  | @attached network interface hnetwork hpadded =>
    have hslash : slash ∉ atSign :: interface :=
      List.not_mem_cons_of_ne_of_not_mem (by decide) (hinterface.notMem hpadded (by decide) (by decide))
    exact splitItem_of_spellsNetwork hns hname hnetwork hslash
      fun hrest item => splitInterface_attached hname hinterface hrest hpadded item

theorem spellsItem_of_splitItem (h : splitItem t = .ok (r.ns, r.name, r.interface)) : SpellsItem r t := by
  rcases splitItem_eq_ok.mp h with ⟨-, hns, hinterface⟩ | ⟨before, rest, rfl, -, -, hns, hinterface⟩
  · rcases splitInterface_eq_ok.mp hinterface with ⟨-, hname, hnone⟩ | ⟨front, back, rfl, -, -, hname, hback⟩
    · exact .bare (.bare hns (hname ▸ Text.padded_strip t)) hnone
    · exact .attached (.bare hns (hname ▸ Text.padded_strip front)) (hback ▸ Text.padded_strip back)
  · have hbefore : Padded r.ns before := hns ▸ Text.padded_strip before
    rcases splitInterface_eq_ok.mp hinterface with ⟨-, hname, hnone⟩ | ⟨front, back, rfl, -, -, hname, hback⟩
    · exact .bare (.qualified hbefore (hname ▸ Text.padded_strip rest)) hnone
    · have hnetwork : SpellsNetwork r.ns r.name (before ++ slash :: front) :=
        .qualified hbefore (hname ▸ Text.padded_strip front)
      rw [← List.cons_append, ← List.append_assoc]
      exact .attached hnetwork (hback ▸ Text.padded_strip back)

/-- An item is read as a reference exactly when it spells it. -/
theorem readItem_strip_eq_ok : readItem (Text.strip t) = .ok r ↔ SpellsItem r t ∧ r.WellFormed := by
  rw [readItem_eq_ok]
  constructor
  · rintro ⟨hsplit, hr⟩
    exact ⟨(spellsItem_of_splitItem hsplit).padded (Text.padded_strip t), hr⟩
  · rintro ⟨hspells, hr⟩
    exact ⟨splitItem_of_spellsItem hr (hspells.strip hr), hr⟩

end Separators

/-! ## Rows of items -/

/-- A row is read as the references that its items spell. -/
theorem readItems_eq_ok {raw : Text} (hne : raw ≠ []) {references : List Reference} :
    readItems raw = .ok references ↔ SpellsRow raw references := by
  have hread : ∀ items : List Text, items.mapM (fun item => readItem (Text.strip item)) = .ok references ↔
      List.Forall₂ (fun item r => SpellsItem r item ∧ r.WellFormed) items references := by
    intro items
    rw [mapM_eq_ok]
    simp only [readItem_strip_eq_ok]
  constructor
  · intro h
    exact ⟨raw.splitOn comma, (List.intercalate_splitOn comma).symm, (hread _).mp h⟩
  · rintro ⟨items, rfl, hitems⟩
    have hmap := (hread items).mpr hitems
    have hitemsNe : items ≠ [] := by
      rintro rfl
      exact hne rfl
    -- no item holds a comma, so the row is cut where it was joined
    have hfree : ∀ item ∈ items, comma ∉ item := by
      intro item hitem
      obtain ⟨r, -, hread⟩ := (matched_of_mapM hmap).1 item hitem
      obtain ⟨hspells, hr⟩ := readItem_strip_eq_ok.mp hread
      exact hspells.notMem hr (by decide) (by decide) (by decide) (by decide)
    have hsplit : (Text.join "," items).splitOn (.ofChar ',') = items :=
      (Text.splitOn_eq_iff hitemsNe).mpr ⟨hfree, rfl⟩
    unfold readItems
    rw [hsplit]
    exact hmap

/-- There is no mark of the long form in an item. -/
theorem isJson_of_spellsItem {item : Text} {r : Reference} (h : SpellsItem r item) (hr : r.WellFormed) :
    isJson item = false := by
  refine List.any_eq_false.mpr fun c hc hmark => ?_
  simp only [Bool.or_eq_true, decide_eq_true_eq] at hmark
  rcases hmark with (rfl | rfl) | rfl
  · exact h.notMem hr (by decide) (by decide) (by decide) (by decide) hc
  · exact h.notMem hr (by decide) (by decide) (by decide) (by decide) hc
  · exact h.notMem hr (by decide) (by decide) (by decide) (by decide) hc

theorem isJson_of_row {raw : Text} {references : List Reference} (h : SpellsRow raw references) :
    isJson raw = false := by
  obtain ⟨items, rfl, hitems⟩ := h
  rw [isJson_join]
  induction hitems with
  | nil => rfl
  | cons hread _ ih => rw [List.any_cons, isJson_of_spellsItem hread.1 hread.2, ih, Bool.or_false]

theorem parse_of_row [Nesting] {raw : Text} (hne : raw ≠ []) {references : List Reference}
    (h : SpellsRow raw references) (ns : Text) : parse raw ns = .ok (references.map fun r => r.inNamespace ns) :=
  (parse_short (isJson_of_row h)).mpr ⟨hne, references, (readItems_eq_ok hne).mpr h, rfl⟩

/-! ## What else can come of an item -/

/-- An item that stands for no reference is turned down for its form or for what is no token in it. -/
theorem reason_of_readItem {item : Text} {e : Error} (h : readItem item = .error e) :
    e.reason = .ok .invalidObjectName ∨ e.reason = .ok .invalidToken := by
  have hinterface : ∀ {rest}, splitInterface item rest = .error e → e.reason = .ok .invalidObjectName := by
    intro rest h
    unfold splitInterface at h
    split at h
    · exact nomatch h
    · exact nomatch h
    · obtain rfl := Except.error.inj h
      rfl
  have hchecked : ∀ {ns name interface}, checked ns name interface = .error e → e.reason = .ok .invalidToken := by
    intro ns name interface h
    unfold checked at h
    split at h
    · obtain rfl := Except.error.inj h
      rfl
    · exact nomatch h
  unfold readItem at h
  split at h
  · rename_i hsplit
    obtain rfl := Except.error.inj h
    unfold splitItem at hsplit
    split at hsplit
    · exact Or.inl (hinterface (error_of_map hsplit))
    · exact Or.inl (hinterface (error_of_map hsplit))
    · obtain rfl := Except.error.inj hsplit
      exact Or.inl rfl
  · split at h
    · obtain rfl := Except.error.inj h
      exact Or.inl rfl
    · exact Or.inr (hchecked h)

/-- **The short form is read exactly by its grammar.**  An annotation without brackets, braces and double quotes is read
as the references of a row of items, those that name no namespace in the given one, if it is such a row.  If it is none,
it is turned down, as a bad name of an object or for something that is no token. -/
theorem parse_eq_ok_iff_row [Nesting] {raw : Text} (hne : raw ≠ []) (hshort : ∀ c ∈ raw, c ≠ '[' ∧ c ≠ '{' ∧ c ≠ '"')
    (ns : Text) :
    (∀ references, parse raw ns = .ok references ↔
      ∃ asWritten, SpellsRow raw asWritten ∧ references = asWritten.map fun r => r.inNamespace ns) ∧
    ((¬∃ references, SpellsRow raw references) →
      ∃ e, parse raw ns = .error e ∧ (e.reason = .ok .invalidObjectName ∨ e.reason = .ok .invalidToken)) := by
  have hjson : ¬isJson raw = true := by
    intro hlong
    obtain ⟨c, hc, hmark⟩ := List.any_eq_true.mp hlong
    simp [hshort c hc] at hmark
  have hwritten : ∀ asWritten, written raw = .ok asWritten ↔ SpellsRow raw asWritten := by
    intro asWritten
    rw [written, if_neg hjson]
    exact readItems_eq_ok hne
  constructor
  · intro references
    rw [parse_eq_ok]
    simp only [hwritten]
    exact and_iff_right hne
  · intro hnone
    cases hrow : readItems raw with
    | ok asWritten => exact absurd ⟨asWritten, (readItems_eq_ok hne).mp hrow⟩ hnone
    | error e =>
      refine ⟨e, ?_, ?_⟩
      · rw [parse, if_neg (mt List.isEmpty_iff.mp hne), if_neg hjson, hrow]
        rfl
      · obtain ⟨item, -, hitem⟩ := error_of_mapM hrow
        exact reason_of_readItem hitem

/-- A row of two items, the second of which has an empty namespace, and an item with a slash too many. -/
theorem parse_eq_ok_iff_row_of_two_items :
    let raw : Text := " ns1 / net-a @eth1\t,/net-b@"
    let other : Text := "ns1/net-a/eth1"
    (∃ asWritten, SpellsRow raw asWritten ∧
      [⟨"net-a", "ns1", "eth1"⟩, ⟨"net-b", "default", []⟩] =
        asWritten.map fun r => r.inNamespace "default") ∧
    (¬∃ references, SpellsRow other references) ∧
    ∃ e, parse other "default" = .error e ∧ (e.reason = .ok .invalidObjectName ∨ e.reason = .ok .invalidToken) := by
  intro raw other
  have hraw := @parse_eq_ok_iff_row _ raw (by decide) (by decide) "default"
  have hother := @parse_eq_ok_iff_row _ other (by decide) (by decide) "default"
  have hread : parse raw "default" = .ok [⟨"net-a", "ns1", "eth1"⟩, ⟨"net-b", "default", []⟩] := by decide +kernel
  have hrefused : parse other "default" = .error (.slashes other) := by decide +kernel
  have hnone : ¬∃ references, SpellsRow other references := by
    rintro ⟨references, hrow⟩
    exact nomatch hrefused.symm.trans ((hother.1 _).mpr ⟨references, hrow, rfl⟩)
  exact ⟨(hraw.1 _).mp hread, hnone, hother.2 hnone⟩

end NetAttach.Selection
