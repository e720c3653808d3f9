/-
  The namespaces that an annotation names.

  A reference is put into the namespace of the pod unless it names one itself.  Whether it does is said here of
  the text of the annotation: in the short form an item names what stands before its slash, in the long form an
  object names what its field `namespace` holds (`Names`).  The references that are read agree with that
  (`names_iff_of_written`), whichever namespace they are put into otherwise.

  What is named is a token, if it is not empty (`ns_of_written`), so there are namespaces that no annotation
  can name.
-/
import NetAttach.Proofs.Selection.WellFormed
import NetAttach.Proofs.Text.Parts

namespace NetAttach.Selection

/-- What parts the items of the short form. -/
def comma : CodePoint := .ofChar ','

/-- What stands between the namespace and the name. -/
def slash : CodePoint := .ofChar '/'

/-- An item of the short form or an object of the long form names the namespace `ns`, which may be empty. -/
inductive Names [Nesting] (raw ns : Text) : Prop
  | item {item before rest : Text} (hshort : isJson raw = false) (hitem : item ∈ raw.splitOn comma)
      (hsplit : Text.strip item = before ++ slash :: rest) (hns : Text.strip before = ns) : Names raw ns
  | object {elements : List Value} {object : Entries} (hlong : isJson raw = true)
      (hread : Json.readWithin Nesting.selection raw = .ok (.list elements)) (hobject : .mapping object ∈ elements)
      (hns : object.get? "namespace" = some (.text ns)) : Names raw ns

/-- The references of an annotation as they are written, before those without a namespace are put into one. -/
def written [Nesting] (raw : Text) : Except Error (List Reference) := if isJson raw then readJson raw else readItems raw

theorem parse_eq_ok [Nesting] {raw ns : Text} {references : List Reference} :
    parse raw ns = .ok references ↔
      raw ≠ [] ∧ ∃ asWritten, written raw = .ok asWritten ∧
        references = asWritten.map fun r => r.inNamespace ns := by
  unfold parse written
  by_cases hempty : raw = []
  · subst hempty
    exact ⟨(nomatch ·), fun h => absurd rfl h.1⟩
  · rw [if_neg (mt List.isEmpty_iff.mp hempty), map_eq_ok]
    constructor
    · rintro ⟨asWritten, hread, rfl⟩
      exact ⟨hempty, asWritten, hread, rfl⟩
    · rintro ⟨-, asWritten, hread, rfl⟩
      exact ⟨asWritten, hread, rfl⟩

/-! ## The short form -/

/-- What stands before the interface. -/
def atSign : CodePoint := .ofChar '@'

theorem splitInterface_eq_ok {item rest name interface : Text} :
    splitInterface item rest = .ok (name, interface) ↔
      (atSign ∉ rest ∧ Text.strip rest = name ∧ interface = []) ∨
        ∃ front back, rest = front ++ atSign :: back ∧ atSign ∉ front ∧ atSign ∉ back ∧
          Text.strip front = name ∧ Text.strip back = interface := by
  unfold splitInterface
  constructor
  · intro h
    split at h
    · rename_i part hparts
      obtain ⟨rfl, hat⟩ := Text.splitOn_eq_singleton.mp hparts
      obtain ⟨hname, hinterface⟩ := Prod.mk.inj (Except.ok.inj h)
      exact Or.inl ⟨hat, hname, hinterface.symm⟩
    · rename_i front back hparts
      obtain ⟨hrest, hfront, hback⟩ := Text.splitOn_eq_pair.mp hparts
      obtain ⟨hname, hinterface⟩ := Prod.mk.inj (Except.ok.inj h)
      exact Or.inr ⟨front, back, hrest, hfront, hback, hname, hinterface⟩
    · exact nomatch h
  · rintro (⟨hat, rfl, rfl⟩ | ⟨front, back, hrest, hfront, hback, rfl, rfl⟩)
    · have hparts : rest.splitOn (.ofChar '@') = [rest] := Text.splitOn_eq_singleton.mpr ⟨rfl, hat⟩
      rw [hparts]
    · have hparts : rest.splitOn (.ofChar '@') = [front, back] :=
        Text.splitOn_eq_pair.mpr ⟨hrest, hfront, hback⟩
      rw [hparts]

/-- The namespace of an item stands before its slash, and there is none if it has no slash. -/
theorem splitItem_eq_ok {item ns name interface : Text} :
    splitItem item = .ok (ns, name, interface) ↔
      (slash ∉ item ∧ ns = [] ∧ splitInterface item item = .ok (name, interface)) ∨
        ∃ before rest, item = before ++ slash :: rest ∧ slash ∉ before ∧ slash ∉ rest ∧
          Text.strip before = ns ∧ splitInterface item rest = .ok (name, interface) := by
  unfold splitItem
  constructor
  · intro h
    split at h
    · rename_i rest hparts
      obtain ⟨⟨n, i⟩, hinterface, heq⟩ := map_eq_ok.mp h
      obtain ⟨rfl, hslash⟩ := Text.splitOn_eq_singleton.mp hparts
      obtain ⟨hns, hrest⟩ := Prod.mk.inj heq
      exact Or.inl ⟨hslash, hns.symm, hrest ▸ hinterface⟩
    · rename_i before rest hparts
      obtain ⟨⟨n, i⟩, hinterface, heq⟩ := map_eq_ok.mp h
      obtain ⟨hitem, hbefore, hslash⟩ := Text.splitOn_eq_pair.mp hparts
      obtain ⟨hns, hrest⟩ := Prod.mk.inj heq
      exact Or.inr ⟨before, rest, hitem, hbefore, hslash, hns, hrest ▸ hinterface⟩
    · exact nomatch h
  · rintro (⟨hslash, rfl, hinterface⟩ | ⟨before, rest, hitem, hbefore, hslash, rfl, hinterface⟩)
    · have hparts : item.splitOn (.ofChar '/') = [item] := Text.splitOn_eq_singleton.mpr ⟨rfl, hslash⟩
      rw [hparts]
      exact map_eq_ok.mpr ⟨_, hinterface, rfl⟩
    · have hparts : item.splitOn (.ofChar '/') = [before, rest] :=
        Text.splitOn_eq_pair.mpr ⟨hitem, hbefore, hslash⟩
      rw [hparts]
      exact map_eq_ok.mpr ⟨_, hinterface, rfl⟩

theorem ns_of_readItem {item : Text} {r : Reference} (h : readItem item = .ok r) :
    (slash ∉ item ∧ r.ns = []) ∨
      ∃ before rest, item = before ++ slash :: rest ∧ slash ∉ before ∧ slash ∉ rest ∧
        r.ns = Text.strip before := by
  obtain ⟨hsplit, -⟩ := readItem_eq_ok.mp h
  rcases splitItem_eq_ok.mp hsplit with ⟨hslash, hns, -⟩ | ⟨before, rest, hitem, hbefore, hrest, hns, -⟩
  · exact Or.inl ⟨hslash, hns⟩
  · exact Or.inr ⟨before, rest, hitem, hbefore, hrest, hns.symm⟩

/-! ## The long form -/

/-- A field that is left out or null is as good as one that is empty. -/
theorem textField_eq_ok {object : Entries} {field t : Text} :
    textField object field = .ok t ↔
      object.get? field = some (.text t) ∨
        (t = [] ∧ (object.get? field = none ∨ object.get? field = some .null)) := by
  unfold textField
  constructor
  · intro h
    split at h
    · rename_i hget
      exact Or.inr ⟨(Except.ok.inj h).symm, Or.inl hget⟩
    · rename_i hget
      exact Or.inr ⟨(Except.ok.inj h).symm, Or.inr hget⟩
    · rename_i u hget
      obtain rfl := Except.ok.inj h
      exact Or.inl hget
    · exact nomatch h
  · rintro (htext | ⟨rfl, hnone | hnull⟩)
    · rw [htext]
    · rw [hnone]
    · rw [hnull]

theorem readJson_eq_ok [Nesting] {raw : Text} {references : List Reference} (h : readJson raw = .ok references) :
    ∃ elements, Json.readWithin Nesting.selection raw = .ok (.list elements) ∧
      elements.mapM readElement = .ok references := by
  unfold readJson at h
  split at h
  · exact nomatch h
  · exact nomatch h
  · exact nomatch h
  · rename_i elements hread
    exact ⟨elements, hread, h⟩
  · exact nomatch h

/-! ## Both forms -/

/-- All references of an annotation are well formed. -/
theorem wellFormed_of_written [Nesting] {raw : Text} {references : List Reference} (h : written raw = .ok references) :
    ∀ r ∈ references, r.WellFormed := by
  intro r hr
  unfold written at h
  split at h
  · obtain ⟨elements, -, hread⟩ := readJson_eq_ok h
    obtain ⟨v, -, hv⟩ := (matched_of_mapM hread).2 r hr
    obtain ⟨object, -, -, -, -, hwell⟩ := readElement_eq_ok.mp hv
    exact hwell
  · obtain ⟨item, -, hitem⟩ := (matched_of_mapM h).2 r hr
    exact (readItem_eq_ok.mp hitem).2

/-- A namespace that a reference has is a token. -/
theorem ns_of_written [Nesting] {raw : Text} {references : List Reference} (h : written raw = .ok references) :
    ∀ r ∈ references, r.ns = [] ∨ r.ns.isToken = true :=
  fun r hr => (wellFormed_of_written h r hr).ns.imp_right Text.isToken_iff.mpr

/-- The namespaces that the references have are those that the annotation names. -/
theorem names_iff_of_written [Nesting] {raw ns : Text} {references : List Reference} (h : written raw = .ok references)
    (hns : ns ≠ []) : Names raw ns ↔ ∃ r ∈ references, r.ns = ns := by
  unfold written at h
  constructor
  · intro hnames
    cases hnames with
    | @item item before rest hshort hitem hsplit hbefore =>
      rw [if_neg (by rw [hshort]; decide)] at h
      obtain ⟨r, hr, hread⟩ := (matched_of_mapM h).1 item hitem
      refine ⟨r, hr, ?_⟩
      rcases ns_of_readItem hread with ⟨hno, -⟩ | ⟨front, back, hcut, hfront, hback, hrns⟩
      · rw [hsplit] at hno
        exact absurd (List.mem_append_right before List.mem_cons_self) hno
      · -- where there is one slash, there is one way to cut at a slash
        obtain ⟨rfl, -, -⟩ := (List.append_cons_inj_of_notMem hfront hback).mp (hcut.symm.trans hsplit)
        exact hrns.trans hbefore
    | @object elements object hlong hread hobject hget =>
      rw [if_pos hlong] at h
      obtain ⟨others, hothers, hmap⟩ := readJson_eq_ok h
      obtain rfl : elements = others := Value.list.inj (Except.ok.inj (hread.symm.trans hothers))
      obtain ⟨r, hr, hv⟩ := (matched_of_mapM hmap).1 _ hobject
      refine ⟨r, hr, ?_⟩
      obtain ⟨same, hsame, -, hfield, -⟩ := readElement_eq_ok.mp hv
      obtain rfl : object = same := Value.mapping.inj hsame
      rcases textField_eq_ok.mp hfield with htext | ⟨-, hnone | hnull⟩
      · injection hget.symm.trans htext with hvalue
        injection hvalue with hscalar
        injection hscalar with hsame
        exact hsame.symm
      · exact nomatch hget.symm.trans hnone
      · exact nomatch hget.symm.trans hnull
  · rintro ⟨r, hr, rfl⟩
    by_cases hjson : isJson raw = true
    · rw [if_pos hjson] at h
      obtain ⟨elements, hread, hmap⟩ := readJson_eq_ok h
      obtain ⟨v, hv, hrv⟩ := (matched_of_mapM hmap).2 r hr
      obtain ⟨object, rfl, -, hfield, -⟩ := readElement_eq_ok.mp hrv
      rcases textField_eq_ok.mp hfield with htext | ⟨hempty, -⟩
      · exact .object hjson hread hv htext
      · exact absurd hempty hns
    · rw [if_neg hjson] at h
      obtain ⟨item, hitem, hread⟩ := (matched_of_mapM h).2 r hr
      rcases ns_of_readItem hread with ⟨-, hempty⟩ | ⟨before, rest, hcut, -, -, hbefore⟩
      · exact absurd hempty hns
      · exact .item (Bool.eq_false_iff.mpr hjson) hitem hcut hbefore.symm

end NetAttach.Selection
