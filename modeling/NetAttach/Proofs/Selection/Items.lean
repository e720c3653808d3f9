/-
  The items of the short form.

  An item of an annotation is itself an annotation, of one item.  The references of an annotation are those of its items
  (`mem_iff_of_parse`), whatever their order.  Items that can be read alone can be read together as well, in any order
  and as often as one likes (`parse_join`).
-/
import NetAttach.Proofs.Selection.Named

namespace NetAttach.Selection

/-! ## The form of an item -/

theorem isJson_append (t u : Text) : isJson (t ++ u) = (isJson t || isJson u) := List.any_append

/-- Joined items are of the long form if one of them is. -/
theorem isJson_join (items : List Text) : isJson (Text.join "," items) = items.any isJson := by
  induction items with
  | nil => rfl
  | cons item rest ih =>
    cases rest with
    | nil => simp [Text.join]
    | cons next rest =>
      have hjoin : Text.join "," (item :: next :: rest) = item ++ "," ++ Text.join "," (next :: rest) :=
        List.intercalate_cons_cons
      have hcomma : isJson "," = false := by decide
      rw [List.any_cons, ← ih, hjoin, isJson_append, isJson_append, hcomma, Bool.or_false]

variable {raw item ns : Text}

theorem isJson_of_mem_splitOn (hshort : isJson raw = false) (hitem : item ∈ raw.splitOn comma) :
    isJson item = false := by
  have hjoin : Text.join "," (raw.splitOn comma) = raw := List.intercalate_splitOn comma
  rw [← hjoin, isJson_join] at hshort
  exact Bool.eq_false_iff.mpr (List.any_eq_false.mp hshort item hitem)

/-! ## The references of items -/

theorem parse_short [Nesting] (hshort : isJson raw = false) {references : List Reference} :
    parse raw ns = .ok references ↔
      raw ≠ [] ∧ ∃ asWritten, readItems raw = .ok asWritten ∧ references = asWritten.map fun r => r.inNamespace ns := by
  have hjson : ¬isJson raw = true := Bool.eq_false_iff.mp hshort
  rw [parse_eq_ok, written, if_neg hjson]

/-- A single item is read as one reference. -/
theorem parse_item [Nesting] (hshort : isJson item = false) (hcomma : comma ∉ item) {r : Reference} :
    parse item ns = .ok [r] ↔ ∃ w, readItem (Text.strip item) = .ok w ∧ r = w.inNamespace ns := by
  have hsplit : item.splitOn (.ofChar ',') = [item] := Text.splitOn_eq_singleton.mpr ⟨rfl, hcomma⟩
  have hread : ∀ asWritten, readItems item = .ok asWritten ↔
      ∃ w, readItem (Text.strip item) = .ok w ∧ asWritten = [w] := by
    intro asWritten
    rw [readItems, hsplit, mapM_eq_ok, List.forall₂_cons_left_iff]
    simp only [List.forall₂_nil_left_iff]
    constructor
    · rintro ⟨w, rest, hw, rfl, rfl⟩
      exact ⟨w, hw, rfl⟩
    · rintro ⟨w, hw, rfl⟩
      exact ⟨w, [], hw, rfl, rfl⟩
  rw [parse_short hshort]
  constructor
  · rintro ⟨-, asWritten, hasWritten, hr⟩
    obtain ⟨w, hw, rfl⟩ := (hread asWritten).mp hasWritten
    exact ⟨w, hw, (List.cons.inj hr).1⟩
  · rintro ⟨w, hw, rfl⟩
    refine ⟨?_, [w], (hread [w]).mpr ⟨w, hw, rfl⟩, rfl⟩
    rintro rfl
    exact nomatch hw

/-- The references of an annotation are those of its items. -/
theorem mem_iff_of_parse [Nesting] (hshort : isJson raw = false) {references : List Reference}
    (h : parse raw ns = .ok references) {r : Reference} :
    r ∈ references ↔ ∃ item ∈ raw.splitOn comma, parse item ns = .ok [r] := by
  obtain ⟨-, asWritten, hread, rfl⟩ := (parse_short hshort).mp h
  obtain ⟨hofItem, hofReference⟩ := matched_of_mapM hread
  have hitem : ∀ item ∈ raw.splitOn comma,
      (parse item ns = .ok [r] ↔ ∃ w, readItem (Text.strip item) = .ok w ∧ r = w.inNamespace ns) :=
    fun item hmem => parse_item (isJson_of_mem_splitOn hshort hmem) (notMem_of_mem_splitOn hmem)
  rw [List.mem_map]
  constructor
  · rintro ⟨w, hw, rfl⟩
    obtain ⟨item, hmem, hreads⟩ := hofReference w hw
    exact ⟨item, hmem, (hitem item hmem).mpr ⟨w, hreads, rfl⟩⟩
  · rintro ⟨item, hmem, hreads⟩
    obtain ⟨w, hw, rfl⟩ := (hitem item hmem).mp hreads
    obtain ⟨v, hv, hsame⟩ := hofItem item hmem
    obtain rfl : w = v := Except.ok.inj (hw.symm.trans hsame)
    exact ⟨w, hv, rfl⟩

/-- Items that can be read can be read together. -/
theorem parse_join [Nesting] {items : List Text} (hne : items ≠ []) (hshort : ∀ item ∈ items, isJson item = false)
    (hcomma : ∀ item ∈ items, comma ∉ item) (hread : ∀ item ∈ items, ∃ r, parse item ns = .ok [r]) :
    ∃ references, parse (Text.join "," items) ns = .ok references ∧
      ∀ r, r ∈ references ↔ ∃ item ∈ items, parse item ns = .ok [r] := by
  have hsplit : (Text.join "," items).splitOn comma = items := (Text.splitOn_eq_iff hne).mpr ⟨hcomma, rfl⟩
  have hjson : isJson (Text.join "," items) = false := by
    rw [isJson_join]
    exact List.any_eq_false.mpr fun item hitem => Bool.eq_false_iff.mp (hshort item hitem)
  have hjoin : Text.join "," items ≠ [] := by
    intro hempty
    rw [hempty] at hsplit
    obtain rfl : items = [[]] := hsplit.symm
    obtain ⟨r, hr⟩ := hread [] (List.mem_singleton_self [])
    exact nomatch hr
  cases hitems : readItems (Text.join "," items) with
  | ok asWritten =>
    have hparse : parse (Text.join "," items) ns = .ok (asWritten.map fun r => r.inNamespace ns) :=
      (parse_short hjson).mpr ⟨hjoin, asWritten, hitems, rfl⟩
    refine ⟨_, hparse, fun r => ?_⟩
    rw [mem_iff_of_parse hjson hparse, hsplit]
  | error e =>
    obtain ⟨item, hitem, hrefused⟩ := error_of_mapM hitems
    have hitem : item ∈ items := hsplit ▸ hitem
    obtain ⟨r, hr⟩ := hread item hitem
    obtain ⟨w, hw, -⟩ := (parse_item (hshort item hitem) (hcomma item hitem)).mp hr
    exact nomatch hrefused.symm.trans hw

/-- Any items of an annotation that is read, in any order, make up an annotation that is read. -/
theorem parse_join_of_subset [Nesting] (hshort : isJson raw = false) {references : List Reference}
    (h : parse raw ns = .ok references) {items : List Text} (hne : items ≠ []) (hitems : items ⊆ raw.splitOn comma) :
    ∃ rest, parse (Text.join "," items) ns = .ok rest ∧
      ∀ r, r ∈ rest ↔ ∃ item ∈ items, parse item ns = .ok [r] := by
  obtain ⟨-, asWritten, hread, rfl⟩ := (parse_short hshort).mp h
  refine parse_join hne (fun item hitem => isJson_of_mem_splitOn hshort (hitems hitem))
    (fun item hitem => notMem_of_mem_splitOn (hitems hitem)) fun item hitem => ?_
  obtain ⟨w, -, hw⟩ := (matched_of_mapM hread).1 item (hitems hitem)
  exact ⟨_, (parse_item (isJson_of_mem_splitOn hshort (hitems hitem)) (notMem_of_mem_splitOn (hitems hitem))).mpr
    ⟨w, hw, rfl⟩⟩

end NetAttach.Selection
