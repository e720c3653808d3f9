/-
  The name that is filled in.

  Before a configuration is looked at, it is given the name of its attachment if it has none.  This is the only change
  (`filter_fillName`), and a second time nothing is left to change (`fillName_fillName`).

  What the configuration is classified by does not depend on the name that is filled in: only two things are asked of
  a name, that it is a text and, in a list, that there is one, and every name that is filled in is both.  A
  configuration that can do without a name is classified alike with one.  The converse does not hold, since what is
  filled in may stand in the place of a name that is no text.

  Structure:
  1. what is filled in, and where;
  2. `SameButName`: two configurations differ in their names only; then the same is found in them if the same is found
     in their names (`SameButName.checkedTypes`);
  3. `classify_of_filled_name`, from comparing the configurations with the names filled in.
-/
import NetAttach.Proofs.Cni.Depth

namespace NetAttach

/-- Setting a key leaves the other entries as they are, and in their order. -/
theorem Entries.filter_put (entries : Entries) (key : Text) (v : Value) :
    (entries.put (.text key) v).filter (fun e => e.1 ≠ .text key) = entries.filter fun e => e.1 ≠ .text key := by
  induction entries with
  | nil => simp [put]
  | cons e rest ih =>
    by_cases hsame : e.1 = .text key
    · rw [put, if_pos (Scalar.same_text_iff.mpr hsame), List.filter_cons_of_neg (by simp [hsame]),
        List.filter_cons_of_neg (by simp [hsame])]
    · rw [put, if_neg (mt Scalar.same_text_iff.mp hsame), List.filter_cons_of_pos (by simp [hsame]), ih,
        List.filter_cons_of_pos (by simp [hsame])]

namespace Cni

/-! ## What is filled in -/

/-- The name is filled in exactly when there is one to fill in and the configuration has none. -/
theorem fillName_cases (conf : Entries) (name : Text) :
    ((name = [] ∨ (conf.field "name").truth = true) ∧ fillName conf name = conf) ∨
      name ≠ [] ∧ (conf.field "name").truth = false ∧ fillName conf name = conf.put (.text "name") (.text name) := by
  unfold fillName
  by_cases hname : name = []
  · subst hname
    exact Or.inl ⟨Or.inl rfl, rfl⟩
  · cases htruth : (conf.field "name").truth with
    | true => exact Or.inl ⟨Or.inr rfl, by simp⟩
    | false => exact Or.inr ⟨hname, rfl, by simp [hname]⟩

theorem fillName_of_truth {conf : Entries} (h : (conf.field "name").truth = true) (name : Text) :
    fillName conf name = conf := by
  rcases fillName_cases conf name with ⟨-, heq⟩ | ⟨-, hfalse, -⟩
  · exact heq
  · exact nomatch h.symm.trans hfalse

theorem truth_text {t : Text} (ht : t ≠ []) : (Value.text t).truth = true := by
  simpa [Value.truth, Scalar.truth] using ht

/-- With a name to fill in, there is a name afterwards. -/
theorem truth_fillName (conf : Entries) {name : Text} (hname : name ≠ []) :
    ((fillName conf name).field "name").truth = true := by
  rcases fillName_cases conf name with ⟨hnil | htruth, heq⟩ | ⟨-, -, heq⟩
  · exact absurd hnil hname
  · rw [heq]
    exact htruth
  · rw [heq, Entries.field_put, if_pos rfl]
    exact truth_text hname

theorem get?_fillName (conf : Entries) (name : Text) {field : Text} (hne : Text.ofString "name" ≠ field) :
    (fillName conf name).get? field = conf.get? field := by
  rcases fillName_cases conf name with ⟨-, heq⟩ | ⟨-, -, heq⟩
  · rw [heq]
  · rw [heq, Entries.get?_put, if_neg hne]

/-- Nothing but the name is touched. -/
theorem filter_fillName (conf : Entries) (name : Text) :
    (fillName conf name).filter (fun e => e.1 ≠ .text "name") = conf.filter fun e => e.1 ≠ .text "name" := by
  rcases fillName_cases conf name with ⟨-, heq⟩ | ⟨-, -, heq⟩
  · rw [heq]
  · rw [heq, Entries.filter_put]

theorem fillName_fillName (conf : Entries) (name : Text) :
    fillName (fillName conf name) name = fillName conf name := by
  by_cases hname : name = []
  · subst hname
    rfl
  · exact fillName_of_truth (truth_fillName conf hname) name

/-! ## Configurations that differ in their names -/

/-- Two configurations agree on all fields but their names, and on whether these are texts. -/
structure SameButName (conf other : Entries) : Prop where
  get? : ∀ {field : Text}, Text.ofString "name" ≠ field → conf.get? field = other.get? field
  text : isTextOrNull (conf.field "name") = isTextOrNull (other.field "name")

namespace SameButName

variable {conf other : Entries}

theorem field (h : SameButName conf other) {field : Text} (hne : Text.ofString "name" ≠ field) :
    conf.field field = other.field field := by
  rw [Entries.field, Entries.field, h.get? hne]

theorem plugins? (h : SameButName conf other) : plugins? conf = Cni.plugins? other := by
  have hget : conf.get? "plugins" = other.get? "plugins" := h.get? (by decide)
  unfold Cni.plugins?
  rw [hget]

theorem checkPlugin (h : SameButName conf other) (place : Place) :
    checkPlugin conf place = Cni.checkPlugin other place := by
  have htype : conf.field "type" = other.field "type" := h.field (by decide)
  have hversion : conf.field "cniVersion" = other.field "cniVersion" := h.field (by decide)
  have hcapabilities : conf.field "capabilities" = other.field "capabilities" := h.field (by decide)
  have hipam : conf.field "ipam" = other.field "ipam" := h.field (by decide)
  have hdns : conf.field "dns" = other.field "dns" := h.field (by decide)
  unfold Cni.checkPlugin checkText
  rw [h.text, htype, hversion, hcapabilities, hipam, hdns]

theorem checkList (h : SameButName conf other)
    (hnamed : (conf.field "name").truth = (other.field "name").truth) (plugins : List Value) :
    checkList conf plugins = Cni.checkList other plugins := by
  have hversion : conf.field "cniVersion" = other.field "cniVersion" := h.field (by decide)
  have hswitch : conf.field "disableCheck" = other.field "disableCheck" := h.field (by decide)
  unfold Cni.checkList checkText
  rw [h.text, hnamed, hversion, hswitch]

/-- The same comes of both; in lists it also has to be the same whether there is a name. -/
theorem checkedTypes (h : SameButName conf other)
    (hnamed : isList conf = true → (conf.field "name").truth = (other.field "name").truth) :
    checkedTypes conf = Cni.checkedTypes other := by
  have hshape : checkShape conf = checkShape other := by
    unfold checkShape
    rw [← h.plugins?]
    cases hlist : Cni.plugins? conf with
    | none => exact h.checkPlugin .single
    | some plugins => exact h.checkList (hnamed (by rw [isList, hlist]; rfl)) plugins
  have htypes : pluginTypes conf = pluginTypes other := by
    have htype : conf.field "type" = other.field "type" := h.field (by decide)
    unfold pluginTypes pluginType
    rw [h.plugins?, htype]
  rw [Cni.checkedTypes, Cni.checkedTypes, hshape, htypes]

end SameButName

theorem sameButName_put (conf : Entries) {v : Value} (hv : isTextOrNull v = isTextOrNull (conf.field "name")) :
    SameButName (conf.put (.text "name") v) conf where
  get? hne := by rw [Entries.get?_put, if_neg hne]
  text := by rw [Entries.field_put, if_pos rfl, hv]

/-! ## The name and the types -/

/-- It does not matter which name is filled in. -/
theorem checkedTypes_fillName (conf : Entries) {name other : Text} (hname : name ≠ []) (hother : other ≠ []) :
    checkedTypes (fillName conf name) = checkedTypes (fillName conf other) := by
  rcases fillName_cases conf name with ⟨hnil | htruth, -⟩ | ⟨-, hfalse, heq⟩
  · exact absurd hnil hname
  · rw [fillName_of_truth htruth, fillName_of_truth htruth]
  · rcases fillName_cases conf other with ⟨hnil | htruth, -⟩ | ⟨-, -, heq'⟩
    · exact absurd hnil hother
    · exact nomatch htruth.symm.trans hfalse
    · rw [heq, heq']
      -- both are the same configuration with one text or the other as its name
      have hfield : ∀ t : Text, (conf.put (.text "name") (.text t)).field "name" = .text t := by
        intro t
        rw [Entries.field_put, if_pos rfl]
      refine SameButName.checkedTypes ⟨fun hne => ?_, ?_⟩ fun _ => ?_
      · rw [Entries.get?_put, if_neg hne, Entries.get?_put, if_neg hne]
      · rw [hfield, hfield]
        rfl
      · rw [hfield, hfield, truth_text hname, truth_text hother]

/-- What can do without a name is classified alike with one. -/
theorem checkedTypes_fillName_of_ok {conf : Entries} {types : List Scalar} (h : checkedTypes conf = .ok types)
    (name : Text) : checkedTypes (fillName conf name) = .ok types := by
  rcases fillName_cases conf name with ⟨-, heq⟩ | ⟨-, hfalse, heq⟩
  · rw [heq]
    exact h
  · have hshape : checkShape conf = .ok () := by
      unfold checkedTypes at h
      cases hcheck : checkShape conf with
      | error fault =>
        rw [hcheck] at h
        exact nomatch h
      | ok u => rfl
    unfold checkShape at hshape
    cases hlist : plugins? conf with
    | some plugins =>
      -- a list without a name would not have passed
      rw [hlist] at hshape
      exact nomatch (checkList_eq_ok.mp hshape).named.symm.trans hfalse
    | none =>
      rw [hlist] at hshape
      have hname : isTextOrNull (conf.field "name") = true := (checkPlugin_eq_ok.mp hshape).name
      have hsame : SameButName (conf.put (.text "name") (.text name)) conf := sameButName_put conf hname.symm
      have hsingle : ¬isList (conf.put (.text "name") (.text name)) = true := by
        rw [isList, hsame.plugins?, hlist]
        decide
      rw [heq, hsame.checkedTypes fun hlist => absurd hlist hsingle]
      exact h

/-- **Filling in the name does not change what a configuration is classified by.**  A text that is classified without
a name to fill in is classified by the same types with any; with two names to fill in, the same comes of it, be it
types or an error.  Of the configuration nothing but the name is touched, so that all other entries are the same and
in the same order, and once filled in a name stays; a copy that there is room for is the configuration with its name
filled in.  What is handed in is a value, and it is there afterwards as it was before. -/
theorem classify_of_filled_name [Nesting] :
    (∀ (config name : Text) (types : List Scalar), classify config [] = .ok types → classify config name = .ok types) ∧
    (∀ config name other : Text, name ≠ [] → other ≠ [] → classify config name = classify config other) ∧
    ∀ (conf : Entries) (name : Text),
      (fillName conf name).filter (fun e => e.1 ≠ .text "name") = conf.filter (fun e => e.1 ≠ .text "name") ∧
        fillName (fillName conf name) name = fillName conf name ∧
        ∀ copy, preprocess conf name = .ok copy → copy = fillName conf name := by
  refine ⟨fun config name types h => ?_, fun config name other hname hother => ?_, fun conf name => ?_⟩
  · by_cases hempty : config = []
    · subst hempty
      exact h
    · rw [classify_of_ne_nil hempty] at h ⊢
      cases hload : load config with
      | error e =>
        rw [prepare_of_load_error hload] at h
        cases h
      | ok conf =>
        rw [prepare_of_load hload] at h ⊢
        by_cases hcopy : Nesting.copy < (Value.mapping conf).copyCalls
        · rw [preprocess, if_pos hcopy] at h
          cases h
        · rw [preprocess, if_neg hcopy] at h ⊢
          exact checkedTypes_fillName_of_ok h name
  · by_cases hempty : config = []
    · subst hempty
      rfl
    · rw [classify_of_ne_nil hempty, classify_of_ne_nil hempty]
      cases hload : load config with
      | error e => rw [prepare_of_load_error hload, prepare_of_load_error hload]
      | ok conf =>
        rw [prepare_of_load hload, prepare_of_load hload]
        by_cases hcopy : Nesting.copy < (Value.mapping conf).copyCalls
        · rw [preprocess, preprocess, if_pos hcopy, if_pos hcopy]
        · rw [preprocess, preprocess, if_neg hcopy, if_neg hcopy]
          exact checkedTypes_fillName conf hname hother
  · refine ⟨filter_fillName conf name, fillName_fillName conf name, fun copy h => ?_⟩
    unfold preprocess at h
    split at h
    · cases h
    · exact (Except.ok.inj h).symm

/-- A configuration whose name is empty. -/
theorem classify_of_filled_name_of_two_names :
    let config : Text := "\x7b\"name\": \"\", \"type\": \"bridge\"\x7d"
    classify config "net-a" = .ok [.text "bridge"] ∧ classify config "net-b" = classify config "net-a" := by
  intro config
  obtain ⟨hkept, hsame, -⟩ := classify_of_filled_name
  have hbare : classify config [] = .ok [.text "bridge"] := by decide +kernel
  exact ⟨hkept config "net-a" _ hbare, hsame config "net-b" "net-a" (by decide) (by decide)⟩

end Cni

end NetAttach
