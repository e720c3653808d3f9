/-
  The types that a configuration is classified by.

  Types are collected from decoded data of any shape, and a type that is a list or a mapping could not be a
  member of a set.  This never comes up, since the shape is checked first: the type of a well-shaped plugin is
  a text, or else it counts as left out.  So what is collected is a set of names, and the only thing that can
  still be wrong is that a plugin has no type.

  Structure:
  1. `NameSet`: different texts, none of them empty; kept when a type is added (`NameSet.addType`);
  2. `collectTypes_cases`: what comes of the plugins of a list, by induction with `NameSet` as the invariant;
  3. `checkedTypes_cases`: what comes of any configuration.
-/
import NetAttach.Proofs.Cni.Shape

namespace NetAttach

/-- The reason is that a name or a configuration does not have the required shape. -/
def Reason.isValidation : Reason → Bool
  | validation | invalidName | notJson | invalidConfig | missingPluginType | invalidShape | crossNamespace =>
    true
  | _ => false

namespace Cni

/-! ## Sets of names -/

/-- The types are a set of texts that are not empty. -/
structure NameSet (types : List Scalar) : Prop where
  nodup : types.Nodup
  named : ∀ x ∈ types, ∃ t : Text, t ≠ [] ∧ x = .text t

theorem nameSet_nil : NameSet [] := ⟨List.nodup_nil, fun _ h => nomatch h⟩

theorem same_text (s t : Text) : Scalar.same (.text s) (.text t) = decide (s = t) := rfl

/-- Whether a text is among names is found out by comparing. -/
theorem NameSet.any_same {types : List Scalar} (h : NameSet types) (t : Text) :
    (types.any fun s => s.same (.text t)) = true ↔ .text t ∈ types := by
  rw [List.any_eq_true]
  constructor
  · rintro ⟨x, hx, hsame⟩
    obtain ⟨s, -, rfl⟩ := h.named x hx
    obtain rfl : s = t := of_decide_eq_true ((same_text s t).symm.trans hsame)
    exact hx
  · intro hx
    exact ⟨.text t, hx, (same_text t t).trans (decide_eq_true rfl)⟩

theorem NameSet.addType {types : List Scalar} (h : NameSet types) {t : Text} (ht : t ≠ []) :
    NameSet (addType types (.text t)) := by
  unfold Cni.addType
  by_cases hmem : .text t ∈ types
  · rw [if_pos ((h.any_same t).mpr hmem)]
    exact h
  · rw [if_neg (mt (h.any_same t).mp hmem)]
    refine ⟨?_, fun x hx => ?_⟩
    · refine List.nodup_append.mpr ⟨h.nodup, List.nodup_singleton _, fun x hx y hy => ?_⟩
      obtain rfl := List.mem_singleton.mp hy
      rintro rfl
      exact hmem hx
    · rcases List.mem_append.mp hx with hx | hx
      · exact h.named x hx
      · exact ⟨t, ht, List.mem_singleton.mp hx⟩

theorem NameSet.mem_addType {types : List Scalar} (h : NameSet types) {t : Text} {x : Scalar} :
    x ∈ Cni.addType types (.text t) ↔ x ∈ types ∨ x = .text t := by
  unfold Cni.addType
  by_cases hmem : .text t ∈ types
  · rw [if_pos ((h.any_same t).mpr hmem)]
    constructor
    · exact Or.inl
    · rintro (hx | rfl)
      · exact hx
      · exact hmem
  · rw [if_neg (mt (h.any_same t).mp hmem), List.mem_append, List.mem_singleton]

/-! ## Types of plugins -/

theorem eq_null_or_text_of_isTextOrNull {v : Value} (h : isTextOrNull v = true) :
    v = .null ∨ ∃ t : Text, v = .text t := by
  unfold isTextOrNull at h
  split at h
  · exact Or.inl rfl
  · rename_i t
    exact Or.inr ⟨t, rfl⟩
  · exact nomatch h

/-- The plugin has a type: a text that is not empty. -/
def HasType (plugin : Entries) : Prop := ∃ t : Text, t ≠ [] ∧ plugin.field "type" = .text t

/-- One of the plugins has the type `x`. -/
def TypeIn (plugins : List Value) (x : Scalar) : Prop :=
  ∃ plugin : Entries, .mapping plugin ∈ plugins ∧ plugin.field "type" = .scalar x

/-- The type of a well-shaped plugin is a text that is not empty, or it is missing. -/
theorem pluginType_cases {plugin : Entries} (h : WellShaped plugin) (place : Place) :
    (¬HasType plugin ∧ pluginType plugin place = .error (.missingType place)) ∨
      ∃ t : Text, t ≠ [] ∧ plugin.field "type" = .text t ∧ pluginType plugin place = .ok (.text t) := by
  unfold pluginType HasType
  rcases eq_null_or_text_of_isTextOrNull h.type with hnull | ⟨t, ht⟩
  · rw [hnull]
    refine Or.inl ⟨?_, rfl⟩
    rintro ⟨t, -, ht⟩
    exact nomatch ht
  · rw [ht]
    cases t with
    | nil =>
      refine Or.inl ⟨?_, rfl⟩
      rintro ⟨t, hne, ht⟩
      injection ht with hscalar
      injection hscalar with hnil
      exact hne hnil.symm
    | cons c rest => exact Or.inr ⟨c :: rest, List.cons_ne_nil c rest, rfl, rfl⟩

theorem typeIn_cons {plugin : Entries} {rest : List Value} {t : Text} (ht : plugin.field "type" = .text t)
    {x : Scalar} : TypeIn (.mapping plugin :: rest) x ↔ x = .text t ∨ TypeIn rest x := by
  unfold TypeIn
  constructor
  · rintro ⟨other, hmem, hx⟩
    rcases List.mem_cons.mp hmem with hfirst | hrest
    · obtain rfl : other = plugin := Value.mapping.inj hfirst
      exact Or.inl (Value.scalar.inj (hx.symm.trans ht))
    · exact Or.inr ⟨other, hrest, hx⟩
  · rintro (rfl | ⟨other, hrest, hx⟩)
    · exact ⟨plugin, List.mem_cons_self, ht⟩
    · exact ⟨other, List.mem_cons_of_mem _ hrest, hx⟩

/-- From well-shaped plugins the types of all of them are collected, as a set of names, unless one of them has no
type. -/
theorem collectTypes_cases {plugins : List Value} (hplugins : AllWellShaped plugins) {types : List Scalar}
    (htypes : NameSet types) (index : Nat) :
    (∃ place, collectTypes types index plugins = .error (.missingType place) ∧
        ∃ plugin, .mapping plugin ∈ plugins ∧ ¬HasType plugin) ∨
      ∃ all, collectTypes types index plugins = .ok all ∧ NameSet all ∧
        (∀ plugin, .mapping plugin ∈ plugins → HasType plugin) ∧ ∀ x, x ∈ all ↔ x ∈ types ∨ TypeIn plugins x := by
  induction plugins generalizing types index with
  | nil =>
    refine Or.inr ⟨types, rfl, htypes, fun _ h => (nomatch h), fun x => ⟨Or.inl, ?_⟩⟩
    rintro (hx | ⟨_, h, -⟩)
    · exact hx
    · exact nomatch h
  | cons v rest ih =>
    obtain ⟨⟨plugin, rfl, hplugin⟩, hrest⟩ := allWellShaped_cons.mp hplugins
    rcases pluginType_cases hplugin (.plugin index) with ⟨huntyped, hmissing⟩ | ⟨t, ht, hfield, hok⟩
    · refine Or.inl ⟨.plugin index, ?_, plugin, List.mem_cons_self, huntyped⟩
      simp only [collectTypes, hmissing]
      rfl
    · have hstep : collectTypes types index (.mapping plugin :: rest) =
          collectTypes (addType types (.text t)) (index + 1) rest := by
        simp only [collectTypes, hok]
        rfl
      rw [hstep]
      rcases ih hrest (htypes.addType ht) (index + 1) with
        ⟨place, hmissing, other, hother, huntyped⟩ | ⟨all, hall, hset, htyped, hmem⟩
      · exact Or.inl ⟨place, hmissing, other, List.mem_cons_of_mem _ hother, huntyped⟩
      · refine Or.inr ⟨all, hall, hset, fun other hother => ?_, fun x => ?_⟩
        · rcases List.mem_cons.mp hother with hfirst | hlater
          · obtain rfl : other = plugin := Value.mapping.inj hfirst
            exact ⟨t, ht, hfield⟩
          · exact htyped other hlater
        · rw [hmem x, htypes.mem_addType, typeIn_cons hfield, or_assoc]

/-! ## Configurations -/

/-- A configuration has a fault of shape, or a plugin without a type, or it is classified by names, of which
there is at least one. -/
theorem checkedTypes_cases (conf : Entries) :
    (∃ fault, checkedTypes conf = .error (.shape fault)) ∨
      (∃ place, checkedTypes conf = .error (.missingType place)) ∨
      ∃ types, checkedTypes conf = .ok types ∧ NameSet types ∧ types ≠ [] := by
  unfold checkedTypes
  cases hshape : checkShape conf with
  | error fault => exact Or.inl ⟨fault, rfl⟩
  | ok u =>
    refine Or.inr ?_
    simp only
    unfold checkShape at hshape
    unfold pluginTypes
    cases hlist : plugins? conf with
    | some plugins =>
      rw [hlist] at hshape
      have hwell : WellShapedList conf plugins := checkList_eq_ok.mp hshape
      rcases collectTypes_cases hwell.plugins nameSet_nil 0 with ⟨place, hmissing, -⟩ | ⟨types, hok, hset, htyped, hmem⟩
      · exact Or.inl ⟨place, hmissing⟩
      · obtain ⟨v, hv⟩ := List.exists_mem_of_ne_nil plugins hwell.nonempty
        obtain ⟨plugin, rfl, -⟩ := hwell.plugins v hv
        obtain ⟨t, -, ht⟩ := htyped plugin hv
        exact Or.inr ⟨types, hok, hset, List.ne_nil_of_mem ((hmem (.text t)).mpr (Or.inr ⟨plugin, hv, ht⟩))⟩
    | none =>
      rw [hlist] at hshape
      rcases pluginType_cases (checkPlugin_eq_ok.mp hshape) .single with ⟨-, hmissing⟩ | ⟨t, ht, -, hok⟩
      · refine Or.inl ⟨.single, ?_⟩
        simp only [hmissing]
        rfl
      · refine Or.inr ⟨[.text t], ?_, ?_, List.cons_ne_nil _ _⟩
        · simp only [hok]
          rfl
        · refine ⟨List.nodup_singleton _, fun x hx => ?_⟩
          exact ⟨t, ht, List.mem_singleton.mp hx⟩

end Cni

end NetAttach
