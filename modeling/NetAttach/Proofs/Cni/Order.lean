/-
  The order of plugins.

  The plugins of a list are gone through twice, first for their shape and then for their types, and each time the
  first one that is at fault ends it.  Which one that is depends on the order of the list.  What is said in the end
  does not: if anything is at fault in the shape of the list, this is found before any type is looked at, and a type
  is reported missing only when nothing else is wrong.

  Structure:
  1. `ListVerdict`: what is said of a list, by what is wrong with it; the three cases exclude each other, so that they
     tell exactly when each is said (`listVerdict_checkedTypes`);
  2. none of the three depends on the order (`wellShapedList_put`), and hence the verdict does not
     (`sameVerdict_of_perm`).
-/
import NetAttach.Proofs.Cni.Types

namespace NetAttach.Cni

/-! ## What is said of a list -/

/-- Nothing that is said of the list as a whole is at fault. -/
structure WellShapedHead (conf : Entries) : Prop where
  name : isTextOrNull (conf.field "name") = true
  named : (conf.field "name").truth = true
  version : isTextOrNull (conf.field "cniVersion") = true
  switch : isSwitch (conf.field "disableCheck") = true

theorem wellShapedList_iff {conf : Entries} {plugins : List Value} :
    WellShapedList conf plugins ↔ WellShapedHead conf ∧ plugins ≠ [] ∧ AllWellShaped plugins := by
  constructor
  · intro h
    exact ⟨⟨h.name, h.named, h.version, h.switch⟩, h.nonempty, h.plugins⟩
  · rintro ⟨hhead, hnonempty, hplugins⟩
    exact ⟨hhead.name, hhead.named, hhead.version, hhead.switch, hnonempty, hplugins⟩

/-- Something is at fault in the whole or in one of the plugins, wherever it stands. -/
theorem not_wellShapedList_iff {conf : Entries} {plugins : List Value} :
    ¬WellShapedList conf plugins ↔
      ¬WellShapedHead conf ∨ plugins = [] ∨ ∃ v ∈ plugins, ∀ plugin, v = .mapping plugin → ¬WellShaped plugin := by
  rw [wellShapedList_iff, AllWellShaped]
  push Not
  rw [Classical.or_iff_not_imp_left, Classical.or_iff_not_imp_left, not_not]

/-- What comes of a list: a fault of its shape, or a type that is missing though its shape is right, or the set of all
types. -/
inductive ListVerdict (conf : Entries) (plugins : List Value) : Except Error (List Scalar) → Prop
  | malformed {fault : Fault} (h : ¬WellShapedList conf plugins) : ListVerdict conf plugins (.error (.shape fault))
  | untyped {place : Place} (h : WellShapedList conf plugins)
      (hmissing : ∃ plugin, .mapping plugin ∈ plugins ∧ ¬HasType plugin) :
      ListVerdict conf plugins (.error (.missingType place))
  | typed {types : List Scalar} (h : WellShapedList conf plugins)
      (htyped : ∀ plugin, .mapping plugin ∈ plugins → HasType plugin) (hset : NameSet types)
      (hmem : ∀ x, x ∈ types ↔ TypeIn plugins x) : ListVerdict conf plugins (.ok types)

theorem listVerdict_checkedTypes {conf : Entries} {plugins : List Value} (hlist : plugins? conf = some plugins) :
    ListVerdict conf plugins (checkedTypes conf) := by
  have hshape : checkShape conf = checkList conf plugins := by rw [checkShape, hlist]
  have htypes : pluginTypes conf = collectTypes [] 0 plugins := by rw [pluginTypes, hlist]
  unfold checkedTypes
  rw [hshape, htypes]
  cases hcheck : checkList conf plugins with
  | error fault =>
    refine .malformed fun hwell => ?_
    exact nomatch hcheck.symm.trans (checkList_eq_ok.mpr hwell)
  | ok u =>
    have hwell : WellShapedList conf plugins := checkList_eq_ok.mp hcheck
    simp only
    rcases collectTypes_cases hwell.plugins nameSet_nil 0 with
      ⟨place, hmissing, huntyped⟩ | ⟨types, hok, hset, htyped, hmem⟩
    · rw [hmissing]
      exact .untyped hwell huntyped
    · rw [hok]
      refine .typed hwell htyped hset fun x => (hmem x).trans ?_
      exact or_iff_right (List.not_mem_nil)

namespace ListVerdict

variable {conf : Entries} {plugins : List Value} {o : Except Error (List Scalar)}

theorem ok_iff (h : ListVerdict conf plugins o) :
    (∃ types, o = .ok types) ↔
      WellShapedList conf plugins ∧ ∀ plugin, .mapping plugin ∈ plugins → HasType plugin := by
  cases h with
  | malformed hwell => exact ⟨fun ⟨_, h⟩ => (nomatch h), fun h => absurd h.1 hwell⟩
  | untyped hwell hmissing =>
    obtain ⟨plugin, hmem, huntyped⟩ := hmissing
    exact ⟨fun ⟨_, h⟩ => (nomatch h), fun h => absurd (h.2 plugin hmem) huntyped⟩
  | @typed types hwell htyped => exact ⟨fun _ => ⟨hwell, htyped⟩, fun _ => ⟨types, rfl⟩⟩

theorem invalidShape_iff (h : ListVerdict conf plugins o) :
    (∃ e, o = .error e ∧ e.reason = .ok .invalidShape) ↔ ¬WellShapedList conf plugins := by
  cases h with
  | @malformed fault hwell => exact ⟨fun _ => hwell, fun _ => ⟨.shape fault, rfl, rfl⟩⟩
  | untyped hwell =>
    refine ⟨?_, absurd hwell⟩
    rintro ⟨e, he, hreason⟩
    obtain rfl := Except.error.inj he
    exact nomatch hreason
  | typed hwell => exact ⟨fun ⟨_, h, _⟩ => (nomatch h), absurd hwell⟩

theorem missingPluginType_iff (h : ListVerdict conf plugins o) :
    (∃ e, o = .error e ∧ e.reason = .ok .missingPluginType) ↔
      WellShapedList conf plugins ∧ ∃ plugin, .mapping plugin ∈ plugins ∧ ¬HasType plugin := by
  cases h with
  | malformed hwell =>
    refine ⟨?_, fun h => absurd h.1 hwell⟩
    rintro ⟨e, he, hreason⟩
    obtain rfl := Except.error.inj he
    exact nomatch hreason
  | @untyped place hwell hmissing => exact ⟨fun _ => ⟨hwell, hmissing⟩, fun _ => ⟨.missingType place, rfl, rfl⟩⟩
  | typed hwell htyped =>
    refine ⟨fun ⟨_, h, _⟩ => (nomatch h), ?_⟩
    rintro ⟨-, plugin, hmem, huntyped⟩
    exact absurd (htyped plugin hmem) huntyped

end ListVerdict

/-! ## Lists with the same plugins -/

/-- Two outcomes say the same: both are the same set of types, or both are errors of the same kind. -/
inductive SameVerdict : Except Error (List Scalar) → Except Error (List Scalar) → Prop
  | types {types others : List Scalar} (h : types.Perm others) : SameVerdict (.ok types) (.ok others)
  | error {e f : Error} {reason : Reason} (he : e.reason = .ok reason) (hf : f.reason = .ok reason) :
      SameVerdict (.error e) (.error f)

/-- Lists that are well shaped alike and hold the same plugins come to the same. -/
theorem ListVerdict.same {conf other : Entries} {plugins others : List Value} {o o' : Except Error (List Scalar)}
    (h : ListVerdict conf plugins o) (h' : ListVerdict other others o')
    (hwell : WellShapedList other others ↔ WellShapedList conf plugins) (hmem : ∀ v, v ∈ others ↔ v ∈ plugins) :
    SameVerdict o o' := by
  cases h with
  | malformed hbad =>
    cases h' with
    | malformed _ => exact .error rfl rfl
    | untyped hgood _ => exact absurd (hwell.mp hgood) hbad
    | typed hgood _ _ _ => exact absurd (hwell.mp hgood) hbad
  | untyped hgood hmissing =>
    obtain ⟨plugin, hplugin, huntyped⟩ := hmissing
    cases h' with
    | malformed hbad => exact absurd (hwell.mpr hgood) hbad
    | untyped _ _ => exact .error rfl rfl
    | typed _ htyped _ _ => exact absurd (htyped plugin ((hmem _).mpr hplugin)) huntyped
  | typed hgood htyped hset htypes =>
    cases h' with
    | malformed hbad => exact absurd (hwell.mpr hgood) hbad
    | untyped _ hmissing =>
      obtain ⟨plugin, hplugin, huntyped⟩ := hmissing
      exact absurd (htyped plugin ((hmem _).mp hplugin)) huntyped
    | typed _ _ hset' htypes' =>
      refine .types ((List.perm_ext_iff_of_nodup hset.nodup hset'.nodup).mpr fun x => ?_)
      rw [htypes x, htypes' x]
      unfold TypeIn
      simp only [hmem]

theorem plugins?_put (conf : Entries) (plugins : List Value) :
    plugins? (conf.put (.text "plugins") (.list plugins)) = some plugins := by
  unfold plugins?
  rw [Entries.get?_put, if_pos rfl]

/-- What is said of the list as a whole stands beside its plugins. -/
theorem wellShapedHead_put {conf : Entries} {v : Value} :
    WellShapedHead (conf.put (.text "plugins") v) ↔ WellShapedHead conf := by
  have hfield : ∀ field : Text, Text.ofString "plugins" ≠ field →
      (conf.put (.text "plugins") v).field field = conf.field field := by
    intro field hne
    rw [Entries.field_put, if_neg hne]
  have hname := hfield "name" (by decide)
  have hversion := hfield "cniVersion" (by decide)
  have hswitch := hfield "disableCheck" (by decide)
  constructor
  · rintro ⟨h₁, h₂, h₃, h₄⟩
    exact ⟨hname ▸ h₁, hname ▸ h₂, hversion ▸ h₃, hswitch ▸ h₄⟩
  · rintro ⟨h₁, h₂, h₃, h₄⟩
    exact ⟨hname.symm ▸ h₁, hname.symm ▸ h₂, hversion.symm ▸ h₃, hswitch.symm ▸ h₄⟩

/-- The shape of a list does not depend on the order of its plugins. -/
theorem wellShapedList_put {conf : Entries} {plugins others : List Value} (hperm : plugins.Perm others) {v : Value} :
    WellShapedList (conf.put (.text "plugins") v) others ↔ WellShapedList conf plugins := by
  have hnil : others = [] ↔ plugins = [] := by
    rw [← List.length_eq_zero_iff, ← List.length_eq_zero_iff, hperm.length_eq]
  have hall : AllWellShaped others ↔ AllWellShaped plugins := by
    unfold AllWellShaped
    simp only [hperm.mem_iff]
  rw [wellShapedList_iff, wellShapedList_iff, wellShapedHead_put, Ne, hnil, hall]

/-- **The order of plugins does not matter, and shape comes first.**  A list with its plugins in another order comes
to the same set of types, which is the set of the types of all its plugins, or to an error of the same kind.  It is a
fault of shape exactly when something is wrong with what is said of the list as a whole, or there are no plugins, or one
of them, wherever it stands, is no object or is not well shaped; it is a missing type exactly when none of this is so
and one of the plugins has no type. -/
theorem sameVerdict_of_perm {conf : Entries} {plugins others : List Value} (hlist : plugins? conf = some plugins)
    (hperm : plugins.Perm others) :
    SameVerdict (checkedTypes conf) (checkedTypes (conf.put (.text "plugins") (.list others))) ∧
    (∀ types, checkedTypes conf = .ok types → types.Nodup ∧ ∀ x, x ∈ types ↔ TypeIn plugins x) ∧
    ((∃ types, checkedTypes conf = .ok types) ↔
      WellShapedList conf plugins ∧ ∀ plugin, .mapping plugin ∈ plugins → HasType plugin) ∧
    ((∃ e, checkedTypes conf = .error e ∧ e.reason = .ok .invalidShape) ↔
      ¬WellShapedHead conf ∨ plugins = [] ∨ ∃ v ∈ plugins, ∀ plugin, v = .mapping plugin → ¬WellShaped plugin) ∧
    ((∃ e, checkedTypes conf = .error e ∧ e.reason = .ok .missingPluginType) ↔
      WellShapedList conf plugins ∧ ∃ plugin, .mapping plugin ∈ plugins ∧ ¬HasType plugin) := by
  have h := listVerdict_checkedTypes hlist
  have hother := listVerdict_checkedTypes (plugins?_put conf others)
  have hwell : WellShapedList (conf.put (.text "plugins") (.list others)) others ↔ WellShapedList conf plugins :=
    wellShapedList_put hperm
  refine ⟨?_, ?_, h.ok_iff, h.invalidShape_iff.trans not_wellShapedList_iff, h.missingPluginType_iff⟩
  · exact h.same hother hwell fun v => hperm.mem_iff.symm
  · intro types htypes
    rw [htypes] at h
    cases h with
    | typed _ _ hset hmem => exact ⟨hset.nodup, hmem⟩

/-- Of two elements one is no object and the other has no type, and whichever comes first, the shape is at fault. -/
theorem sameVerdict_of_swapped_plugins :
    let untyped : Value := .mapping [(.text "bridge", .text "br0")]
    let conf : Entries := [(.text "name", .text "net"), (.text "plugins", .list [untyped, .text "bridge"])]
    let swapped := conf.put (.text "plugins") (.list [.text "bridge", untyped])
    SameVerdict (checkedTypes conf) (checkedTypes swapped) ∧
      ∃ e, checkedTypes conf = .error e ∧ e.reason = .ok .invalidShape := by
  intro untyped conf swapped
  have hperm : [untyped, .text "bridge"].Perm [.text "bridge", untyped] := .swap _ _ []
  have hlist : plugins? conf = some [untyped, .text "bridge"] := rfl
  obtain ⟨hsame, -, -, hshape, -⟩ := sameVerdict_of_perm hlist hperm
  refine ⟨hsame, hshape.mpr (Or.inr (Or.inr ⟨.text "bridge", ?_, fun plugin h => nomatch h⟩))⟩
  exact List.mem_cons_of_mem untyped List.mem_cons_self

end NetAttach.Cni
