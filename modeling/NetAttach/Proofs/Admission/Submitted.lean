/-
  What is known of a configuration that was admitted.

  An attachment is admitted when its configuration passes the check of its shape and its plugins have types.  The check
  sees the configuration after a name has been filled in, and not as it was submitted.  So what it establishes is true
  of the submitted configuration, field by field, with one exception: a name that counts as false is replaced whatever
  it is, so that it may have been zero, false, or an empty list or object (`Misnamed`).  A name like that is no text,
  and where it stands in a plugin it is refused.

  Structure:
  1. `Entries.Optional` and what the fields are meant to hold; the checks in these words (`wellShaped_and_hasType_iff`);
  2. `SoundButName`: the shape of a configuration of either form, without its name; what is classified at all has this
     shape and a name that is a text, if any (`exists_types_iff`);
  3. what filling in the name makes of that (`optional_name_fillName_iff`), and the main statement.
-/
import NetAttach.Proofs.Admission.Agreement
import NetAttach.Proofs.Cni.Naming
import NetAttach.Proofs.Cni.Order

namespace NetAttach

/-! ## Fields -/

namespace Entries

/-- The field is left out, or null, or holds something of the kind that is meant. -/
def Optional (object : Entries) (field : Text) (Meant : Value → Prop) : Prop :=
  object.get? field = none ∨ object.get? field = some .null ∨ ∃ v, object.get? field = some v ∧ Meant v

/-- A field that is left out is as good as null. -/
theorem optional_iff {object : Entries} {field : Text} {Meant : Value → Prop} :
    object.Optional field Meant ↔ object.field field = .null ∨ Meant (object.field field) := by
  unfold Optional Entries.field
  cases object.get? field with
  | none => exact ⟨fun _ => Or.inl rfl, fun _ => Or.inl rfl⟩
  | some v =>
    constructor
    · rintro (h | h | ⟨w, h, hmeant⟩)
      · exact nomatch h
      · exact Or.inl (Option.some.inj h)
      · obtain rfl := Option.some.inj h
        exact Or.inr hmeant
    · rintro (h | hmeant)
      · exact Or.inr (Or.inl (congrArg some h))
      · exact Or.inr (Or.inr ⟨v, rfl, hmeant⟩)

end Entries

namespace Cni

def IsText (v : Value) : Prop := ∃ t : Text, v = .text t

def IsObject (v : Value) : Prop := ∃ entries, v = .mapping entries

/-- Capabilities: an object in which every value is true or false. -/
def IsFlags (v : Value) : Prop := ∃ entries, v = .mapping entries ∧ ∀ e ∈ entries, ∃ b, e.2 = .bool b

/-- The description of an address manager: an object with a type that is a text, if any. -/
def IsManager (v : Value) : Prop := ∃ entries : Entries, v = .mapping entries ∧ entries.Optional "type" IsText

/-- What may switch the check of a list: true, false or a text. -/
def IsToggle (v : Value) : Prop := (∃ b, v = .bool b) ∨ IsText v

theorem isTextOrNull_iff {v : Value} : isTextOrNull v = true ↔ v = .null ∨ IsText v := by
  constructor
  · exact eq_null_or_text_of_isTextOrNull
  · rintro (rfl | ⟨t, rfl⟩) <;> rfl

theorem isObjectOrNull_iff {v : Value} : isObjectOrNull v = true ↔ v = .null ∨ IsObject v := by
  constructor
  · intro h
    unfold isObjectOrNull at h
    split at h
    · exact Or.inl rfl
    · exact Or.inr ⟨_, rfl⟩
    · exact nomatch h
  · rintro (rfl | ⟨entries, rfl⟩) <;> rfl

theorem isCapabilities_iff {v : Value} : isCapabilities v = true ↔ v = .null ∨ IsFlags v := by
  constructor
  · intro h
    unfold isCapabilities at h
    split at h
    · exact Or.inl rfl
    · rename_i entries
      refine Or.inr ⟨entries, rfl, fun e he => ?_⟩
      have hflag := List.all_eq_true.mp h e he
      split at hflag
      · rename_i b hb
        exact ⟨b, hb⟩
      · exact nomatch hflag
    · exact nomatch h
  · rintro (rfl | ⟨entries, rfl, hall⟩)
    · rfl
    · refine List.all_eq_true.mpr fun e he => ?_
      obtain ⟨b, hb⟩ := hall e he
      simp only [hb]

theorem isSwitch_iff {v : Value} : isSwitch v = true ↔ v = .null ∨ IsToggle v := by
  constructor
  · intro h
    unfold isSwitch at h
    split at h
    · exact Or.inl rfl
    · exact Or.inr (Or.inl ⟨_, rfl⟩)
    · exact Or.inr (Or.inr ⟨_, rfl⟩)
    · exact nomatch h
  · rintro (rfl | ⟨b, rfl⟩ | ⟨t, rfl⟩) <;> rfl

theorem isIpam_iff {v : Value} : IsIpam v ↔ v = .null ∨ IsManager v := by
  unfold IsIpam IsManager
  simp only [Entries.optional_iff, isTextOrNull_iff]

/-! ## Plugins and configurations -/

/-- The fields of a plugin besides its name. -/
structure PluginFields (plugin : Entries) : Prop where
  type : HasType plugin
  version : plugin.Optional "cniVersion" IsText
  capabilities : plugin.Optional "capabilities" IsFlags
  ipam : plugin.Optional "ipam" IsManager
  dns : plugin.Optional "dns" IsObject

/-- A configuration of either form in which nothing is at fault, whatever its name may be. -/
inductive SoundButName (conf : Entries) : Prop
  | list {plugins : List Value} (hlist : conf.get? "plugins" = some (.list plugins)) (hnonempty : plugins ≠ [])
      (hversion : conf.Optional "cniVersion" IsText) (htoggle : conf.Optional "disableCheck" IsToggle)
      (hplugins : ∀ v ∈ plugins, ∃ plugin : Entries, v = .mapping plugin ∧ plugin.Optional "name" IsText ∧
        PluginFields plugin) : SoundButName conf
  | single (hsingle : ∀ plugins, conf.get? "plugins" ≠ some (.list plugins)) (hfields : PluginFields conf) :
      SoundButName conf

/-- A configuration in which nothing is at fault. -/
def Sound (conf : Entries) : Prop := conf.Optional "name" IsText ∧ SoundButName conf

/-- The configuration has a name that counts as none, though it is neither null nor a text. -/
def Misnamed (conf : Entries) : Prop :=
  ∃ v, conf.get? "name" = some v ∧ v.truth = false ∧ v ≠ .null ∧ ¬IsText v

/-- What the check of a plugin and the search for its type establish. -/
theorem wellShaped_and_hasType_iff {plugin : Entries} :
    WellShaped plugin ∧ HasType plugin ↔ plugin.Optional "name" IsText ∧ PluginFields plugin := by
  constructor
  · rintro ⟨h, htype⟩
    exact ⟨Entries.optional_iff.mpr (isTextOrNull_iff.mp h.name), htype,
      Entries.optional_iff.mpr (isTextOrNull_iff.mp h.version),
      Entries.optional_iff.mpr (isCapabilities_iff.mp h.capabilities),
      Entries.optional_iff.mpr (isIpam_iff.mp h.ipam), Entries.optional_iff.mpr (isObjectOrNull_iff.mp h.dns)⟩
  · rintro ⟨hname, h⟩
    obtain ⟨t, -, ht⟩ := h.type
    exact ⟨⟨isTextOrNull_iff.mpr (Entries.optional_iff.mp hname), isTextOrNull_iff.mpr (Or.inr ⟨t, ht⟩),
      isTextOrNull_iff.mpr (Entries.optional_iff.mp h.version),
      isCapabilities_iff.mpr (Entries.optional_iff.mp h.capabilities),
      isIpam_iff.mpr (Entries.optional_iff.mp h.ipam), isObjectOrNull_iff.mpr (Entries.optional_iff.mp h.dns)⟩, h.type⟩

theorem plugins?_eq_some {conf : Entries} {plugins : List Value} :
    plugins? conf = some plugins ↔ conf.get? "plugins" = some (.list plugins) := by
  unfold plugins?
  constructor
  · intro h
    split at h
    · rename_i found hget
      rw [hget, Option.some.inj h]
    · exact nomatch h
  · intro h
    rw [h]

theorem plugins?_eq_none {conf : Entries} :
    plugins? conf = none ↔ ∀ plugins, conf.get? "plugins" ≠ some (.list plugins) := by
  rw [Option.eq_none_iff_forall_ne_some]
  simp only [ne_eq, plugins?_eq_some]

/-- A single configuration is a plugin. -/
theorem exists_types_single_iff {conf : Entries} (hsingle : plugins? conf = none) :
    (∃ types, checkedTypes conf = .ok types) ↔ WellShaped conf ∧ HasType conf := by
  have hshape : checkShape conf = checkPlugin conf .single := by rw [checkShape, hsingle]
  have htypes : pluginTypes conf = (pluginType conf .single).map fun t => [t] := by rw [pluginTypes, hsingle]
  unfold checkedTypes
  rw [hshape, htypes]
  cases hcheck : checkPlugin conf .single with
  | error fault =>
    constructor
    · rintro ⟨_, h⟩
      cases h
    · rintro ⟨hwell, -⟩
      cases hcheck.symm.trans (checkPlugin_eq_ok.mpr hwell)
  | ok u =>
    have hwell : WellShaped conf := checkPlugin_eq_ok.mp hcheck
    simp only
    rcases pluginType_cases hwell .single with ⟨huntyped, hmissing⟩ | ⟨t, ht, hfield, hok⟩
    · rw [hmissing]
      constructor
      · rintro ⟨_, h⟩
        cases h
      · rintro ⟨-, htyped⟩
        exact absurd htyped huntyped
    · rw [hok]
      exact ⟨fun _ => ⟨hwell, t, ht, hfield⟩, fun _ => ⟨[.text t], rfl⟩⟩

/-- In a list, plugins with types in which nothing is at fault are all that is needed beside the head. -/
theorem exists_types_list_iff {conf : Entries} {plugins : List Value} (hlist : plugins? conf = some plugins) :
    (∃ types, checkedTypes conf = .ok types) ↔
      WellShapedHead conf ∧ plugins ≠ [] ∧ ∀ v ∈ plugins, ∃ plugin : Entries, v = .mapping plugin ∧
        plugin.Optional "name" IsText ∧ PluginFields plugin := by
  rw [(listVerdict_checkedTypes hlist).ok_iff, wellShapedList_iff]
  constructor
  · rintro ⟨⟨hhead, hnonempty, hplugins⟩, htyped⟩
    refine ⟨hhead, hnonempty, fun v hv => ?_⟩
    obtain ⟨plugin, rfl, hwell⟩ := hplugins v hv
    exact ⟨plugin, rfl, wellShaped_and_hasType_iff.mp ⟨hwell, htyped plugin hv⟩⟩
  · rintro ⟨hhead, hnonempty, hplugins⟩
    refine ⟨⟨hhead, hnonempty, fun v hv => ?_⟩, fun plugin hplugin => ?_⟩
    · obtain ⟨plugin, rfl, hfields⟩ := hplugins v hv
      exact ⟨plugin, rfl, (wellShaped_and_hasType_iff.mpr hfields).1⟩
    · obtain ⟨same, hsame, hfields⟩ := hplugins _ hplugin
      obtain rfl : plugin = same := Value.mapping.inj hsame
      exact (wellShaped_and_hasType_iff.mpr hfields).2

/-- With a name, a configuration can be classified exactly when nothing in it is at fault. -/
theorem exists_types_iff {conf : Entries} (hnamed : (conf.field "name").truth = true) :
    (∃ types, checkedTypes conf = .ok types) ↔ Sound conf := by
  unfold Sound
  cases hlist : plugins? conf with
  | none =>
    rw [exists_types_single_iff hlist, wellShaped_and_hasType_iff]
    have hsingle := plugins?_eq_none.mp hlist
    constructor
    · rintro ⟨hname, hfields⟩
      exact ⟨hname, .single hsingle hfields⟩
    · rintro ⟨hname, hsound⟩
      cases hsound with
      | list hother => exact absurd hother (hsingle _)
      | single _ hfields => exact ⟨hname, hfields⟩
  | some plugins =>
    rw [exists_types_list_iff hlist]
    have hget := plugins?_eq_some.mp hlist
    constructor
    · rintro ⟨hhead, hnonempty, hplugins⟩
      refine ⟨Entries.optional_iff.mpr (isTextOrNull_iff.mp hhead.name), .list hget hnonempty ?_ ?_ hplugins⟩
      · exact Entries.optional_iff.mpr (isTextOrNull_iff.mp hhead.version)
      · exact Entries.optional_iff.mpr (isSwitch_iff.mp hhead.switch)
    · rintro ⟨hname, hsound⟩
      cases hsound with
      | single hsingle => exact absurd hget (hsingle plugins)
      | list hother hnonempty hversion htoggle hplugins =>
        obtain rfl := Value.list.inj (Option.some.inj (hget.symm.trans hother))
        refine ⟨⟨?_, hnamed, ?_, ?_⟩, hnonempty, hplugins⟩
        · exact isTextOrNull_iff.mpr (Entries.optional_iff.mp hname)
        · exact isTextOrNull_iff.mpr (Entries.optional_iff.mp hversion)
        · exact isSwitch_iff.mpr (Entries.optional_iff.mp htoggle)

/-! ## What the name stands in for -/

section Agreeing

variable {conf other : Entries}
  (hget : ∀ {field : Text}, Text.ofString "name" ≠ field → conf.get? field = other.get? field)

include hget

theorem optional_of_agreeing {field : Text} (hne : Text.ofString "name" ≠ field) {Meant : Value → Prop}
    (h : conf.Optional field Meant) : other.Optional field Meant := by
  unfold Entries.Optional at h ⊢
  rwa [hget hne] at h

theorem PluginFields.of_agreeing (h : PluginFields conf) : PluginFields other where
  type := by
    obtain ⟨t, ht, hfield⟩ := h.type
    refine ⟨t, ht, ?_⟩
    rwa [Entries.field, hget (by decide)] at hfield
  version := optional_of_agreeing hget (by decide) h.version
  capabilities := optional_of_agreeing hget (by decide) h.capabilities
  ipam := optional_of_agreeing hget (by decide) h.ipam
  dns := optional_of_agreeing hget (by decide) h.dns

theorem SoundButName.of_agreeing (h : SoundButName conf) : SoundButName other := by
  have hplugins : conf.get? "plugins" = other.get? "plugins" := hget (by decide)
  cases h with
  | list hlist hnonempty hversion htoggle hall =>
    refine .list (hplugins.symm.trans hlist) hnonempty ?_ ?_ hall
    · exact optional_of_agreeing hget (by decide) hversion
    · exact optional_of_agreeing hget (by decide) htoggle
  | single hsingle hfields =>
    exact .single (fun plugins h => hsingle plugins (hplugins.trans h)) (hfields.of_agreeing hget)

end Agreeing

theorem soundButName_fillName_iff (conf : Entries) (name : Text) :
    SoundButName (fillName conf name) ↔ SoundButName conf :=
  ⟨SoundButName.of_agreeing fun hne => get?_fillName conf name hne,
    SoundButName.of_agreeing fun hne => (get?_fillName conf name hne).symm⟩

theorem not_optional_of_misnamed {conf : Entries} (h : Misnamed conf) : ¬conf.Optional "name" IsText := by
  obtain ⟨v, hget, -, hnull, htext⟩ := h
  rintro (hnone | hnone | ⟨w, hw, hmeant⟩)
  · exact nomatch hget.symm.trans hnone
  · exact hnull (Option.some.inj (hget.symm.trans hnone))
  · obtain rfl := Option.some.inj (hget.symm.trans hw)
    exact htext hmeant

/-- The name is a text, if any, once one is filled in: it was before, or it was replaced. -/
theorem optional_name_fillName_iff (conf : Entries) {name : Text} (hname : name ≠ []) :
    (fillName conf name).Optional "name" IsText ↔ conf.Optional "name" IsText ∨ Misnamed conf := by
  rcases fillName_cases conf name with ⟨hnil | htruth, heq⟩ | ⟨-, hfalse, heq⟩
  · exact absurd hnil hname
  · rw [heq]
    refine ⟨Or.inl, ?_⟩
    rintro (h | ⟨v, hget, hfalse, -⟩)
    · exact h
    · rw [Entries.field, hget] at htruth
      cases htruth.symm.trans hfalse
  · have hfilled : (fillName conf name).Optional "name" IsText := by
      refine Or.inr (Or.inr ⟨.text name, ?_, name, rfl⟩)
      rw [heq, Entries.get?_put, if_pos rfl]
    refine ⟨fun _ => ?_, fun _ => hfilled⟩
    by_cases h : conf.Optional "name" IsText
    · exact Or.inl h
    · unfold Entries.Optional at h
      push Not at h
      obtain ⟨hnone, hnull, htext⟩ := h
      obtain ⟨v, hget⟩ := Option.ne_none_iff_exists'.mp hnone
      refine Or.inr ⟨v, hget, ?_, fun hv => hnull (hv ▸ hget), htext v hget⟩
      rwa [Entries.field, hget] at hfalse

end Cni

/-! ## Attachments -/

namespace Attachment

open Cni

/-- The attachment is admitted. -/
def IsAllowed [Nesting] (a : Attachment) : Prop := ∃ decision, a.decide = .ok decision ∧ decision.allowed = true

theorem isAllowed_iff [Nesting] {a : Attachment} : a.IsAllowed ↔ a.check = .ok () := by
  unfold IsAllowed
  rcases decide_cases a with ⟨d, hd, hdecide⟩ | ⟨-, ⟨hcheck, hdecide⟩ | ⟨refusal, reason, hcheck, hdecide⟩⟩
  · constructor
    · rintro ⟨decision, h, -⟩
      exact nomatch hdecide.symm.trans h
    · exact fun h => absurd hd (not_tooDeep_of_check h d)
  · exact ⟨fun _ => hcheck, fun _ => ⟨_, hdecide, rfl⟩⟩
  · constructor
    · rintro ⟨decision, h, hallowed⟩
      obtain rfl := Except.ok.inj (hdecide.symm.trans h)
      exact nomatch hallowed
    · exact fun h => nomatch hcheck.symm.trans h

/-- **Admitted configurations are well shaped but for their names.**  An attachment with a configuration is admitted
exactly when its name is a label and the configuration is not nested too deep and, as it was submitted, is an object in
which nothing is at fault, or nothing but a name that counts as none.  So nothing at all is at fault in an admitted
configuration exactly when it has no such name. -/
theorem sound_iff_of_isAllowed [Nesting] {a : Attachment} (hconfig : a.config ≠ []) :
    (a.IsAllowed ↔ Text.IsWord CodePoint.isLabelLetter a.name ∧ (∀ d, ¬Overdeep a.config d) ∧
      ∃ conf, load a.config = .ok conf ∧ SoundButName conf ∧ (conf.Optional "name" IsText ∨ Misnamed conf)) ∧
    (a.IsAllowed → ∀ conf, load a.config = .ok conf → (Sound conf ↔ ¬Misnamed conf)) := by
  have hallowed : a.IsAllowed ↔ Text.IsWord CodePoint.isLabelLetter a.name ∧ (∀ d, ¬Overdeep a.config d) ∧
      ∃ conf, load a.config = .ok conf ∧ SoundButName conf ∧ (conf.Optional "name" IsText ∨ Misnamed conf) := by
    rw [isAllowed_iff, check_eq_ok, Text.isLabel, Text.isWord_iff, or_iff_right hconfig, classify_of_ne_nil hconfig]
    refine and_congr_right fun hword => ?_
    have hname : a.name ≠ [] := by
      intro hnil
      rw [hnil] at hword
      cases hword
    rcases prepare_cases a.config a.name with
      ⟨d, hd, hprepare⟩ | ⟨hdeep, ⟨e, hload, hprepare, -⟩ | ⟨conf, hload, hprepare⟩⟩
    · rw [hprepare]
      simp only [reduceCtorEq, exists_false, false_iff]
      exact fun h => h.1 d hd
    · rw [hprepare, hload]
      simp only [reduceCtorEq, exists_false, false_and, and_false]
    · rw [hprepare, hload, and_iff_right hdeep]
      simp only [Except.ok.injEq, exists_eq_left']
      rw [exists_types_iff (truth_fillName conf hname), Sound, soundButName_fillName_iff,
        optional_name_fillName_iff conf hname]
      exact and_comm
  refine ⟨hallowed, fun h conf hload => ?_⟩
  obtain ⟨-, -, same, hsame, hsound, hname⟩ := hallowed.mp h
  obtain rfl := Except.ok.inj (hload.symm.trans hsame)
  constructor
  · intro hall hmisnamed
    exact not_optional_of_misnamed hmisnamed hall.1
  · intro hnot
    exact ⟨hname.resolve_right hnot, hsound⟩

/-- A configuration whose name is zero is admitted. -/
theorem not_sound_of_name_zero :
    let a : Attachment := ⟨"net", "ns", "\x7b\"name\": 0, \"type\": \"bridge\"\x7d"⟩
    a.IsAllowed ∧ ∃ conf, load a.config = .ok conf ∧ ¬Sound conf := by
  intro a
  have hallowed : a.IsAllowed := ⟨.allow [], by decide +kernel, rfl⟩
  obtain ⟨-, hiff⟩ := sound_iff_of_isAllowed (a := a) (by decide)
  let conf : Entries := [(.text "name", .int 0), (.text "type", .text "bridge")]
  have hload : load a.config = .ok conf := by decide +kernel
  have hmisnamed : Misnamed conf := ⟨.int 0, rfl, rfl, nofun, nofun⟩
  exact ⟨hallowed, conf, hload, fun hsound => (hiff hallowed conf hload).mp hsound hmisnamed⟩

end Attachment

end NetAttach
