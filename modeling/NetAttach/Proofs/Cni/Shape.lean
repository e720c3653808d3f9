/-
  What the check of a configuration's shape establishes.

  The check looks at one field after another and stops at the first fault.  A configuration passes exactly
  when none of its fields is at fault, and this is said here field by field: `WellShaped` for one plugin,
  `WellShapedList` for a list of them.  A well-shaped plugin need not have a type; but if it has one, then
  that is a text (or null), whatever else stands beside it.
-/
import NetAttach.Cni.Classify
import NetAttach.Proofs.Success

namespace NetAttach.Cni

theorem need_eq_ok {ok : Bool} {fault : Fault} : need ok fault = .ok () ↔ ok = true := by
  cases ok with
  | true => exact ⟨fun _ => rfl, fun _ => rfl⟩
  | false => exact ⟨(nomatch ·), (nomatch ·)⟩

theorem checkText_eq_ok {conf : Entries} {field : Text} {place : Place} :
    checkText conf field place = .ok () ↔ isTextOrNull (conf.field field) = true :=
  need_eq_ok

/-! ## One plugin -/

/-- The value may describe an address manager: it is null, or a mapping with a type that is a text, if any. -/
def IsIpam (v : Value) : Prop :=
  v = .null ∨ ∃ entries, v = .mapping entries ∧ isTextOrNull (Entries.field entries "type") = true

theorem checkIpam_eq_ok {v : Value} {place : Place} : checkIpam v place = .ok () ↔ IsIpam v := by
  unfold checkIpam IsIpam
  split
  · exact ⟨fun _ => Or.inl rfl, fun _ => rfl⟩
  · rename_i entries
    rw [need_eq_ok]
    constructor
    · intro h
      exact Or.inr ⟨entries, rfl, h⟩
    · rintro (h | ⟨other, h, htext⟩)
      · exact nomatch h
      · obtain rfl : entries = other := Value.mapping.inj h
        exact htext
  · rename_i hnull hmapping
    constructor
    · intro h
      exact nomatch h
    · rintro (h | ⟨entries, h, -⟩)
      · exact absurd h hnull
      · exact absurd h (hmapping entries)

/-- Nothing in the plugin is at fault. -/
structure WellShaped (plugin : Entries) : Prop where
  name : isTextOrNull (plugin.field "name") = true
  type : isTextOrNull (plugin.field "type") = true
  version : isTextOrNull (plugin.field "cniVersion") = true
  capabilities : isCapabilities (plugin.field "capabilities") = true
  ipam : IsIpam (plugin.field "ipam")
  dns : isObjectOrNull (plugin.field "dns") = true

theorem checkPlugin_eq_ok {plugin : Entries} {place : Place} :
    checkPlugin plugin place = .ok () ↔ WellShaped plugin := by
  simp only [checkPlugin, check_bind_eq_ok, checkText_eq_ok, need_eq_ok, checkIpam_eq_ok]
  constructor
  · rintro ⟨hname, htype, hversion, hcapabilities, hipam, hdns⟩
    exact ⟨hname, htype, hversion, hcapabilities, hipam, hdns⟩
  · rintro ⟨hname, htype, hversion, hcapabilities, hipam, hdns⟩
    exact ⟨hname, htype, hversion, hcapabilities, hipam, hdns⟩

/-! ## Lists of plugins -/

/-- Every element is a plugin, and nothing in it is at fault. -/
def AllWellShaped (plugins : List Value) : Prop :=
  ∀ v ∈ plugins, ∃ plugin, v = .mapping plugin ∧ WellShaped plugin

theorem allWellShaped_cons {v : Value} {rest : List Value} :
    AllWellShaped (v :: rest) ↔ (∃ plugin, v = .mapping plugin ∧ WellShaped plugin) ∧ AllWellShaped rest :=
  List.forall_mem_cons

theorem checkPlugins_eq_ok {index : Nat} {plugins : List Value} :
    checkPlugins index plugins = .ok () ↔ AllWellShaped plugins := by
  induction plugins generalizing index with
  | nil => exact ⟨fun _ _ h => (nomatch h), fun _ => rfl⟩
  | cons v rest ih =>
    rw [allWellShaped_cons]
    cases v with
    | mapping plugin =>
      simp only [checkPlugins, check_bind_eq_ok, checkPlugin_eq_ok, ih]
      constructor
      · rintro ⟨hplugin, hrest⟩
        exact ⟨⟨plugin, rfl, hplugin⟩, hrest⟩
      · rintro ⟨⟨other, h, hplugin⟩, hrest⟩
        obtain rfl : plugin = other := Value.mapping.inj h
        exact ⟨hplugin, hrest⟩
    | _ =>
      constructor
      · intro h
        cases h
      · rintro ⟨⟨plugin, h, -⟩, -⟩
        cases h

/-- Nothing in a list of plugins is at fault, neither in the plugins nor in what is said of all of them. -/
structure WellShapedList (conf : Entries) (plugins : List Value) : Prop where
  name : isTextOrNull (conf.field "name") = true
  named : (conf.field "name").truth = true
  version : isTextOrNull (conf.field "cniVersion") = true
  switch : isSwitch (conf.field "disableCheck") = true
  nonempty : plugins ≠ []
  plugins : AllWellShaped plugins

theorem checkList_eq_ok {conf : Entries} {plugins : List Value} :
    checkList conf plugins = .ok () ↔ WellShapedList conf plugins := by
  have hempty : (!plugins.isEmpty) = true ↔ plugins ≠ [] := by simp
  simp only [checkList, check_bind_eq_ok, checkText_eq_ok, need_eq_ok, checkPlugins_eq_ok, hempty]
  constructor
  · rintro ⟨hname, hnamed, hversion, hswitch, hnonempty, hplugins⟩
    exact ⟨hname, hnamed, hversion, hswitch, hnonempty, hplugins⟩
  · rintro ⟨hname, hnamed, hversion, hswitch, hnonempty, hplugins⟩
    exact ⟨hname, hnamed, hversion, hswitch, hnonempty, hplugins⟩

end NetAttach.Cni
