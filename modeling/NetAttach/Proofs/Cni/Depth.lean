/-
  Configurations that are nested too deep.

  The program goes down into a configuration twice, to read it and to copy it, and both fail where there is no room for
  as many calls as that takes (`Overdeep`).  Such a failure is no reason to turn the configuration down, and it is the
  only one that is not (`classify_cases`).

  A well-formed text of lists in each other is such a configuration, and copying it takes more room than reading it
  (`overdeep_nestedConfig`).

  How much room there is shows in nothing else: where a configuration is not too deep it is classified alike, whatever
  room there is (`classify_eq_of_fits`).
-/
import NetAttach.Proofs.Cni.Types
import NetAttach.Proofs.Json.Depth
import NetAttach.Proofs.Json.Plain

namespace NetAttach.Cni

/-- The configuration is nested deeper than there is room for, in the text or in the copy that is made of it. -/
inductive Overdeep [Nesting] (text : Text) : Descent → Prop
  | reading {c : Json.Collection} (h : Json.readWithin Nesting.config text = .error (.tooDeep c)) :
      Overdeep text (.reading c)
  | copying {conf : Entries} (hread : Json.readWithin Nesting.config text = .ok (.mapping conf))
      (hcopy : Nesting.copy < (Value.mapping conf).copyCalls) : Overdeep text .copying

section Room

variable [Nesting]

theorem Overdeep.unique {text : Text} {d e : Descent} (h : Overdeep text d) (h' : Overdeep text e) : d = e := by
  cases h with
  | reading h =>
    cases h' with
    | reading h' =>
      cases Except.error.inj (h.symm.trans h')
      rfl
    | copying h' _ => exact nomatch h.symm.trans h'
  | copying h _ =>
    cases h' with
    | reading h' => exact nomatch h.symm.trans h'
    | copying _ _ => rfl

theorem Overdeep.ne_nil {text : Text} {d : Descent} (h : Overdeep text d) : text ≠ [] := by
  rintro rfl
  cases h with
  | reading h => exact nomatch h
  | copying h _ => exact nomatch h

theorem load_eq_ok {text : Text} {conf : Entries} :
    load text = .ok conf ↔ Json.readWithin Nesting.config text = .ok (.mapping conf) := by
  unfold load
  constructor
  · intro h
    split at h
    · exact nomatch h
    · exact nomatch h
    · rename_i other hread
      obtain rfl := Except.ok.inj h
      exact hread
    · exact nomatch h
  · intro h
    rw [h]

/-- There is a reason to turn down what is not read as an object, unless it is nested too deep. -/
theorem reason_of_load {text : Text} {e : Error} (h : load text = .error e) :
    (∃ c, Json.readWithin Nesting.config text = .error (.tooDeep c) ∧ e = .tooDeep (.reading c)) ∨
      e.reason = .ok .notJson := by
  unfold load at h
  split at h
  · rename_i c hread
    exact Or.inl ⟨c, hread, (Except.error.inj h).symm⟩
  · obtain rfl := Except.error.inj h
    exact Or.inr rfl
  · exact nomatch h
  · obtain rfl := Except.error.inj h
    exact Or.inr rfl

theorem prepare_of_load {text : Text} {conf : Entries} (h : load text = .ok conf) (name : Text) :
    prepare text name = preprocess conf name := by
  rw [prepare, h]
  rfl

theorem prepare_of_load_error {text : Text} {e : Error} (h : load text = .error e) (name : Text) :
    prepare text name = .error e := by
  rw [prepare, h]
  rfl

/-- What comes of a text that is to be a configuration: it is nested too deep, or it is no JSON object, or there is a
copy of it with the name filled in. -/
theorem prepare_cases (text name : Text) :
    (∃ d, Overdeep text d ∧ prepare text name = .error (.tooDeep d)) ∨
      (∀ d, ¬Overdeep text d) ∧
        ((∃ e, load text = .error e ∧ prepare text name = .error e ∧ e.reason = .ok .notJson) ∨
          ∃ conf, load text = .ok conf ∧ prepare text name = .ok (fillName conf name)) := by
  cases hload : load text with
  | error e =>
    have hprepare := prepare_of_load_error hload name
    rcases reason_of_load hload with ⟨c, hread, rfl⟩ | hreason
    · exact Or.inl ⟨.reading c, .reading hread, hprepare⟩
    · refine Or.inr ⟨fun d hd => ?_, Or.inl ⟨e, rfl, hprepare, hreason⟩⟩
      cases hd with
      | @reading c h =>
        have hdeep : load text = .error (.tooDeep (.reading c)) := by simp only [load, h]
        obtain rfl := Except.error.inj (hload.symm.trans hdeep)
        exact nomatch hreason
      | copying h _ => exact nomatch hload.symm.trans (load_eq_ok.mpr h)
  | ok conf =>
    have hread := load_eq_ok.mp hload
    have hprepare := prepare_of_load hload name
    by_cases hcopy : Nesting.copy < (Value.mapping conf).copyCalls
    · exact Or.inl ⟨.copying, .copying hread hcopy, by rw [hprepare, preprocess, if_pos hcopy]⟩
    · refine Or.inr ⟨fun d hd => ?_, Or.inr ⟨conf, rfl, by rw [hprepare, preprocess, if_neg hcopy]⟩⟩
      cases hd with
      | reading h => exact nomatch hread.symm.trans h
      | copying h hmore =>
        cases Except.ok.inj (hread.symm.trans h)
        exact hcopy hmore

theorem classify_of_ne_nil {text : Text} (h : text ≠ []) (name : Text) :
    classify text name =
      match prepare text name with
      | .error e => .error e
      | .ok conf => checkedTypes conf :=
  if_neg (mt List.isEmpty_iff.mp h)

/-- A text is nested too deep, or it is turned down for a reason that has to do with its shape, or it is classified by
names, of which there is at least one if there is any text at all. -/
theorem classify_cases (text name : Text) :
    (∃ d, Overdeep text d ∧ classify text name = .error (.tooDeep d)) ∨
      (∀ d, ¬Overdeep text d) ∧
        ((∃ e reason, classify text name = .error e ∧ e.reason = .ok reason ∧ reason.isValidation = true) ∨
          ∃ types, classify text name = .ok types ∧ NameSet types ∧ (text ≠ [] → types ≠ [])) := by
  by_cases hempty : text = []
  · subst hempty
    exact Or.inr ⟨fun d hd => hd.ne_nil rfl, Or.inr ⟨[], rfl, nameSet_nil, fun h => absurd rfl h⟩⟩
  · rw [classify_of_ne_nil hempty]
    rcases prepare_cases text name with
      ⟨d, hd, hprepare⟩ | ⟨hdeep, ⟨e, -, hprepare, hreason⟩ | ⟨conf, -, hprepare⟩⟩
    · exact Or.inl ⟨d, hd, by rw [hprepare]⟩
    · exact Or.inr ⟨hdeep, Or.inl ⟨e, .notJson, by rw [hprepare], hreason, rfl⟩⟩
    · refine Or.inr ⟨hdeep, ?_⟩
      rw [hprepare]
      rcases checkedTypes_cases (fillName conf name) with ⟨fault, h⟩ | ⟨place, h⟩ | ⟨types, h, hset, hne⟩
      · exact Or.inl ⟨.shape fault, .invalidShape, h, rfl, rfl⟩
      · exact Or.inl ⟨.missingType place, .missingPluginType, h, rfl, rfl⟩
      · exact Or.inr ⟨types, h, hset, fun _ => hne⟩

end Room

/-! ## Lists in lists -/

/-- The configuration of a plugin that has lists in each other in one of its fields. -/
def nestedConfig (n : Nat) : Text :=
  Json.object₂ "type" (Json.marked "bridge") "x" (Json.nestedText n) []

theorem copyCalls_nested (n : Nat) : (Json.nested n).copyCalls = 2 * n + 3 := by
  induction n with
  | zero => rfl
  | succ n ih =>
    rw [Json.nested, Value.copyCalls, Value.copyCallsOfItems, Value.copyCallsOfItems, ih, Nat.max_zero]
    omega

/-- There is room to read it, which takes one call for each of the lists, but not to copy it, which takes two. -/
theorem overdeep_nestedConfig [Nesting] {n : Nat} (hread : n + 2 ≤ Nesting.config) (hcopy : Nesting.copy < 2 * n + 5) :
    Overdeep (nestedConfig n) .copying := by
  have htype : Json.Plain "type" := by decide
  have hbridge : Json.Plain "bridge" := by decide
  have hfield : Json.Plain "x" := by decide
  have hspells := (Json.spells_nested n).object₂ htype hbridge hfield (by decide)
  refine .copying (hspells.readWithin hread) (hcopy.trans_le ?_)
  rw [Value.copyCalls, Value.copyCallsOfEntries, Value.copyCallsOfEntries, copyCalls_nested]
  omega

example : nestedConfig 1 = "\x7b\"type\":\"bridge\",\"x\":[[]]\x7d" := by decide +kernel

/-! ## How much room there is -/

/-- Where a configuration is too deep for neither of two rooms, the same is made of it in both. -/
theorem prepare_eq_of_fits {n m : Nesting} {text : Text} (hn : ∀ d, ¬@Overdeep n text d)
    (hm : ∀ d, ¬@Overdeep m text d) (name : Text) : @prepare n text name = @prepare m text name := by
  have hread : Json.readWithin n.config text = Json.readWithin m.config text :=
    Json.readWithin_eq_of_fits (fun c h => hn _ (@Overdeep.reading n _ c h)) fun c h => hm _ (@Overdeep.reading m _ c h)
  have hload : @load n text = @load m text := by
    unfold load
    rw [hread]
  unfold prepare
  rw [← hload]
  cases hconf : @load n text with
  | error e => rfl
  | ok conf =>
    have hobject : Json.readWithin n.config text = .ok (.mapping conf) := (@load_eq_ok n _ _).mp hconf
    have hcopy : ¬n.copy < (Value.mapping conf).copyCalls :=
      fun h => hn _ (@Overdeep.copying n _ _ hobject h)
    have hcopy' : ¬m.copy < (Value.mapping conf).copyCalls :=
      fun h => hm _ (@Overdeep.copying m _ _ (hread ▸ hobject) h)
    show @preprocess n conf name = @preprocess m conf name
    unfold preprocess
    rw [if_neg hcopy, if_neg hcopy']

theorem classify_eq_of_fits {n m : Nesting} {text : Text} (hn : ∀ d, ¬@Overdeep n text d)
    (hm : ∀ d, ¬@Overdeep m text d) (name : Text) : @classify n text name = @classify m text name := by
  unfold classify
  rw [prepare_eq_of_fits hn hm]

end NetAttach.Cni
