/-
  Admission and classification agree.

  An attachment is admitted by its name and its configuration, and pods that select it are counted by the
  plugin types of the same configuration.  The two go through the configuration on ways of their own.  They
  agree all the same: what is admitted can be classified, and what can be classified is admitted if its name
  is a label (`check_eq_ok`).  On the way nothing fails, so that there is always a decision, unless the
  configuration is nested too deep (`decide_cases`).
-/
import NetAttach.Admission.Decision
import NetAttach.Proofs.Cni.Depth
import NetAttach.Proofs.Json.Limits
import NetAttach.Proofs.Selection.Word

namespace NetAttach.Attachment

/-- The check gets as far as the configuration, and this is nested too deep. -/
def TooDeep [Nesting] (a : Attachment) (d : Descent) : Prop := a.name.isLabel = true ∧ Cni.Overdeep a.config d

section Room

variable [Nesting]

/-- What the check does with the configuration. -/
theorem check_of_isLabel {a : Attachment} (hname : a.name.isLabel = true) (hconfig : a.config ≠ []) :
    a.check =
      match Cni.prepare a.config a.name with
      | .error e => .error (.unreadable e)
      | .ok conf =>
        match Cni.checkedTypes conf with
        | .error e => .error (.config e)
        | .ok _ => .ok () := by
  have hempty : ¬a.config.isEmpty = true := mt List.isEmpty_iff.mp hconfig
  exact (if_pos hname).trans (if_neg hempty)

/-- The check succeeds when the name is a label and the configuration is empty or can be classified. -/
theorem check_eq_ok {a : Attachment} :
    a.check = .ok () ↔
      a.name.isLabel = true ∧ (a.config = [] ∨ ∃ types, Cni.classify a.config a.name = .ok types) := by
  by_cases hname : a.name.isLabel = true
  · by_cases hconfig : a.config = []
    · have hcheck : a.check = .ok () := by
        rw [check, if_pos hname, hconfig]
        rfl
      exact ⟨fun _ => ⟨hname, Or.inl hconfig⟩, fun _ => hcheck⟩
    · -- both ways lead through the same reading of the text and the same check of what it holds
      rw [check_of_isLabel hname hconfig, Cni.classify_of_ne_nil hconfig]
      simp only [hname, hconfig, true_and, false_or]
      cases Cni.prepare a.config a.name with
      | error e => simp only [reduceCtorEq, exists_false]
      | ok conf =>
        simp only
        cases Cni.checkedTypes conf with
        | error e => simp only [reduceCtorEq, exists_false]
        | ok types => exact ⟨fun _ => ⟨types, rfl⟩, fun _ => rfl⟩
  · rw [check, if_neg hname]
    simp only [reduceCtorEq, hname, false_and]

/-- For every refusal there is a reason to give, but for a configuration that is nested too deep. -/
theorem reason_of_check_eq_error {a : Attachment} {refusal : Refusal} (h : a.check = .error refusal) :
    (∃ d, a.TooDeep d ∧ refusal.reason = .error (.tooDeep d)) ∨
      (∀ d, ¬a.TooDeep d) ∧ ∃ reason, refusal.reason = .ok reason := by
  by_cases hname : a.name.isLabel = true
  · by_cases hconfig : a.config = []
    · rw [check_eq_ok.mpr ⟨hname, Or.inl hconfig⟩] at h
      exact nomatch h
    · rw [check_of_isLabel hname hconfig] at h
      rcases Cni.prepare_cases a.config a.name with
        ⟨d, hd, hprepare⟩ | ⟨hdeep, ⟨e, -, hprepare, hreason⟩ | ⟨conf, -, hprepare⟩⟩
      · rw [hprepare] at h
        obtain rfl := Except.error.inj h
        exact Or.inl ⟨d, ⟨hname, hd⟩, rfl⟩
      · rw [hprepare] at h
        obtain rfl := Except.error.inj h
        exact Or.inr ⟨fun d hd => hdeep d hd.2, .notJson, hreason⟩
      · rw [hprepare] at h
        simp only at h
        refine Or.inr ⟨fun d hd => hdeep d hd.2, ?_⟩
        rcases Cni.checkedTypes_cases (Cni.fillName conf a.name) with
          ⟨fault, hc⟩ | ⟨place, hc⟩ | ⟨types, hc, -⟩
        · rw [hc] at h
          obtain rfl := Except.error.inj h
          exact ⟨.invalidConfig, rfl⟩
        · rw [hc] at h
          obtain rfl := Except.error.inj h
          exact ⟨.invalidConfig, rfl⟩
        · rw [hc] at h
          exact nomatch h
  · rw [check, if_neg hname] at h
    obtain rfl := Except.error.inj h
    exact Or.inr ⟨fun d hd => hname hd.1, .invalidName, rfl⟩

/-- What can be classified is not nested too deep. -/
theorem not_tooDeep_of_check {a : Attachment} (h : a.check = .ok ()) (d : Descent) : ¬a.TooDeep d := by
  rintro ⟨-, hd⟩
  obtain ⟨-, hempty | ⟨types, htypes⟩⟩ := check_eq_ok.mp h
  · exact hd.ne_nil hempty
  · rcases Cni.classify_cases a.config a.name with ⟨_, -, hclassify⟩ | ⟨hdeep, -⟩
    · exact nomatch htypes.symm.trans hclassify
    · exact hdeep d hd

/-- An attachment is allowed when the check succeeds, and denied otherwise, if it is not nested too deep. -/
theorem decide_cases (a : Attachment) :
    (∃ d, a.TooDeep d ∧ a.decide = .error (.tooDeep d)) ∨
      (∀ d, ¬a.TooDeep d) ∧
        ((a.check = .ok () ∧ a.decide = .ok (.allow [])) ∨
          ∃ refusal reason, a.check = .error refusal ∧ a.decide = .ok (.deny reason refusal.message)) := by
  unfold decide
  cases h : a.check with
  | ok u => exact Or.inr ⟨not_tooDeep_of_check h, Or.inl ⟨rfl, rfl⟩⟩
  | error refusal =>
    simp only
    rcases reason_of_check_eq_error h with ⟨d, hd, hreason⟩ | ⟨hdeep, reason, hreason⟩
    · exact Or.inl ⟨d, hd, by rw [hreason]; rfl⟩
    · exact Or.inr ⟨hdeep, Or.inr ⟨refusal, reason, rfl, by rw [hreason]; rfl⟩⟩

end Room

/-- An attachment that is too deep for none of two rooms is checked with the one as it is classified with the other. -/
theorem check_eq_ok_of_fits {n m : Nesting} {a : Attachment} (hn : ∀ d, ¬@TooDeep n a d)
    (hm : a.name.isLabel = true → ∀ d, ¬@Cni.Overdeep m a.config d) :
    @check n a = .ok () ↔
      a.name.isLabel = true ∧ (a.config = [] ∨ ∃ types, @Cni.classify m a.config a.name = .ok types) := by
  rw [@check_eq_ok n]
  refine and_congr_right fun hname => ?_
  rw [Cni.classify_eq_of_fits (fun d hd => hn d ⟨hname, hd⟩) (hm hname)]

/-- **Admission and classification agree, unless the configuration is nested too deep.**  There is no decision on an
attachment exactly when its name is a word of small letters, digits and hyphens and there is not room enough to read
its configuration or to copy it.  Otherwise it is allowed exactly when its name is such a word and its configuration is
empty or can be classified, which holds also if the one who classifies has more or less room, as long as it is enough;
and a denial says something.  Classifying a text either gives a reason that has to do with its shape, or a set of names,
of which there is at least one if there is any text, or there is not room enough. -/
theorem allowed_iff_classified (n m : Nesting) :
    (∀ a : Attachment,
      (∀ f, @decide n a = .error f ↔
        Text.IsWord CodePoint.isLabelLetter a.name ∧ ∃ d, @Cni.Overdeep n a.config d ∧ f = .tooDeep d) ∧
      ∀ decision, @decide n a = .ok decision →
        ((Text.IsWord CodePoint.isLabelLetter a.name → ∀ d, ¬@Cni.Overdeep m a.config d) →
          (decision.allowed = true ↔ Text.IsWord CodePoint.isLabelLetter a.name ∧
            (a.config = [] ∨ ∃ types, @Cni.classify m a.config a.name = .ok types))) ∧
        (decision.allowed = false → decision.message ≠ [])) ∧
    ∀ config name : Text,
      (∃ e reason, @Cni.classify m config name = .error e ∧ e.reason = .ok reason ∧ reason.isValidation = true) ∨
        (∃ types, @Cni.classify m config name = .ok types ∧ Cni.NameSet types ∧ (config ≠ [] → types ≠ [])) ∨
        ∃ d, @Cni.Overdeep m config d ∧ @Cni.classify m config name = .error (.tooDeep d) := by
  refine ⟨fun a => ?_, fun config name => ?_⟩
  · have hlabel : a.name.isLabel = true ↔ Text.IsWord CodePoint.isLabelLetter a.name := by
      rw [Text.isLabel, Text.isWord_iff]
    rw [← hlabel]
    rcases @decide_cases n a with ⟨d, hd, hdecide⟩ | ⟨hdeep, hdecide⟩
    · rw [hdecide]
      refine ⟨fun f => ⟨fun h => ⟨hd.1, d, hd.2, (Except.error.inj h).symm⟩, ?_⟩, fun _ h => nomatch h⟩
      rintro ⟨-, e, he, rfl⟩
      rw [@Cni.Overdeep.unique n _ _ _ hd.2 he]
    · have hno : ¬(a.name.isLabel = true ∧ ∃ d, @Cni.Overdeep n a.config d) :=
        fun ⟨hname, d, hd⟩ => hdeep d ⟨hname, hd⟩
      rcases hdecide with ⟨hcheck, hdecide⟩ | ⟨refusal, reason, hcheck, hdecide⟩
      all_goals
        rw [hdecide]
        refine ⟨fun f => ⟨(nomatch ·), fun ⟨hname, d, hd, _⟩ => absurd ⟨hname, d, hd⟩ hno⟩, ?_⟩
        rintro decision hdecision
        obtain rfl := Except.ok.inj hdecision
      · exact ⟨fun hm => iff_of_true rfl ((check_eq_ok_of_fits hdeep hm).mp hcheck), (nomatch ·)⟩
      · refine ⟨fun hm => iff_of_false (nomatch ·) fun h => ?_,
          fun _ => Decision.deny_message_ne_nil reason refusal.message⟩
        exact nomatch hcheck.symm.trans ((check_eq_ok_of_fits hdeep hm).mpr h)
  · rcases @Cni.classify_cases m config name with ⟨d, hd, hclassify⟩ | ⟨-, hreason | htypes⟩
    · exact Or.inr (Or.inr ⟨d, hd, hclassify⟩)
    · exact Or.inl hreason
    · exact Or.inr (Or.inl htypes)

/-- On an attachment whose configuration holds 701 lists in each other there is no decision, nor a reason why it is not
classified, though its form is right. -/
theorem no_decision_on_nested_lists :
    let config := Cni.nestedConfig 700
    (∀ decision, Attachment.decide ⟨"net", "ns", config⟩ ≠ .ok decision) ∧
      ¬((∃ e reason, Cni.classify config "net" = .error e ∧ e.reason = .ok reason ∧ reason.isValidation = true) ∨
        ∃ types, Cni.classify config "net" = .ok types) := by
  intro config
  have hdeep : Cni.Overdeep config .copying := Cni.overdeep_nestedConfig (by decide) (by decide)
  have hname : Text.IsWord CodePoint.isLabelLetter "net" := Text.isWord_iff.mp (by decide)
  obtain ⟨hdecide, hclassify⟩ := allowed_iff_classified .usual .usual
  have hfailed := ((hdecide ⟨"net", "ns", config⟩).1 (.tooDeep .copying)).mpr ⟨hname, .copying, hdeep, rfl⟩
  refine ⟨fun decision h => (nomatch hfailed.symm.trans h), ?_⟩
  have hclassified : Cni.classify config "net" = .error (.tooDeep .copying) := by
    rcases Cni.classify_cases config "net" with ⟨d, hd, h⟩ | ⟨hno, -⟩
    · rw [h, hd.unique hdeep]
    · exact absurd hdeep (hno _)
  rw [hclassified]
  rintro (⟨e, reason, he, hreason, -⟩ | ⟨types, htypes⟩)
  · obtain rfl := Except.error.inj he
    exact nomatch hreason
  · exact nomatch htypes

end NetAttach.Attachment
