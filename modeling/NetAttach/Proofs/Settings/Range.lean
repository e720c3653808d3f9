/-
  Which numbers are accepted.

  Three numbers of a document are compared before they are taken, after a reading that takes them from texts, truth
  values and bytes as well.  The two counts are refused when they are less than one, so that those which are accepted
  are one at least.  The interval is refused when it is at most zero, and that leaves more than the positive ones: a
  double that is no number passes every comparison made to refuse it.

  Structure:
  1. `Value.IsNaN`: the values that are read as no number (`Value.isNaN_toDouble`);
  2. what is known of each section once it has been read (`readWebhook_eq_ok`, `readController_eq_ok`);
  3. the ranges of what is accepted (`accepted_in_range_iff`).
-/
import NetAttach.Proofs.Settings.Refusal

namespace NetAttach

namespace Value

/-- A value is no number: a double that is none, or a spelling of one. -/
def IsNaN : Value → Prop
  | .float x => x.isNaN = true
  | .text t => t.SpellsNaN
  | .scalar (.bytes b) => b.numberText.SpellsNaN
  | _ => False

theorem isNaN_ofInteger {n : Int} {x : Float} (h : Double.ofInteger n = .ok x) : x.isNaN = false := by
  unfold Double.ofInteger at h
  dsimp only at h
  split at h
  · exact nomatch h
  · obtain rfl := Except.ok.inj h
    exact Double.isNaN_ofInt n

theorem eq_some_of_getD {x? : Option Float} {e : Settings.Error} {x : Float}
    (h : (x?.map Except.ok).getD (.error e) = .ok x) : x? = some x := by
  cases x? with
  | none => exact nomatch h
  | some y => exact congrArg some (Except.ok.inj h)

/-- Whichever way a double is written, it is no number when the value says so and only then. -/
theorem isNaN_toDouble {v : Value} {x : Float} (h : v.toDouble = .ok x) : x.isNaN = true ↔ v.IsNaN := by
  cases v with
  | scalar s =>
    cases s with
    | null | moment => exact nomatch h
    | bool b =>
      obtain rfl := Except.ok.inj h
      exact iff_of_false (by cases b <;> decide +kernel) not_false
    | int n => exact iff_of_false (Bool.eq_false_iff.mp (isNaN_ofInteger h)) not_false
    | float y =>
      obtain rfl := Except.ok.inj h
      exact Iff.rfl
    | text t => exact Text.isNaN_of_toDouble? (eq_some_of_getD h)
    | bytes b => exact Text.isNaN_of_toDouble? (eq_some_of_getD h)
  | _ => exact nomatch h

end Value

namespace Settings

/-! ## Sections -/

section Sections

variable {fields : Entries}

theorem fieldOr_eq_ok {α : Type} {key : Text} {other a : α} {take : Value → Except Error α} :
    fieldOr fields key other take = .ok a ↔
      (Entries.get? fields key = none ∧ other = a) ∨ ∃ v, Entries.get? fields key = some v ∧ take v = .ok a := by
  unfold fieldOr
  cases Entries.get? fields key with
  | none => simp
  | some v => simp

/-- The interval of a webhook section is what its field is read as, and it is not at most zero. -/
theorem readWebhook_eq_ok [Nesting] {w : WebhookSettings} (h : readWebhook fields = .ok w) :
    fieldOr fields "cert_poll_interval" standard.webhook.pollInterval Value.toDouble = .ok w.pollInterval ∧
      ¬w.pollInterval ≤ 0 := by
  unfold readWebhook at h
  obtain ⟨interval, hinterval, h⟩ := bind_eq_ok.mp h
  dsimp only at h
  split at h
  · exact nomatch h
  · rename_i hrange
    obtain ⟨_, -, h⟩ := bind_eq_ok.mp h
    obtain ⟨_, -, h⟩ := bind_eq_ok.mp h
    obtain ⟨_, -, h⟩ := bind_eq_ok.mp h
    obtain ⟨_, -, h⟩ := bind_eq_ok.mp h
    obtain rfl := Except.ok.inj h
    exact ⟨hinterval, hrange⟩

/-- Both counts of a controller section are one at least. -/
theorem readController_eq_ok {c : ControllerSettings} (h : readController fields = .ok c) :
    1 ≤ c.workers ∧ 1 ≤ c.maxRetries := by
  unfold readController at h
  obtain ⟨workers, -, h⟩ := bind_eq_ok.mp h
  obtain ⟨maxRetries, -, h⟩ := bind_eq_ok.mp h
  dsimp only at h
  split at h
  · exact nomatch h
  · rename_i hworkers
    split at h
    · exact nomatch h
    · rename_i hretries
      obtain ⟨_, -, h⟩ := bind_eq_ok.mp h
      obtain ⟨_, -, h⟩ := bind_eq_ok.mp h
      obtain ⟨_, -, h⟩ := bind_eq_ok.mp h
      obtain ⟨_, -, h⟩ := bind_eq_ok.mp h
      obtain rfl := Except.ok.inj h
      exact ⟨Int.not_lt.mp hworkers, Int.not_lt.mp hretries⟩

end Sections

theorem sections_of_ofDocument [Nesting] {document : Value} {entries : Entries} {s : Settings}
    (hentries : document.asMapping? = some entries) (h : ofDocument document = .ok s) :
    (∃ fields, sectionOf entries "webhook" = .ok fields ∧ readWebhook fields = .ok s.webhook) ∧
      (∃ fields, sectionOf entries "metrics" = .ok fields ∧ readMetrics fields = .ok s.metrics) ∧
      ∃ fields, sectionOf entries "controller" = .ok fields ∧ readController fields = .ok s.controller := by
  rw [ofDocument_eq hentries] at h
  obtain ⟨webhookFields, hwebhookFields, h⟩ := bind_eq_ok.mp h
  obtain ⟨webhook, hwebhook, h⟩ := bind_eq_ok.mp h
  obtain ⟨metricsFields, hmetricsFields, h⟩ := bind_eq_ok.mp h
  obtain ⟨metrics, hmetrics, h⟩ := bind_eq_ok.mp h
  obtain ⟨controllerFields, hcontrollerFields, h⟩ := bind_eq_ok.mp h
  obtain ⟨controller, hcontroller, h⟩ := bind_eq_ok.mp h
  obtain rfl := Except.ok.inj h
  exact ⟨⟨_, hwebhookFields, hwebhook⟩, ⟨_, hmetricsFields, hmetrics⟩, _, hcontrollerFields, hcontroller⟩

/-! ## Ranges -/

/-- A document says of the interval that it is no number. -/
def IntervalIsNaN (document : Value) : Prop :=
  ∃ entries v, document.asMapping? = some entries ∧ given entries "webhook" "cert_poll_interval" = some v ∧ v.IsNaN

theorem standard_in_range :
    1 ≤ standard.controller.workers ∧ 1 ≤ standard.controller.maxRetries ∧ 0 < standard.webhook.pollInterval := by
  decide +kernel

/-- **What is accepted is in range, but for an interval that is no number.**  However the numbers of an accepted
document are written, both counts are one at least; and the interval is positive unless the document says that it is
no number, and then it is not. -/
theorem accepted_in_range_iff [Nesting] {document : Value} {s : Settings} (h : ofDocument document = .ok s) :
    1 ≤ s.controller.workers ∧ 1 ≤ s.controller.maxRetries ∧
      (0 < s.webhook.pollInterval ↔ ¬IntervalIsNaN document) := by
  cases hentries : document.asMapping? with
  | none =>
    -- what is no mapping is accepted only when it is empty, and then nothing is said
    have hstandard : s = standard := by
      unfold ofDocument at h
      split at h
      · exact (Except.ok.inj h).symm
      · simp only [hentries] at h
        exact nomatch h
    subst hstandard
    obtain ⟨hworkers, hretries, hinterval⟩ := standard_in_range
    refine ⟨hworkers, hretries, iff_of_true hinterval ?_⟩
    rintro ⟨entries, -, hsome, -⟩
    exact nomatch hentries.symm.trans hsome
  | some entries =>
    obtain ⟨⟨fields, hfields, hwebhook⟩, -, _, -, hcontroller⟩ := sections_of_ofDocument hentries h
    obtain ⟨hworkers, hretries⟩ := readController_eq_ok hcontroller
    obtain ⟨hread, hrange⟩ := readWebhook_eq_ok hwebhook
    refine ⟨hworkers, hretries, (Double.pos_iff_of_not_le_zero hrange).trans (not_congr ?_)⟩
    have hgiven := given_of_section hfields "cert_poll_interval"
    rcases fieldOr_eq_ok.mp hread with ⟨hnone, hstandard⟩ | ⟨v, hsome, hv⟩
    · refine iff_of_false ?_ ?_
      · rw [← hstandard]
        exact fun hnan => Double.not_pos_of_isNaN hnan standard_in_range.2.2
      · rintro ⟨others, v, hothers, hv, -⟩
        obtain rfl := Option.some.inj (hentries.symm.trans hothers)
        exact nomatch (hgiven.trans hnone).symm.trans hv
    · rw [Value.isNaN_toDouble hv]
      constructor
      · exact fun hnan => ⟨entries, v, hentries, hgiven.trans hsome, hnan⟩
      · rintro ⟨others, other, hothers, hother, hnan⟩
        obtain rfl := Option.some.inj (hentries.symm.trans hothers)
        obtain rfl := Option.some.inj ((hgiven.trans hsome).symm.trans hother)
        exact hnan

/-- An interval that is no number is accepted. -/
theorem interval_not_positive_of_nan :
    let document : Value := .mapping [(.text "webhook", .mapping [(.text "cert_poll_interval", .float (0 / 0))])]
    ∃ s, ofDocument document = .ok s ∧ ¬0 < s.webhook.pollInterval := by
  intro document
  obtain ⟨s, hs⟩ : ∃ s, ofDocument document = .ok s := ⟨_, rfl⟩
  refine ⟨s, hs, fun hpos => (accepted_in_range_iff hs).2.2.mp hpos ?_⟩
  refine ⟨_, .float (0 / 0), rfl, rfl, ?_⟩
  change (0 / 0 : Float).isNaN = true
  decide +kernel

end Settings

end NetAttach
