/-
  What becomes of a document that is no settings.

  A document is looked through in a fixed order, and the first thing at fault is what is said of it.  Mostly that is
  a value that does not suit.  But a value can also be of a type from which nothing of the wanted form is made, or be
  too large for it, and then the refusal is of another family: a list for a port, or an infinite one, is not refused
  as a port out of range is.  Nor is a value that is to be a text and is nested too deep to be written: there the
  reading fails.

  Structure:
  1. `Form`: what the fields of a document are read as, and which values are mistyped, oversized or overdeep for it;
  2. `FailsBy`: the family of what goes wrong with one value (`Form.failsBy`);
  3. `checks`: everything that is looked at, in order, and the first fault among it (`tries_ofDocument`);
  4. the family of a refusal, by the first field at fault (`value_refused_iff`).
-/
import NetAttach.Proofs.Number.Double
import NetAttach.Proofs.Success
import NetAttach.Settings.Basic

namespace NetAttach

/-- Numbers are made from a value of this type. -/
def Value.IsNumeric : Value → Prop
  | .bool _ | .int _ | .float _ | .text _ | .scalar (.bytes _) => True
  | _ => False

namespace Settings

/-! ## Forms -/

/-- What a field is read as. -/
inductive Form where
  | truth
  | integer
  | number
  | text
  | path
  | labels

/-- What an attempt failed with, if it did. -/
def faultOf {α : Type} : Except Error α → Option Error
  | .ok _ => none
  | .error e => some e

namespace Form

/-- What keeps a value from being read. -/
def fault? [Nesting] : Form → Value → Option Error
  | truth, _ => none
  | integer, v => faultOf v.toInteger
  | number, v => faultOf v.toDouble
  | text, v => faultOf v.toText
  | path, v => faultOf v.toPath
  | labels, v => faultOf (readLabels v)

/-- The value is of a type from which nothing of this form is made. -/
def Mistyped : Form → Value → Prop
  | integer, v | number, v => ¬v.IsNumeric
  | path, .text _ => False
  | path, _ => True
  | truth, _ | text, _ | labels, _ => False

/-- The value is a number beyond all those of this form: an infinite one for an integer, and for a double an integer
whose nearest double is infinite. -/
def Oversized : Form → Value → Prop
  | integer, .float x => x.isInf = true
  | number, .int n => (Float.ofInt n).isInf = true
  | _, _ => False

/-- The first of the labels that has no text is nested too deep for one. -/
inductive OverdeepLabels [Nesting] : List Value → Prop
  | here {v : Value} {rest : List Value} (h : v.shown Nesting.setting = .error .tooDeep) : OverdeepLabels (v :: rest)
  | later {v : Value} {rest : List Value} {t : Text} (h : v.shown Nesting.setting = .ok t)
      (hrest : OverdeepLabels rest) : OverdeepLabels (v :: rest)

/-- The value has no text, where one is wanted, for it is nested too deep. -/
def Overdeep [Nesting] : Form → Value → Prop
  | text, v => v.shown Nesting.setting = .error .tooDeep
  | labels, v => ∃ items, v.asList? = some items ∧ OverdeepLabels items
  | _, _ => False

end Form

/-! ## The family of a fault -/

/-- An attempt at a value fails for the type of the value, or for its size, or for its depth, or else only because it
does not suit. -/
inductive FailsBy (mistyped oversized overdeep : Prop) (fault : Option Error) : Prop where
  | type {e : Error} : mistyped → ¬oversized → ¬overdeep → fault = some e → e.kind = .type →
    FailsBy mistyped oversized overdeep fault
  | size {e : Error} : ¬mistyped → oversized → ¬overdeep → fault = some e → e.kind = .range →
    FailsBy mistyped oversized overdeep fault
  | depth {e : Error} : ¬mistyped → ¬oversized → overdeep → fault = some e → e.kind = .crash →
    FailsBy mistyped oversized overdeep fault
  | value : ¬mistyped → ¬oversized → ¬overdeep → (∀ e, fault = some e → e.kind = .value) →
    FailsBy mistyped oversized overdeep fault

namespace FailsBy

variable {mistyped oversized overdeep : Prop} {fault : Option Error}

theorem not_of_kind {kind other : ErrorKind} (h : ∀ e, fault = some e → e.kind = kind) (hne : kind ≠ other) :
    ¬∃ e, fault = some e ∧ e.kind = other := by
  rintro ⟨e, he, rfl⟩
  exact hne (h e he).symm

theorem kind_of_some {e : Error} (h : fault = some e) : ∀ other, fault = some other → other.kind = e.kind := by
  intro other hother
  obtain rfl := Option.some.inj (h.symm.trans hother)
  rfl

theorem mistyped_iff (h : FailsBy mistyped oversized overdeep fault) :
    mistyped ↔ ∃ e, fault = some e ∧ e.kind = .type := by
  cases h with
  | type hmistyped _ _ he hkind => exact iff_of_true hmistyped ⟨_, he, hkind⟩
  | size hmistyped _ _ he hkind | depth hmistyped _ _ he hkind =>
    exact iff_of_false hmistyped (not_of_kind (kind_of_some he) (hkind ▸ (nomatch ·)))
  | value hmistyped _ _ hvalue => exact iff_of_false hmistyped (not_of_kind hvalue (nomatch ·))

theorem oversized_iff (h : FailsBy mistyped oversized overdeep fault) :
    oversized ↔ ∃ e, fault = some e ∧ e.kind = .range := by
  cases h with
  | size _ hoversized _ he hkind => exact iff_of_true hoversized ⟨_, he, hkind⟩
  | type _ hoversized _ he hkind | depth _ hoversized _ he hkind =>
    exact iff_of_false hoversized (not_of_kind (kind_of_some he) (hkind ▸ (nomatch ·)))
  | value _ hoversized _ hvalue => exact iff_of_false hoversized (not_of_kind hvalue (nomatch ·))

theorem overdeep_iff (h : FailsBy mistyped oversized overdeep fault) :
    overdeep ↔ ∃ e, fault = some e ∧ e.kind = .crash := by
  cases h with
  | depth _ _ hoverdeep he hkind => exact iff_of_true hoverdeep ⟨_, he, hkind⟩
  | type _ _ hoverdeep he hkind | size _ _ hoverdeep he hkind =>
    exact iff_of_false hoverdeep (not_of_kind (kind_of_some he) (hkind ▸ (nomatch ·)))
  | value _ _ hoverdeep hvalue => exact iff_of_false hoverdeep (not_of_kind hvalue (nomatch ·))

end FailsBy

theorem faultOf_eq_some {α : Type} {x : Except Error α} {e : Error} : faultOf x = some e ↔ x = .error e := by
  cases x with
  | ok a => exact ⟨(nomatch ·), (nomatch ·)⟩
  | error other =>
    exact ⟨fun h => congrArg Except.error (Option.some.inj h), fun h => congrArg some (Except.error.inj h)⟩

theorem faultOf_map {α β : Type} (x : Except Error α) (f : α → β) : faultOf (x.map f) = faultOf x := by
  cases x <;> rfl

theorem failsBy_truncate (x : Float) : FailsBy False (x.isInf = true) False (faultOf (Double.truncate x)) := by
  unfold Double.truncate
  cases hnan : x.isNaN with
  | true =>
    refine .value not_false (Bool.eq_false_iff.mp (Double.isInf_of_isNaN hnan)) not_false fun e he => ?_
    obtain rfl := Option.some.inj he
    rfl
  | false =>
    rw [if_neg Bool.false_ne_true]
    split
    · rename_i hsize
      exact .size not_false ((Double.ofBits?_eq_none_iff hnan).mp hsize) not_false rfl rfl
    · rename_i size hsize
      refine .value not_false ?_ not_false fun e he => nomatch he
      rw [← Double.ofBits?_eq_none_iff hnan, hsize]
      exact (nomatch ·)

theorem failsBy_ofInteger (n : Int) :
    FailsBy False ((Float.ofInt n).isInf = true) False (faultOf (Double.ofInteger n)) := by
  unfold Double.ofInteger
  dsimp only
  split
  · rename_i hinf
    exact .size not_false hinf not_false rfl rfl
  · rename_i hfinite
    exact .value not_false hfinite not_false fun e he => nomatch he

/-- A text or a row of bytes that is no integer does not suit, whatever is wrong with it. -/
theorem kind_integer {x : Except IntegerFault Int} {e : Error} (h : faultOf (x.mapError .integer) = some e) :
    e.kind = .value := by
  cases x with
  | ok n => exact nomatch h
  | error fault =>
    obtain rfl := Option.some.inj h
    rfl

theorem kind_notNumber {x : Option Float} {given : Text} {e : Error}
    (h : faultOf ((x.map .ok).getD (.error (.notNumber given))) = some e) : e.kind = .value := by
  cases x with
  | some x => exact nomatch h
  | none =>
    obtain rfl := Option.some.inj h
    rfl

theorem failsBy_integer [Nesting] (v : Value) :
    FailsBy (Form.integer.Mistyped v) (Form.integer.Oversized v) (Form.integer.Overdeep v) (Form.integer.fault? v) := by
  cases v with
  | scalar s =>
    cases s with
    | null | moment => exact .type not_false not_false not_false rfl rfl
    | bool | int => exact .value (not_not.mpr trivial) not_false not_false fun e he => nomatch he
    | float x =>
      cases failsBy_truncate x with
      | type hno => exact hno.elim
      | depth _ _ hno => exact hno.elim
      | size _ hinf hno he hkind => exact .size (not_not.mpr trivial) hinf hno he hkind
      | value _ hfinite hno hkind => exact .value (not_not.mpr trivial) hfinite hno hkind
    | text | bytes => exact .value (not_not.mpr trivial) not_false not_false fun e he => kind_integer he
  | _ => exact .type not_false not_false not_false rfl rfl

theorem failsBy_number [Nesting] (v : Value) :
    FailsBy (Form.number.Mistyped v) (Form.number.Oversized v) (Form.number.Overdeep v) (Form.number.fault? v) := by
  cases v with
  | scalar s =>
    cases s with
    | null | moment => exact .type not_false not_false not_false rfl rfl
    | bool | float => exact .value (not_not.mpr trivial) not_false not_false fun e he => nomatch he
    | int n =>
      cases failsBy_ofInteger n with
      | type hno => exact hno.elim
      | depth _ _ hno => exact hno.elim
      | size _ hinf hno he hkind => exact .size (not_not.mpr trivial) hinf hno he hkind
      | value _ hfinite hno hkind => exact .value (not_not.mpr trivial) hfinite hno hkind
    | text | bytes => exact .value (not_not.mpr trivial) not_false not_false fun e he => kind_notNumber he
  | _ => exact .type not_false not_false not_false rfl rfl

theorem failsBy_path [Nesting] (v : Value) :
    FailsBy (Form.path.Mistyped v) (Form.path.Oversized v) (Form.path.Overdeep v) (Form.path.fault? v) := by
  cases v with
  | scalar s =>
    cases s with
    | text => exact .value not_false not_false not_false fun e he => nomatch he
    | _ => exact .type trivial not_false not_false rfl rfl
  | _ => exact .type trivial not_false not_false rfl rfl

theorem failsBy_text [Nesting] (v : Value) :
    FailsBy (Form.text.Mistyped v) (Form.text.Oversized v) (Form.text.Overdeep v) (Form.text.fault? v) := by
  unfold Form.Overdeep Form.fault? Value.toText
  simp only
  cases v.shown Nesting.setting with
  | ok t => exact .value not_false not_false (nomatch ·) fun e he => nomatch he
  | error e =>
    cases e with
    | tooDeep => exact .depth not_false not_false rfl rfl rfl
    | longInteger =>
      refine .value not_false not_false (nomatch ·) fun e he => ?_
      obtain rfl := Option.some.inj he
      rfl

/-- By induction on the labels; those in front of the first that has no text make no difference. -/
theorem failsBy_items [Nesting] (items : List Value) :
    FailsBy False False (Form.OverdeepLabels items) (faultOf (items.mapM Value.toText)) := by
  induction items with
  | nil => exact .value not_false not_false (nomatch ·) fun e he => nomatch he
  | cons v rest ih =>
    rw [List.mapM_cons]
    cases hv : v.shown Nesting.setting with
    | ok t =>
      have hrest : Form.OverdeepLabels (v :: rest) ↔ Form.OverdeepLabels rest := by
        refine ⟨fun h => ?_, .later hv⟩
        cases h with
        | here hdeep => exact nomatch hv.symm.trans hdeep
        | later _ hrest => exact hrest
      rw [hrest, Value.toText, hv]
      revert ih
      cases rest.mapM Value.toText <;> exact id
    | error e =>
      cases e with
      | tooDeep =>
        refine .depth not_false not_false (.here hv) (e := .tooDeep) ?_ rfl
        rw [Value.toText, hv]
        rfl
      | longInteger =>
        refine .value not_false not_false (fun h => ?_) fun e he => ?_
        · cases h with
          | here hdeep => exact nomatch hv.symm.trans hdeep
          | later hok => exact nomatch hv.symm.trans hok
        · rw [Value.toText, hv] at he
          obtain rfl := Option.some.inj he
          rfl

theorem failsBy_labels [Nesting] (v : Value) :
    FailsBy (Form.labels.Mistyped v) (Form.labels.Oversized v) (Form.labels.Overdeep v) (Form.labels.fault? v) := by
  unfold Form.Mistyped Form.Oversized Form.Overdeep Form.fault? readLabels
  simp only
  split
  · exact .value not_false not_false (fun ⟨_, hitems, _⟩ => nomatch hitems) fun e he => nomatch he
  · cases v.asList? with
    | none =>
      refine .value not_false not_false (fun ⟨_, hitems, _⟩ => nomatch hitems) fun e he => ?_
      obtain rfl := Option.some.inj he
      rfl
    | some items =>
      simp only [Option.some.injEq, exists_eq_left', faultOf_map]
      exact failsBy_items items

theorem Form.failsBy [Nesting] (form : Form) (v : Value) :
    FailsBy (form.Mistyped v) (form.Oversized v) (form.Overdeep v) (form.fault? v) := by
  cases form with
  | integer => exact failsBy_integer v
  | number => exact failsBy_number v
  | path => exact failsBy_path v
  | text => exact failsBy_text v
  | labels => exact failsBy_labels v
  | truth => exact .value not_false not_false not_false fun e he => nomatch he

/-! ## What is looked at, in order -/

/-- One thing that is looked at. -/
inductive Check where
  /-- The section is a mapping, or left out. -/
  | isMapping (name : Text)
  /-- The field of the section can be read, or is left out. -/
  | reads (name key : Text) (form : Form)
  | intervalPositive
  | someWorkers
  | someRetries

/-- The checks of the webhook section, in order. -/
def webhookChecks : List Check := [
  .reads "webhook" "cert_poll_interval" .number,
  .intervalPositive,
  .reads "webhook" "bind_address" .text,
  .reads "webhook" "port" .integer,
  .reads "webhook" "tls_cert_file" .path,
  .reads "webhook" "tls_private_key_file" .path]

/-- The checks of the metrics section, in order. -/
def metricsChecks : List Check := [
  .reads "metrics" "gauge_labels" .labels,
  .reads "metrics" "listen_address" .text,
  .reads "metrics" "port" .integer]

/-- The checks of the controller section, in order. -/
def controllerChecks : List Check := [
  .reads "controller" "workers" .integer,
  .reads "controller" "max_retries" .integer,
  .someWorkers,
  .someRetries,
  .reads "controller" "enabled" .truth,
  .reads "controller" "base_delay" .number,
  .reads "controller" "max_delay" .number,
  .reads "controller" "watch_timeout" .integer]

/-- The checks of a document, in order. -/
def checks : List Check :=
  .isMapping "webhook" :: webhookChecks ++ .isMapping "metrics" :: metricsChecks ++
    .isMapping "controller" :: controllerChecks

/-- What a document says in a field of a section. -/
def given (document : Entries) (name key : Text) : Option Value :=
  (sectionOf document name).toOption.bind fun fields => Entries.get? fields key

/-- What keeps a value, once it is read, from being taken: that it is out of range. -/
def rangeFault {α : Type} (take : Value → Except Error α) (isOut : α → Bool) (e : Error) (v : Value) : Option Error :=
  match take v with
  | .ok a => if isOut a then some e else none
  | .error _ => none

/-- What a check finds at fault. -/
def Check.fault? [Nesting] (document : Entries) : Check → Option Error
  | isMapping name => faultOf (sectionOf document name)
  | reads name key form => (given document name key).bind form.fault?
  | intervalPositive =>
    (given document "webhook" "cert_poll_interval").bind
      (rangeFault Value.toDouble (fun x => x ≤ 0) .intervalNotPositive)
  | someWorkers => (given document "controller" "workers").bind (rangeFault Value.toInteger (fun n => n < 1) .noWorkers)
  | someRetries =>
    (given document "controller" "max_retries").bind (rangeFault Value.toInteger (fun n => n < 1) .noRetries)

/-- An attempt fails with the first of some faults, and succeeds when there are none. -/
def Tries {α : Type} (faults : List (Option Error)) (x : Except Error α) : Prop := faultOf x = faults.findSome? id

section Trying

variable {α β : Type} {faults : List (Option Error)}

theorem tries_pure (a : α) : Tries [] (Except.ok a) := rfl

/-- One step of a sequence, with what comes after it when it succeeds. -/
theorem tries_bind {fault : Option Error} {x : Except Error α} {f : α → Except Error β} (hx : faultOf x = fault)
    (hf : ∀ a, x = .ok a → Tries faults (f a)) : Tries (fault :: faults) (x >>= f) := by
  unfold Tries
  rw [List.findSome?_cons, ← hx]
  cases x with
  | error e => rfl
  | ok a => exact hf a rfl

/-- A part of a sequence that is a sequence itself. -/
theorem tries_append {others : List (Option Error)} {x : Except Error α} {f : α → Except Error β}
    (hx : Tries faults x) (hf : ∀ a, x = .ok a → Tries others (f a)) : Tries (faults ++ others) (x >>= f) := by
  unfold Tries at hx ⊢
  rw [List.findSome?_append, ← hx]
  cases x with
  | error e => rfl
  | ok a => exact hf a rfl

/-- A comparison that ends a sequence or lets it go on. -/
theorem tries_ite {isOut : Prop} [Decidable isOut] {fault : Option Error} {e : Error} {x : Except Error α}
    {f : Unit → Except Error α} (hfault : fault = if isOut then some e else none) (hx : Tries faults x) :
    Tries (fault :: faults) (if isOut then throw e >>= f else x) := by
  unfold Tries
  rw [List.findSome?_cons, hfault]
  split
  · rfl
  · exact hx

end Trying

section Fields

variable {α : Type} {document fields : Entries} {name key : Text} {other a : α} {take : Value → Except Error α}

theorem given_of_section (h : sectionOf document name = .ok fields) (key : Text) :
    given document name key = Entries.get? fields key := by
  rw [given, h]
  rfl

theorem faultOf_fieldOr :
    faultOf (fieldOr fields key other take) = (Entries.get? fields key).bind fun v => faultOf (take v) := by
  unfold fieldOr
  cases Entries.get? fields key <;> rfl

/-- What is left out is in range, so that only a value that is given can be out of it. -/
theorem rangeFault_eq {isOut : α → Bool} {e : Error} (hother : isOut other = false)
    (h : fieldOr fields key other take = .ok a) :
    (Entries.get? fields key).bind (rangeFault take isOut e) = if isOut a then some e else none := by
  unfold fieldOr at h
  cases hget : Entries.get? fields key with
  | none =>
    rw [hget] at h
    obtain rfl := Except.ok.inj h
    rw [hother]
    rfl
  | some v =>
    rw [hget] at h
    simp only at h
    rw [Option.bind_some, rangeFault, h]

end Fields

section Sections

variable {document fields : Entries} {name : Text}

/-- A field is read from its section as it is from the document. -/
theorem faultOf_field [Nesting] {α : Type} {key : Text} {other : α} {take : Value → Except Error α} {form : Form}
    (h : sectionOf document name = .ok fields) (htake : ∀ v, faultOf (take v) = form.fault? v) :
    faultOf (fieldOr fields key other take) = (Check.reads name key form).fault? document := by
  rw [faultOf_fieldOr, Check.fault?, given_of_section h, funext htake]

theorem tries_readWebhook [Nesting] (h : sectionOf document "webhook" = .ok fields) :
    Tries (webhookChecks.map (Check.fault? document)) (readWebhook fields) := by
  unfold readWebhook
  refine tries_bind (faultOf_field h fun _ => rfl) fun interval hinterval => ?_
  refine tries_ite ?_ ?_
  · rw [Check.fault?, given_of_section h, rangeFault_eq (by decide +kernel) hinterval]
    simp only [decide_eq_true_eq]
  · refine tries_bind (faultOf_field h fun _ => rfl) fun _ _ => ?_
    refine tries_bind (faultOf_field h fun _ => faultOf_map ..) fun _ _ => ?_
    refine tries_bind (faultOf_field h fun _ => rfl) fun _ _ => ?_
    exact tries_bind (faultOf_field h fun _ => rfl) fun _ _ => tries_pure _

theorem tries_readMetrics [Nesting] (h : sectionOf document "metrics" = .ok fields) :
    Tries (metricsChecks.map (Check.fault? document)) (readMetrics fields) := by
  unfold readMetrics
  refine tries_bind ?_ fun _ _ => ?_
  · rw [Check.fault?, given_of_section h, Entries.field]
    cases Entries.get? fields "gauge_labels" <;> rfl
  · refine tries_bind (faultOf_field h fun _ => rfl) fun _ _ => ?_
    exact tries_bind (faultOf_field h fun _ => rfl) fun _ _ => tries_pure _

theorem tries_readController [Nesting] (h : sectionOf document "controller" = .ok fields) :
    Tries (controllerChecks.map (Check.fault? document)) (readController fields) := by
  unfold readController
  refine tries_bind (faultOf_field h fun _ => rfl) fun workers hworkers => ?_
  refine tries_bind (faultOf_field h fun _ => rfl) fun maxRetries hretries => ?_
  refine tries_ite ?_ (tries_ite ?_ ?_)
  · rw [Check.fault?, given_of_section h, rangeFault_eq (by decide) hworkers]
    simp only [decide_eq_true_eq]
  · rw [Check.fault?, given_of_section h, rangeFault_eq (by decide) hretries]
    simp only [decide_eq_true_eq]
  · refine tries_bind (faultOf_field h fun _ => rfl) fun _ _ => ?_
    refine tries_bind (faultOf_field h fun _ => rfl) fun _ _ => ?_
    refine tries_bind (faultOf_field h fun _ => rfl) fun _ _ => ?_
    exact tries_bind (faultOf_field h fun _ => rfl) fun _ _ => tries_pure _

end Sections

theorem ofDocument_eq [Nesting] {document : Value} {entries : Entries} (h : document.asMapping? = some entries) :
    ofDocument document = (do
      let webhook ← readWebhook (← sectionOf entries "webhook")
      let metrics ← readMetrics (← sectionOf entries "metrics")
      let controller ← readController (← sectionOf entries "controller")
      return { webhook, metrics, controller }) := by
  unfold ofDocument
  split
  · exact nomatch h
  · simp only [h]

/-- A document that is a mapping is refused for the first check that finds a fault. -/
theorem tries_ofDocument [Nesting] {document : Value} {entries : Entries} (h : document.asMapping? = some entries) :
    Tries (checks.map (Check.fault? entries)) (ofDocument document) := by
  rw [ofDocument_eq h, checks, List.map_append, List.map_append, List.append_assoc]
  refine tries_bind rfl fun _ hwebhook => tries_append (tries_readWebhook hwebhook) fun _ _ => ?_
  refine tries_bind rfl fun _ hmetrics => tries_append (tries_readMetrics hmetrics) fun _ _ => ?_
  refine tries_bind rfl fun _ hcontroller => ?_
  rw [← List.append_nil (List.map _ _)]
  exact tries_append (tries_readController hcontroller) fun _ _ => tries_pure _

theorem ofDocument_eq_error_iff [Nesting] {document : Value} {entries : Entries}
    (h : document.asMapping? = some entries) {e : Error} :
    ofDocument document = .error e ↔ ∃ before c after, checks = before ++ c :: after ∧
      (∀ b ∈ before, b.fault? entries = none) ∧ c.fault? entries = some e := by
  have htries := tries_ofDocument h
  unfold Tries at htries
  rw [← faultOf_eq_some, htries, List.findSome?_map, List.findSome?_eq_some_iff]
  constructor
  · rintro ⟨before, c, after, hsplit, hfault, hbefore⟩
    exact ⟨before, c, after, hsplit, hbefore, hfault⟩
  · rintro ⟨before, c, after, hsplit, hbefore, hfault⟩
    exact ⟨before, c, after, hsplit, hfault, hbefore⟩

/-! ## The family of a refusal -/

/-- What is at fault first is a field, and it is given a value as `P` says. -/
def FirstAtFault [Nesting] (P : Form → Value → Prop) (document : Value) : Prop :=
  ∃ entries before name key form after v, document.asMapping? = some entries ∧
    checks = before ++ .reads name key form :: after ∧ (∀ c ∈ before, c.fault? entries = none) ∧
    given entries name key = some v ∧ P form v

/-- Only fields are refused for more than their values: what a section is and which range a number is in never are. -/
theorem Check.cases_of_kind [Nesting] {document : Entries} {c : Check} {e : Error} (h : c.fault? document = some e)
    (hkind : e.kind ≠ .value) :
    ∃ name key form v, c = .reads name key form ∧ given document name key = some v ∧ form.fault? v = some e := by
  have hrange {α : Type} {take : Value → Except Error α} {isOut : α → Bool} {other : Error} {v? : Option Value}
      (hother : other.kind = .value) (h : v?.bind (rangeFault take isOut other) = some e) : False := by
    obtain ⟨v, -, hv⟩ := Option.bind_eq_some_iff.mp h
    unfold rangeFault at hv
    split at hv
    · split at hv
      · exact hkind (Option.some.inj hv ▸ hother)
      · exact nomatch hv
    · exact nomatch hv
  cases c with
  | isMapping name =>
    have hsection := faultOf_eq_some.mp h
    unfold sectionOf at hsection
    split at hsection
    · exact nomatch hsection
    · split at hsection
      · exact nomatch hsection
      · obtain rfl := Except.error.inj hsection
        exact absurd rfl hkind
  | reads name key form =>
    obtain ⟨v, hgiven, hv⟩ := Option.bind_eq_some_iff.mp h
    exact ⟨name, key, form, v, rfl, hgiven, hv⟩
  | intervalPositive | someWorkers | someRetries => exact (hrange rfl h).elim

/-- A refusal of another family than that of values, by what is at fault first. -/
theorem refused_iff [Nesting] (document : Value) (kind : ErrorKind) (hkind : kind ≠ .value) :
    (∃ e, ofDocument document = .error e ∧ e.kind = kind) ↔
      FirstAtFault (fun form v => ∃ e, form.fault? v = some e ∧ e.kind = kind) document := by
  constructor
  · rintro ⟨e, he, rfl⟩
    cases hentries : document.asMapping? with
    | none =>
      unfold ofDocument at he
      split at he
      · exact nomatch he
      · simp only [hentries] at he
        obtain rfl := Except.error.inj he
        exact absurd rfl hkind
    | some entries =>
      obtain ⟨before, c, after, hsplit, hbefore, hfault⟩ := (ofDocument_eq_error_iff hentries).mp he
      obtain ⟨name, key, form, v, rfl, hgiven, hv⟩ := Check.cases_of_kind hfault hkind
      exact ⟨entries, before, name, key, form, after, v, hentries, hsplit, hbefore, hgiven, e, hv, rfl⟩
  · rintro ⟨entries, before, name, key, form, after, v, hentries, hsplit, hbefore, hgiven, e, hv, rfl⟩
    refine ⟨e, (ofDocument_eq_error_iff hentries).mpr ⟨before, _, after, hsplit, hbefore, ?_⟩, rfl⟩
    rw [Check.fault?, hgiven]
    exact hv

/-- There are four families of refusals. -/
theorem kind_cases (e : Error) : e.kind = .value ∨ e.kind = .type ∨ e.kind = .range ∨ e.kind = .crash := by
  cases e <;> simp [Error.kind]

/-- **A document is refused for a value, unless the first field at fault is mistyped, oversized or overdeep.**  A
document is either taken for settings or refused for a value that does not suit, except when the first check that finds
a fault meets a value of a type from which nothing of the wanted form is made, a number that is too large for it, or a
value that is nested too deep to have a text; then, and only then, the refusal is of the family of types, of that of
ranges, or no refusal but a failure. -/
theorem value_refused_iff [Nesting] (document : Value) :
    (((∃ s, ofDocument document = .ok s) ∨ ∃ e, ofDocument document = .error e ∧ e.kind = .value) ↔
      ¬FirstAtFault Form.Mistyped document ∧ ¬FirstAtFault Form.Oversized document ∧
        ¬FirstAtFault Form.Overdeep document) ∧
    ((∃ e, ofDocument document = .error e ∧ e.kind = .type) ↔ FirstAtFault Form.Mistyped document) ∧
    ((∃ e, ofDocument document = .error e ∧ e.kind = .range) ↔ FirstAtFault Form.Oversized document) ∧
    ((∃ e, ofDocument document = .error e ∧ e.kind = .crash) ↔ FirstAtFault Form.Overdeep document) := by
  have htype : (∃ e, ofDocument document = .error e ∧ e.kind = .type) ↔ FirstAtFault Form.Mistyped document := by
    refine (refused_iff document .type (by decide)).trans ?_
    simp only [FirstAtFault, (Form.failsBy _ _).mistyped_iff]
  have hrange : (∃ e, ofDocument document = .error e ∧ e.kind = .range) ↔ FirstAtFault Form.Oversized document := by
    refine (refused_iff document .range (by decide)).trans ?_
    simp only [FirstAtFault, (Form.failsBy _ _).oversized_iff]
  have hcrash : (∃ e, ofDocument document = .error e ∧ e.kind = .crash) ↔ FirstAtFault Form.Overdeep document := by
    refine (refused_iff document .crash (by decide)).trans ?_
    simp only [FirstAtFault, (Form.failsBy _ _).overdeep_iff]
  refine ⟨?_, htype, hrange, hcrash⟩
  rw [← htype, ← hrange, ← hcrash]
  constructor
  · rintro (⟨s, hs⟩ | ⟨e, he, hkind⟩)
    · have hnone (kind : ErrorKind) : ¬∃ e, ofDocument document = .error e ∧ e.kind = kind := by
        rintro ⟨e, he, -⟩
        cases hs.symm.trans he
      exact ⟨hnone .type, hnone .range, hnone .crash⟩
    · have hother {kind : ErrorKind} (hne : kind ≠ .value) : ¬∃ e, ofDocument document = .error e ∧ e.kind = kind := by
        rintro ⟨other, hother, rfl⟩
        obtain rfl := Except.error.inj (he.symm.trans hother)
        exact hne hkind
      exact ⟨hother (by decide), hother (by decide), hother (by decide)⟩
  · rintro ⟨hnotype, hnorange, hnocrash⟩
    cases hdocument : ofDocument document with
    | ok s => exact Or.inl ⟨s, rfl⟩
    | error e =>
      rcases kind_cases e with hvalue | hother | hother | hother
      · exact Or.inr ⟨e, rfl, hvalue⟩
      · exact absurd ⟨e, hdocument, hother⟩ hnotype
      · exact absurd ⟨e, hdocument, hother⟩ hnorange
      · exact absurd ⟨e, hdocument, hother⟩ hnocrash

/-- A list for a port is neither taken nor refused for its value. -/
theorem not_value_refused_of_list_port :
    let document : Value := .mapping [(.text "webhook", .mapping [(.text "port", .list [])])]
    ¬((∃ s, ofDocument document = .ok s) ∨ ∃ e, ofDocument document = .error e ∧ e.kind = .value) := by
  intro document hclaim
  obtain ⟨hiff, htype, -⟩ := value_refused_iff document
  have hrefused : ofDocument document = .error (.notIntegral "list") := faultOf_eq_some.mp (by decide +kernel)
  exact (hiff.mp hclaim).1 (htype.mp ⟨_, hrefused, rfl⟩)

end Settings

end NetAttach
