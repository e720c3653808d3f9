/-
  What the cluster is answered.

  Whatever is sent to one of the two endpoints, there is an answer: the request is refused, with 400 or 415, or there is
  a decision on the object in it and the answer is 200.  There is no decision on a pod whose annotation holds an integer
  with too many digits, nor where something is nested deeper than there is room for: the body, a name or an annotation
  of the object, what the annotation of a pod holds or the configuration of an attachment.  Then the answer is 500, and
  so it is where the answer would be nested too deep itself, since it repeats the identifier of the request.

  Structure:
  1. `Carries`: what a request is that carries a review, and `read_eq_ok`, that these are read;
  2. `Endpoint.decide_cases`: there is a decision, and a denial says something, unless the endpoint fails;
  3. `Envelope`: what the answer says of the request and of the decision;
  4. the answers, first to a request that is refused, then to one that carries a review.
-/
import NetAttach.Proofs.Admission.Agreement
import NetAttach.Proofs.Admission.Sendable
import NetAttach.Proofs.Json.Plain
import NetAttach.Proofs.Selection.Failing

namespace NetAttach

open Selection Http Json

/-! ## Requests that carry a review -/

/-- The body is not empty and is JSON by its media type, and it decodes to an object of the kind
`AdmissionReview` whose request is a mapping. -/
structure Carries [Nesting] (body : Bytes) (mediaType : Option Text) (review : Review) : Prop where
  nonempty : body ≠ []
  json : mediaType = some "application/json"
  decoded : Json.readBytes Nesting.review body = .ok (.mapping review.fields)
  kind : Entries.field review.fields "kind" = .text "AdmissionReview"
  request : Entries.field review.fields "request" = .mapping review.request

theorem ofValue_eq_ok {v : Value} {review : Review} :
    Review.ofValue v = .ok review ↔
      v = .mapping review.fields ∧ Entries.field review.fields "kind" = .text "AdmissionReview" ∧
        Entries.field review.fields "request" = .mapping review.request := by
  constructor
  · intro h
    unfold Review.ofValue at h
    split at h
    · split at h
      · rename_i hkind
        split at h
        · rename_i hrequest
          obtain rfl := Except.ok.inj h
          exact ⟨rfl, hkind, hrequest⟩
        · exact nomatch h
      · exact nomatch h
    · exact nomatch h
  · rintro ⟨rfl, hkind, hrequest⟩
    have hname : Entries.field review.fields "kind" = .text Review.kind := hkind
    simp only [Review.ofValue, if_pos hname, hrequest]

theorem read_eq_ok [Nesting] {body : Bytes} {mediaType : Option Text} {review : Review} :
    Review.read body mediaType = .ok review ↔ Carries body mediaType review := by
  unfold Review.read
  constructor
  · intro h
    split at h
    · exact nomatch h
    · rename_i hbody
      split at h
      · exact nomatch h
      · rename_i htype
        split at h
        · exact nomatch h
        · exact nomatch h
        · rename_i v hdecoded
          obtain ⟨rfl, hkind, hrequest⟩ := ofValue_eq_ok.mp h
          have hnonempty : body ≠ [] := mt List.isEmpty_iff.mpr hbody
          exact ⟨hnonempty, not_not.mp htype, hdecoded, hkind, hrequest⟩
  · intro h
    have hbody : ¬body.isEmpty = true := mt List.isEmpty_iff.mp h.nonempty
    have htype : ¬mediaType ≠ some Review.mediaType := not_not.mpr h.json
    rw [if_neg hbody, if_neg htype, h.decoded]
    exact ofValue_eq_ok.mpr ⟨rfl, h.kind, h.request⟩

/-- The body is JSON by its media type, and it is nested too deep. -/
structure Burdened [Nesting] (body : Bytes) (mediaType : Option Text) (c : Collection) : Prop where
  nonempty : body ≠ []
  json : mediaType = some "application/json"
  refused : Json.readBytes Nesting.review body = .error (.json (.tooDeep c))

/-- What is wrong with a decoded body has nothing to do with its media type or its depth. -/
theorem ofValue_eq_error {v : Value} {e : Review.Error} (h : Review.ofValue v = .error e) :
    e = .otherKind ∨ e = .noRequest := by
  unfold Review.ofValue at h
  split at h
  · split at h
    · split at h
      · exact nomatch h
      · exact Or.inr (Except.error.inj h).symm
    · exact Or.inl (Except.error.inj h).symm
  · exact Or.inl (Except.error.inj h).symm

theorem read_eq_tooDeep [Nesting] {body : Bytes} {mediaType : Option Text} {c : Collection} :
    Review.read body mediaType = .error (.tooDeep c) ↔ Burdened body mediaType c := by
  unfold Review.read
  constructor
  · intro h
    split at h
    · exact nomatch h
    · rename_i hbody
      split at h
      · exact nomatch h
      · rename_i htype
        split at h
        · rename_i d hdecoded
          obtain rfl := Review.Error.tooDeep.inj (Except.error.inj h)
          exact ⟨mt List.isEmpty_iff.mpr hbody, not_not.mp htype, hdecoded⟩
        · exact nomatch h
        · rcases ofValue_eq_error h with h | h <;> exact nomatch h
  · intro h
    have hbody : ¬body.isEmpty = true := mt List.isEmpty_iff.mp h.nonempty
    have htype : ¬mediaType ≠ some Review.mediaType := not_not.mpr h.json
    rw [if_neg hbody, if_neg htype, h.refused]

theorem read_eq_contentType [Nesting] {body : Bytes} {mediaType given : Option Text} :
    Review.read body mediaType = .error (.contentType given) ↔
      body ≠ [] ∧ mediaType ≠ some Review.mediaType ∧ given = mediaType := by
  unfold Review.read
  constructor
  · intro h
    split at h
    · exact nomatch h
    · rename_i hbody
      have hnonempty : body ≠ [] := mt List.isEmpty_iff.mpr hbody
      split at h
      · rename_i htype
        exact ⟨hnonempty, htype, (Review.Error.contentType.inj (Except.error.inj h)).symm⟩
      · split at h
        · exact nomatch h
        · exact nomatch h
        · rcases ofValue_eq_error h with h | h <;> exact nomatch h
  · rintro ⟨hnonempty, htype, rfl⟩
    have hbody : ¬body.isEmpty = true := mt List.isEmpty_iff.mp hnonempty
    rw [if_neg hbody, if_pos htype]

/-- The media type holds a surrogate.  No header carries such a media type. -/
def Unsendable (mediaType : Option Text) : Prop := ∃ t, mediaType = some t ∧ isSendable t = false

theorem isSendable_mediaType : isSendable Review.mediaType = true := isSendable_ofString _

/-- A refusal cannot be sent if it has to repeat such a media type. -/
theorem not_isSendable_of_read [Nesting] {body : Bytes} {mediaType : Option Text} {e : Review.Error}
    (h : Review.read body mediaType = .error e) :
    ¬isSendable e.message = true ↔ body ≠ [] ∧ Unsendable mediaType := by
  rw [isSendable_message]
  constructor
  · intro hnot
    push Not at hnot
    obtain ⟨t, rfl, ht⟩ := hnot
    obtain ⟨hbody, -, hgiven⟩ := read_eq_contentType.mp h
    exact ⟨hbody, t, hgiven.symm, Bool.eq_false_iff.mpr ht⟩
  · rintro ⟨hbody, t, rfl, ht⟩ hall
    have htype : some t ≠ some Review.mediaType := by
      intro hsame
      rw [Option.some.inj hsame, isSendable_mediaType] at ht
      exact nomatch ht
    have hread := read_eq_contentType.mpr ⟨hbody, htype, rfl⟩
    obtain rfl := Except.error.inj (h.symm.trans hread)
    rw [hall t rfl] at ht
    exact nomatch ht

/-! ## Decisions -/

/-- An object that is not taken is denied with a message, unless a name or an annotation is nested too deep. -/
theorem ofObjectError_cases (e : ObjectError) :
    (∃ decision, Decision.ofObjectError e = .ok decision ∧ decision.message ≠ [] ∧ e ≠ .tooDeep) ∨
      e = .tooDeep ∧ Decision.ofObjectError e = .error (.tooDeep .showing) := by
  cases e with
  | tooDeep => exact Or.inr ⟨rfl, rfl⟩
  | _ => exact Or.inl ⟨_, rfl, by decide, (nomatch ·)⟩

/-- There is a decision on a pod unless its annotation is unreadable. -/
theorem decideIsolation_cases [Nesting] (networks : Option Text) :
    (∃ decision, decideIsolation networks = .ok decision ∧
        (decision.allowed = false → decision.message ≠ []) ∧
        ¬∃ raw f, networks = some raw ∧ Unreadable raw f) ∨
      ∃ raw f, networks = some raw ∧ Unreadable raw f ∧ decideIsolation networks = .error f := by
  match networks with
  | none => exact Or.inl ⟨.allow [], rfl, (nomatch ·), fun ⟨_, _, h, _⟩ => nomatch h⟩
  | some [] =>
    refine Or.inl ⟨.allow [], rfl, (nomatch ·), ?_⟩
    rintro ⟨raw, f, h, hf⟩
    obtain rfl := Option.some.inj h
    obtain ⟨e, he, hreason⟩ := (parse_fails_iff []).mpr hf
    obtain rfl : Error.empty = e := Except.error.inj he
    exact nomatch hreason
  | some (c :: rest) =>
    have hread : ∀ raw f, some (c :: rest) = some raw → Unreadable raw f →
        ∃ e, parse (c :: rest) localNamespace = .error e ∧ e.reason = .error f := by
      intro raw f h hf
      obtain rfl := Option.some.inj h
      exact (parse_fails_iff _).mpr hf
    simp only [decideIsolation]
    cases hparse : parse (c :: rest) localNamespace with
    | ok references =>
      have hno : ¬∃ raw f, some (c :: rest) = some raw ∧ Unreadable raw f := by
        rintro ⟨raw, f, h, hf⟩
        obtain ⟨e, he, -⟩ := hread raw f h hf
        exact nomatch hparse.symm.trans he
      simp only
      split
      · exact Or.inl ⟨_, rfl, fun _ => Decision.deny_message_ne_nil _ _, hno⟩
      · exact Or.inl ⟨_, rfl, (nomatch ·), hno⟩
    | error e =>
      simp only
      cases hreason : e.reason with
      | ok reason =>
        refine Or.inl ⟨_, rfl, fun _ => Decision.deny_message_ne_nil _ _, ?_⟩
        rintro ⟨raw, f, h, hf⟩
        obtain ⟨other, he, hfails⟩ := hread raw f h hf
        obtain rfl := Except.error.inj (hparse.symm.trans he)
        exact nomatch hreason.symm.trans hfails
      | error f => exact Or.inr ⟨_, f, rfl, (parse_fails_iff _).mp ⟨e, hparse, hreason⟩, rfl⟩

/-- The two endpoints, for attachments and for pods. -/
inductive Endpoint where
  | validate
  | isolate
deriving DecidableEq

namespace Endpoint

def path : Endpoint → Bytes
  | validate => validatePath
  | isolate => isolatePath

def decide [Nesting] : Endpoint → Value → Except Failure Decision
  | validate => reviewAttachment
  | isolate => reviewPod

/-- A request that posts something to the endpoint. -/
def request (e : Endpoint) (mediaType : Option Text) (body : Bytes) : Request :=
  ⟨"post", e.path, mediaType, body⟩

/-- What makes the endpoint fail: an attachment whose configuration is nested too deep, a pod whose annotation is
unreadable, or an object with a name or an annotation that is nested too deep. -/
inductive Fails [Nesting] : Endpoint → Value → Failure → Prop
  | attachment {object : Value} {a : Attachment} {d : Descent} (h : Attachment.ofValue object = .ok a)
      (hdeep : a.TooDeep d) : Fails validate object (.tooDeep d)
  | attachmentName {object : Value} (h : Attachment.ofValue object = .error .tooDeep) :
      Fails validate object (.tooDeep .showing)
  | pod {object : Value} {pod : SubmittedPod} {raw : Text} {f : Failure} (h : SubmittedPod.ofValue object = .ok pod)
      (hnetworks : pod.networks? = some raw) (hf : Unreadable raw f) : Fails isolate object f
  | podName {object : Value} (h : SubmittedPod.ofValue object = .error .tooDeep) :
      Fails isolate object (.tooDeep .showing)

/-- There is a decision on every object that does not make the endpoint fail, and a denial says something. -/
theorem decide_cases [Nesting] (e : Endpoint) (object : Value) :
    (∃ decision, e.decide object = .ok decision ∧ (decision.allowed = false → decision.message ≠ []) ∧
        ∀ f, ¬e.Fails object f) ∨
      ∃ f, e.decide object = .error f ∧ e.Fails object f := by
  cases e with
  | validate =>
    unfold Endpoint.decide reviewAttachment
    simp only
    cases hobject : Attachment.ofValue object with
    | error e =>
      rcases ofObjectError_cases e with ⟨decision, hdecide, hmessage, hne⟩ | ⟨rfl, hdecide⟩
      · refine Or.inl ⟨decision, hdecide, fun _ => hmessage, fun f hf => ?_⟩
        cases hf with
        | attachment h _ => exact nomatch hobject.symm.trans h
        | attachmentName h => exact hne (Except.error.inj (hobject.symm.trans h))
      · exact Or.inr ⟨_, hdecide, .attachmentName hobject⟩
    | ok attachment =>
      simp only
      rcases attachment.decide_cases with ⟨d, hd, hdecide⟩ | ⟨hdeep, hdecide⟩
      · exact Or.inr ⟨_, hdecide, .attachment hobject hd⟩
      · have hno : ∀ f, ¬validate.Fails object f := by
          intro f hf
          cases hf with
          | attachment h hd =>
            obtain rfl := Except.ok.inj (hobject.symm.trans h)
            exact hdeep _ hd
          | attachmentName h => exact nomatch hobject.symm.trans h
        rcases hdecide with ⟨-, hdecide⟩ | ⟨refusal, reason, -, hdecide⟩
        · exact Or.inl ⟨_, hdecide, (nomatch ·), hno⟩
        · exact Or.inl ⟨_, hdecide, fun _ => Decision.deny_message_ne_nil _ _, hno⟩
  | isolate =>
    unfold Endpoint.decide reviewPod
    simp only
    cases hobject : SubmittedPod.ofValue object with
    | error e =>
      rcases ofObjectError_cases e with ⟨decision, hdecide, hmessage, hne⟩ | ⟨rfl, hdecide⟩
      · refine Or.inl ⟨decision, hdecide, fun _ => hmessage, fun f hf => ?_⟩
        cases hf with
        | pod h _ _ => exact nomatch hobject.symm.trans h
        | podName h => exact hne (Except.error.inj (hobject.symm.trans h))
      · exact Or.inr ⟨_, hdecide, .podName hobject⟩
    | ok pod =>
      simp only
      rcases decideIsolation_cases pod.networks? with
        ⟨decision, hdecide, hmessage, hno⟩ | ⟨raw, f, hnetworks, hf, hdecide⟩
      · refine Or.inl ⟨decision, hdecide, hmessage, fun f hf => ?_⟩
        cases hf with
        | pod h hnetworks hf =>
          obtain rfl := Except.ok.inj (hobject.symm.trans h)
          exact hno ⟨_, f, hnetworks, hf⟩
        | podName h => exact nomatch hobject.symm.trans h
      · exact Or.inr ⟨f, hdecide, .pod hobject hnetworks hf⟩

end Endpoint

/-! ## Envelopes -/

/-- The answer `whole`, with the response `inner` in it, repeats the identifier of the request and the version of
the review, and says what was decided. -/
structure Envelope (review : Review) (decision : Decision) (whole inner : Entries) : Prop where
  version : whole.get? "apiVersion" =
    some ((Entries.field review.fields "apiVersion").orElse (.text "admission.k8s.io/v1"))
  kind : whole.get? "kind" = some (.text "AdmissionReview")
  response : whole.get? "response" = some (.mapping inner)
  uid : inner.get? "uid" = some ((review.request.get? "uid").getD (.text []))
  allowed : inner.get? "allowed" = some (.bool decision.allowed)
  status : decision.message ≠ [] →
    inner.get? "status" = some (.mapping [(.text "message", .text decision.message)])

theorem orElse_mapping (entries : Entries) : (Value.mapping entries).orElse (.mapping []) = .mapping entries := by
  cases entries with
  | nil => rfl
  | cons e rest => rfl

/-- A review that was read can be answered. -/
theorem answer_of_request {review : Review}
    (h : Entries.field review.fields "request" = .mapping review.request) (decision : Decision) :
    ∃ whole inner, Review.answer (.mapping review.fields) decision = .ok (.mapping whole) ∧
      Envelope review decision whole inner := by
  have hrequest : ((Entries.get? review.fields "request").getD .null).orElse (.mapping []) =
      .mapping review.request := by
    unfold Entries.field at h
    rw [h, orElse_mapping]
  let version : Value := (Entries.field review.fields "apiVersion").orElse (.text Review.defaultVersion)
  let uid : Value := (Entries.get? review.request "uid").getD (.text [])
  let status : Entries :=
    if decision.message.isEmpty then []
    else [(.text "status", .mapping [(.text "message", .text decision.message)])]
  let inner : Entries := [(.text "uid", uid), (.text "allowed", .bool decision.allowed)] ++ status
  refine ⟨[(.text "apiVersion", version), (.text "kind", .text Review.kind), (.text "response", .mapping inner)],
    inner, ?_, rfl, rfl, rfl, rfl, rfl, fun hmessage => ?_⟩
  · simp only [Review.answer, Review.fieldOf, bind, Except.bind, hrequest]
    rfl
  · have hne : ¬decision.message.isEmpty = true := mt List.isEmpty_iff.mp hmessage
    simp only [inner, status, if_neg hne]
    rfl

/-! ## Answers -/

theorem status_of_refusal {e : Review.Error} (h : ∀ c, e ≠ .tooDeep c) : e.status = 400 ∨ e.status = 415 := by
  cases e with
  | contentType given => exact Or.inr rfl
  | tooDeep c => exact absurd rfl (h c)
  | _ => exact Or.inl rfl

section Answers

variable [Nesting] {decide : Value → Except Failure Decision} {r : Request}

theorem answerReview_of_burdened {c : Collection} (h : Burdened r.body r.mediaType c) :
    answerReview decide r = .failed := by
  simp only [answerReview, read_eq_tooDeep.mpr h]

/-- A request that is refused is told so, unless the refusal cannot be sent. -/
theorem answerReview_of_refusal {e : Review.Error} (h : Review.read r.body r.mediaType = .error e)
    (hdeep : ∀ c, e ≠ .tooDeep c) :
    answerReview decide r =
      if isSendable e.message then ⟨e.status, some ⟨e.message, "text/plain"⟩⟩ else .failed := by
  simp only [answerReview, h]

theorem answerReview_of_failure {review : Review} {f : Failure} (h : Carries r.body r.mediaType review)
    (hdecide : decide (review.request.field "object") = .error f) : answerReview decide r = .failed := by
  simp only [answerReview, read_eq_ok.mpr h, hdecide]

theorem answerReview_of_decision {review : Review} {decision : Decision} (h : Carries r.body r.mediaType review)
    (hdecide : decide (review.request.field "object") = .ok decision) :
    ∃ whole inner, Review.answer (.mapping review.fields) decision = .ok (.mapping whole) ∧
      answerReview decide r =
        (if Nesting.answer < (Value.mapping whole).depth then .failed
        else .ok Review.mediaType (Json.write (.mapping whole) ++ "\n")) ∧
      Envelope review decision whole inner := by
  obtain ⟨whole, inner, hanswer, henvelope⟩ := answer_of_request h.request decision
  refine ⟨whole, inner, hanswer, ?_, henvelope⟩
  simp only [answerReview, read_eq_ok.mpr h, hdecide, hanswer]

end Answers

namespace Endpoint

section Answers

variable [Nesting] (e : Endpoint) {mediaType : Option Text} {body : Bytes}

theorem admission_request (mediaType : Option Text) (body : Bytes) :
    admission (e.request mediaType body) = answerReview e.decide (e.request mediaType body) := by
  cases e with
  | validate => rfl
  | isolate => rfl

/-- What makes the endpoint fail on a request: a body that is nested too deep, a review of an object that makes it fail,
or one with an identifier or a version that is nested too deep to be repeated. -/
inductive FailsOn (mediaType : Option Text) (body : Bytes) : Failure → Prop
  | body {c : Collection} (h : Burdened body mediaType c) : FailsOn mediaType body (.tooDeep (.reading c))
  | object {review : Review} {f : Failure} (hcarries : Carries body mediaType review)
      (hfails : e.Fails (review.request.field "object") f) : FailsOn mediaType body f
  | answer {review : Review} {decision : Decision} {envelope : Value} (hcarries : Carries body mediaType review)
      (hdecide : e.decide (review.request.field "object") = .ok decision)
      (hanswer : Review.answer (.mapping review.fields) decision = .ok envelope)
      (hdeep : Nesting.answer < envelope.depth) : FailsOn mediaType body (.tooDeep .writing)

/-- The endpoint for attachments fails only for depth, the one for pods also for an integer that is too long. -/
theorem FailsOn.cause {f : Failure} (h : e.FailsOn mediaType body f) :
    (∃ d, f = .tooDeep d) ∨ e = isolate ∧ ∃ n, f = .longInteger n := by
  cases h with
  | body h => exact Or.inl ⟨_, rfl⟩
  | object hcarries hfails =>
    cases hfails with
    | pod h hnetworks hf =>
      cases hf with
      | longInteger h => exact Or.inr ⟨rfl, _, rfl⟩
      | tooDeep h => exact Or.inl ⟨_, rfl⟩
    | _ => exact Or.inl ⟨_, rfl⟩
  | answer => exact Or.inl ⟨_, rfl⟩

/-- What is said of the answer to a request that is posted to the endpoint. -/
structure Answered (mediaType : Option Text) (body : Bytes) (answer : Answer) : Prop where
  failed : answer.status = 500 ↔ (∃ f, e.FailsOn mediaType body f) ∨ (body ≠ [] ∧ Unsendable mediaType)
  cause : ∀ f, e.FailsOn mediaType body f → (∃ d, f = .tooDeep d) ∨ e = isolate ∧ ∃ n, f = .longInteger n
  decided : answer.status = 200 ↔ (∃ review, Carries body mediaType review) ∧ ∀ f, ¬e.FailsOn mediaType body f
  known : answer.status = 200 ∨ answer.status = 400 ∨ answer.status = 415 ∨ answer.status = 500
  content : ∀ review, Carries body mediaType review → answer.status = 200 →
    ∃ decision whole inner, e.decide (review.request.field "object") = .ok decision ∧
      answer.content = some ⟨Json.write (.mapping whole) ++ "\n", "application/json"⟩ ∧
      Envelope review decision whole inner ∧ (decision.allowed = false → decision.message ≠ [])

theorem answered_of_burdened {c : Collection} (h : Burdened body mediaType c) :
    e.Answered mediaType body (answerReview e.decide (e.request mediaType body)) := by
  have hfails : e.FailsOn mediaType body (.tooDeep (.reading c)) := .body h
  rw [answerReview_of_burdened (r := e.request mediaType body) h]
  constructor
  · exact ⟨fun _ => Or.inl ⟨_, hfails⟩, fun _ => rfl⟩
  · exact fun f hf => hf.cause
  · exact ⟨(nomatch ·), fun hno => absurd hfails (hno.2 _)⟩
  · exact Or.inr (Or.inr (Or.inr rfl))
  · exact fun _ _ hstatus => nomatch hstatus

theorem answered_of_refusal {refusal : Review.Error} (hread : Review.read body mediaType = .error refusal)
    (hdeep : ∀ c, refusal ≠ .tooDeep c) :
    e.Answered mediaType body (answerReview e.decide (e.request mediaType body)) := by
  have hcarries : ∀ review, ¬Carries body mediaType review := by
    intro review h
    exact nomatch hread.symm.trans (read_eq_ok.mpr h)
  have hfails : ¬∃ f, e.FailsOn mediaType body f := by
    rintro ⟨f, hf⟩
    cases hf with
    | body h => exact hdeep _ (Except.error.inj (hread.symm.trans (read_eq_tooDeep.mpr h)))
    | object h _ => exact hcarries _ h
    | answer h _ _ _ => exact hcarries _ h
  have hno : ¬∃ review, Carries body mediaType review := fun ⟨review, h⟩ => hcarries review h
  have hsend := not_isSendable_of_read hread
  have hknown := status_of_refusal hdeep
  rw [answerReview_of_refusal (r := e.request mediaType body) hread hdeep]
  -- the refusal is sent with its own status, which is neither 200 nor 500, unless it cannot be sent
  by_cases hsendable : isSendable refusal.message = true
  · have hunsendable : ¬(body ≠ [] ∧ Unsendable mediaType) := fun h => hsend.mpr h hsendable
    rw [if_pos hsendable]
    constructor
    · refine ⟨fun (h : refusal.status = 500) => ?_, fun h => absurd h (not_or.mpr ⟨hfails, hunsendable⟩)⟩
      omega
    · exact fun f hf => hf.cause
    · refine ⟨fun (h : refusal.status = 200) => ?_, fun h => absurd h.1 hno⟩
      omega
    · show refusal.status = 200 ∨ refusal.status = 400 ∨ refusal.status = 415 ∨ refusal.status = 500
      omega
    · exact fun review h => absurd h (hcarries review)
  · rw [if_neg hsendable]
    constructor
    · exact ⟨fun _ => Or.inr (hsend.mp hsendable), fun _ => rfl⟩
    · exact fun f hf => hf.cause
    · exact ⟨(nomatch ·), fun h => absurd h.1 hno⟩
    · exact Or.inr (Or.inr (Or.inr rfl))
    · exact fun review h => absurd h (hcarries review)

theorem answered_of_review {review : Review} (hcarries : Carries body mediaType review) :
    e.Answered mediaType body (answerReview e.decide (e.request mediaType body)) := by
  -- a request carries one review, so that what is said of any of them is said of this one
  have honly : ∀ other, Carries body mediaType other → other = review := by
    intro other h
    exact Except.ok.inj ((read_eq_ok.mpr h).symm.trans (read_eq_ok.mpr hcarries))
  have hunsendable : ¬(body ≠ [] ∧ Unsendable mediaType) := by
    rintro ⟨-, t, ht, hno⟩
    obtain rfl := Option.some.inj (ht.symm.trans hcarries.json)
    exact nomatch hno.symm.trans isSendable_mediaType
  rcases e.decide_cases (review.request.field "object") with
    ⟨decision, hdecide, hmessage, hfails⟩ | ⟨f, hdecide, hfails⟩
  · obtain ⟨whole, inner, henvelope, hanswer, hcontent⟩ :=
      answerReview_of_decision (r := e.request mediaType body) hcarries hdecide
    rw [hanswer]
    by_cases hdeep : Nesting.answer < (Value.mapping whole).depth
    · have hfailing : e.FailsOn mediaType body (.tooDeep .writing) := .answer hcarries hdecide henvelope hdeep
      rw [if_pos hdeep]
      constructor
      · exact ⟨fun _ => Or.inl ⟨_, hfailing⟩, fun _ => rfl⟩
      · exact fun f hf => hf.cause
      · exact ⟨(nomatch ·), fun h => absurd hfailing (h.2 _)⟩
      · exact Or.inr (Or.inr (Or.inr rfl))
      · exact fun _ _ h => nomatch h
    · have hfine : ∀ f, ¬e.FailsOn mediaType body f := by
        intro f hf
        cases hf with
        | body h => exact nomatch (read_eq_ok.mpr hcarries).symm.trans (read_eq_tooDeep.mpr h)
        | object h hobject => exact hfails f (honly _ h ▸ hobject)
        | answer h hother henvelope' hdeep' =>
          obtain rfl := honly _ h
          obtain rfl := Except.ok.inj (hdecide.symm.trans hother)
          obtain rfl := Except.ok.inj (henvelope.symm.trans henvelope')
          exact hdeep hdeep'
      rw [if_neg hdeep]
      constructor
      · exact ⟨(nomatch ·), fun h => absurd h (not_or.mpr ⟨not_exists.mpr hfine, hunsendable⟩)⟩
      · exact fun f hf => hf.cause
      · exact ⟨fun _ => ⟨⟨review, hcarries⟩, hfine⟩, fun _ => rfl⟩
      · exact Or.inl rfl
      · intro other h _
        rw [honly other h]
        exact ⟨decision, whole, inner, hdecide, rfl, hcontent, hmessage⟩
  · have hfailing : e.FailsOn mediaType body f := .object hcarries hfails
    rw [answerReview_of_failure (r := e.request mediaType body) hcarries hdecide]
    constructor
    · exact ⟨fun _ => Or.inl ⟨f, hfailing⟩, fun _ => rfl⟩
    · exact fun f hf => hf.cause
    · exact ⟨(nomatch ·), fun h => absurd hfailing (h.2 f)⟩
    · exact Or.inr (Or.inr (Or.inr rfl))
    · exact fun _ _ h => nomatch h

/-- **The endpoints answer with 200, 400 or 415 unless an integer is too long or something is nested too deep.**
Whatever is posted to one of them under whatever media type, the answer is 500 exactly when the endpoint fails: when the
request carries a review of a pod whose annotation holds an integer of too many digits, or where something on the way is
nested deeper than there is room for (or the media type is one that no header carries).  It is 200 exactly when the
request carries a review and the endpoint does not fail.  Such an answer repeats the identifier of the request and says
what was decided on its object, and when that is not allowed, it says why. -/
theorem admission_answered (mediaType : Option Text) (body : Bytes) :
    e.Answered mediaType body (admission (e.request mediaType body)) := by
  rw [admission_request]
  cases hread : Review.read body mediaType with
  | error refusal =>
    by_cases hdeep : ∃ c, refusal = .tooDeep c
    · obtain ⟨c, rfl⟩ := hdeep
      exact e.answered_of_burdened (read_eq_tooDeep.mp hread)
    · exact e.answered_of_refusal hread fun c h => hdeep ⟨c, h⟩
  | ok review => exact e.answered_of_review (read_eq_ok.mp hread)

end Answers

/-! ## A request that fails -/

/-- The review of a pod with the given annotation. -/
def reviewText (raw : Text) : Text → Text :=
  object₂ "kind" (marked "AdmissionReview") "request" <|
    object₂ "uid" (marked "u") "object" <|
      object "metadata" <| object "annotations" <| object networksKey <| marked raw

example : reviewText "[1]" [] =
    "\x7b\"kind\":\"AdmissionReview\",\"request\":\x7b\"uid\":\"u\",\"object\":\x7b\"metadata\":\x7b" ++
      "\"annotations\":\x7b\"k8s.v1.cni.cncf.io/networks\":\"[1]\"\x7d\x7d\x7d\x7d\x7d" := by decide +kernel

/-- The pod in such a review. -/
def reviewedPod (raw : Text) : Value :=
  .mapping [(.text "metadata",
    .mapping [(.text "annotations", .mapping [(.text networksKey, .text raw)])])]

/-- The request in such a review. -/
def reviewRequest (raw : Text) : Entries :=
  [(.text "uid", .text "u"), (.text "object", reviewedPod raw)]

theorem carries_reviewText [Nesting] {raw : Text} (h : Plain raw) (hroom : 5 ≤ Nesting.review) :
    Carries (reviewText raw []).toUtf8 (some "application/json")
      ⟨[(.text "kind", .text "AdmissionReview"), (.text "request", .mapping (reviewRequest raw))],
        reviewRequest raw⟩ := by
  -- the texts that are the same in all such reviews
  have hnetworks : Plain networksKey := by decide
  have hannotations : Plain "annotations" := by decide
  have hmetadata : Plain "metadata" := by decide
  have hobject : Plain "object" := by decide
  have huid : Plain "uid" := by decide
  have hidentifier : Plain "u" := by decide
  have hrequest : Plain "request" := by decide
  have hkind : Plain "kind" := by decide
  have hreview : Plain "AdmissionReview" := by decide
  have hpod := (((spells_marked h).object hnetworks).object hannotations).object hmetadata
  have hasked := hpod.object₂ huid hidentifier hobject (by decide)
  have hwhole := hasked.object₂ hkind hreview hrequest (by decide)
  exact ⟨List.cons_ne_nil _ _, rfl, hwhole.readBytes rfl hroom, rfl, rfl⟩

theorem failsOn_reviewText [Nesting] {raw : Text} {f : Failure} (h : Plain raw) (hroom : 5 ≤ Nesting.review)
    (hf : Unreadable raw f) (g : Failure) :
    isolate.FailsOn (some "application/json") (reviewText raw []).toUtf8 g ↔ g = f := by
  let pod : SubmittedPod := ⟨[], [], .ofList [(networksKey, raw)]⟩
  have hcarries := carries_reviewText h hroom
  have hpod : SubmittedPod.ofValue (reviewedPod raw) = .ok pod := rfl
  constructor
  · intro hg
    cases hg with
    | body hdeep => exact nomatch (read_eq_ok.mpr hcarries).symm.trans (read_eq_tooDeep.mpr hdeep)
    | object hother hfails =>
      obtain rfl := Except.ok.inj ((read_eq_ok.mpr hother).symm.trans (read_eq_ok.mpr hcarries))
      cases hfails with
      | pod h hnetworks hg =>
        obtain rfl := Except.ok.inj (hpod.symm.trans h)
        obtain rfl := Option.some.inj hnetworks
        exact hg.unique hf
      | podName h => exact nomatch hpod.symm.trans h
    | answer hother hdecide _ _ =>
      obtain rfl := Except.ok.inj ((read_eq_ok.mpr hother).symm.trans (read_eq_ok.mpr hcarries))
      rcases isolate.decide_cases (reviewedPod raw) with ⟨_, -, -, hno⟩ | ⟨_, hfailed, -⟩
      · exact absurd (.pod hpod rfl hf) (hno f)
      · exact nomatch hfailed.symm.trans hdecide
  · rintro rfl
    exact .object hcarries (.pod hpod rfl hf)

theorem plain_bracketed (n : Nat) : Plain (bracketed n) := by
  intro c hc
  rcases List.mem_cons.mp hc with rfl | hc
  · decide
  rcases List.mem_cons.mp hc with rfl | hc
  · decide
  rcases List.mem_append.mp hc with hc | hc
  · obtain rfl := List.eq_of_mem_replicate hc
    decide
  · obtain rfl := List.mem_singleton.mp hc
    decide

/-- A pod with a list in its annotation that holds an integer of 4301 digits is not decided on, and not for its
depth. -/
theorem not_admission_answered_of_long_integer :
    let body : Bytes := (reviewText (bracketed 4300) []).toUtf8
    (admission (isolate.request (some "application/json") body)).status = 500 ∧
      (∀ f, isolate.FailsOn (some "application/json") body f ↔ f = .longInteger 4301) ∧
      ¬∀ (e : Endpoint) (mediaType : Option Text) (body : Bytes),
        (admission (e.request mediaType body)).status ∈ [200, 400, 415] := by
  intro body
  have hlong : Unreadable (bracketed 4300) (.longInteger 4301) := unreadable_bracketed (Nat.le_refl 4300)
  have hfails : ∀ f, isolate.FailsOn (some "application/json") body f ↔ f = .longInteger 4301 :=
    failsOn_reviewText (plain_bracketed 4300) (by decide) hlong
  have hstatus : (admission (isolate.request (some "application/json") body)).status = 500 := by
    have hcarries := carries_reviewText (plain_bracketed 4300) (by decide)
    rw [admission_request]
    exact (isolate.answered_of_review hcarries).failed.mpr (Or.inl ⟨_, (hfails _).mpr rfl⟩)
  refine ⟨hstatus, hfails, fun hall => ?_⟩
  have hmem := hall isolate (some "application/json") body
  rw [hstatus] at hmem
  exact absurd hmem (by decide)

end Endpoint

end NetAttach
