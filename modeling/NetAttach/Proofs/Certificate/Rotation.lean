/-
  A certificate that is replaced while it is served.

  Two parts of the program remember something of the certificate.  The key pair remembers the contexts that
  were loaded, and the watcher remembers the digest that was accepted last.  They meet in one place only: a
  poll that finds another digest asks for a reload.  A `Rotation` has both of them and the files, and keeps a
  history of all loads and polls.

  Structure:
  1. `KeyPair.Holds`: what a key pair is, by what was loaded;
  2. what a history tells: which contexts were loaded, what the polls read, and which content a watcher goes
     by (`recorded`);
  3. `look_cases` is all that a poll can come to, and by it the memories of both parts are those that the
     history tells of, at every point of every timeline (`Faithful.run`);
  4. so it can be said exactly when the certificate that is served is the one that was just read
     (`served_iff`).
-/
import NetAttach.Certificate.KeyPair
import NetAttach.Certificate.Sha512
import NetAttach.Certificate.Watcher
import Mathlib.Data.List.Basic

namespace NetAttach

/-! ## What a key pair went through -/

/-- The context that was loaded, if there is one. -/
def Loading.context? {γ : Type} : Loading γ → Option γ
  | loaded context => some context
  | unusable _ | failed _ => none

namespace KeyPair

variable {γ : Type}

/-- `k.Holds contexts`: a listener was opened with the first of `contexts`, the others replaced one another,
and the last of them is served. -/
structure Holds (k : KeyPair γ) (contexts : List γ) : Prop where
  listener : contexts.head? = some k.listener
  current : contexts.getLast? = some k.current
  reloads : contexts.length = k.reloads + 1

theorem holds_start {certificate : PathName} {l : Loading γ} {k : KeyPair γ}
    (h : start certificate l = .ok k) : k.Holds l.context?.toList := by
  cases l with
  | loaded context =>
    obtain rfl := Except.ok.inj h
    exact ⟨rfl, rfl, rfl⟩
  | unusable text => exact nomatch h
  | failed f => exact nomatch h

theorem Holds.reload {k : KeyPair γ} {contexts : List γ} (h : k.Holds contexts) (l : Loading γ) :
    (k.reload l).2.Holds (contexts ++ l.context?.toList) := by
  cases l with
  | loaded context =>
    show Holds { k with current := context, reloads := k.reloads + 1 } (contexts ++ [context])
    refine ⟨?_, List.getLast?_concat, ?_⟩
    · rw [List.head?_append, h.listener, Option.some_or]
    · rw [List.length_append, h.reloads, List.length_singleton]
  | unusable text | failed f =>
    show k.Holds (contexts ++ [])
    rwa [List.append_nil]

end KeyPair

/-! ## Histories -/

/-- What happens to a certificate: somebody asks for a load, or it is polled. -/
inductive RotationEvent (γ : Type) where
  | load (outcome : Loading γ)
  /-- A poll read `content`; if it asked for a reload, there is the outcome of that. -/
  | poll (content : Bytes) (outcome : Option (Loading γ))

namespace RotationEvent

variable {γ : Type}

/-- The context that was loaded, if one was. -/
def context? : RotationEvent γ → Option γ
  | load outcome => outcome.context?
  | poll _ outcome => outcome.bind Loading.context?

/-- What was read, if it was a poll. -/
def content? : RotationEvent γ → Option Bytes
  | load _ => none
  | poll content _ => some content

/-- What was read, if it was a poll that led to another context. -/
def renewal? (e : RotationEvent γ) : Option Bytes := e.context?.bind fun _ => e.content?

/-- The contexts that were loaded. -/
def loads (history : List (RotationEvent γ)) : List γ := history.filterMap context?

/-- What the polls read. -/
def readings (history : List (RotationEvent γ)) : List Bytes := history.filterMap content?

/-- The content that polls are compared with: that of the last poll that led to another context, or, without
one, that of the first poll. -/
def recorded (history : List (RotationEvent γ)) : Option Bytes :=
  (history.filterMap renewal?).getLast?.or (readings history).head?

variable (history : List (RotationEvent γ))

theorem loads_snoc (e : RotationEvent γ) : loads (history ++ [e]) = loads history ++ e.context?.toList := by
  unfold loads
  rw [List.filterMap_append]
  cases h : e.context? <;> simp [h]

theorem recorded_snoc_load (outcome : Loading γ) :
    recorded (history ++ [load outcome]) = recorded history := by
  have hnone : renewal? (load outcome) = none := by cases outcome <;> rfl
  simp [recorded, readings, content?, hnone]

theorem recorded_snoc_poll (content : Bytes) (outcome : Option (Loading γ)) :
    recorded (history ++ [poll content outcome]) =
      if (outcome.bind Loading.context?).isSome then some content
      else (recorded history).or (some content) := by
  unfold recorded readings
  rw [List.filterMap_append, List.filterMap_append]
  cases h : outcome.bind Loading.context? with
  | none =>
    have hnone : renewal? (poll content outcome) = none := by simp [renewal?, context?, h]
    simp [content?, hnone]
  | some context =>
    have hsome : renewal? (poll content outcome) = some content := by
      simp [renewal?, context?, content?, h]
    simp [hsome]

variable {history}

theorem mem_readings_of_recorded {content : Bytes} (h : recorded history = some content) :
    content ∈ readings history := by
  rcases Option.or_eq_some_iff.mp h with hlast | ⟨-, hfirst⟩
  · obtain ⟨e, he, hr⟩ := List.mem_filterMap.mp (List.mem_of_getLast? hlast)
    obtain ⟨context, -, hc⟩ := Option.bind_eq_some_iff.mp hr
    exact List.mem_filterMap.mpr ⟨e, he, hc⟩
  · exact List.mem_of_head? hfirst

end RotationEvent

/-! ## Watching a pair -/

/-- What is in the two files, or why they cannot be read. -/
structure PairFiles where
  certificate : Except FileFault Bytes
  key : Except FileFault Bytes

/-- A context and the certificate that it was loaded from. -/
structure Sourced (γ : Type) where
  context : γ
  certificate : Except FileFault Bytes
deriving DecidableEq

/-- How a context is loaded from the files. -/
abbrev Loader (γ : Type) := PairFiles → Loading γ

/-- Keep track of the certificate. -/
def Loader.sourced {γ : Type} (load : Loader γ) (files : PairFiles) : Loading (Sourced γ) :=
  match load files with
  | .loaded context => .loaded ⟨context, files.certificate⟩
  | .unusable text => .unusable text
  | .failed f => .failed f

/-- What a watcher makes of a reload. -/
def Reception.ofReload : Except Failure Bool → Reception
  | .ok true => accepted
  | .ok false => refused
  | .error f => fault (.failed f)

/-- The files, the pair that is served, a watcher that asks for a reload when the certificate has changed, and
what has happened. -/
structure Rotation (δ γ : Type) where
  files : PairFiles
  pair : KeyPair (Sourced γ)
  watcher : CertificateWatcher δ
  history : List (RotationEvent (Sourced γ))

/-- What happens next: the files are written, somebody asks for a reload, or the watcher polls. -/
inductive RotationStep (γ : Type) where
  | change (files : PairFiles)
  | reload (load : Loader γ)
  | poll (load : Loader γ)

namespace Rotation

open RotationEvent (loads readings recorded)

variable {δ γ : Type} [DecidableEq δ]

/-- Load the first pair; nobody has polled yet. -/
def start (path : PathName) (load : Loader γ) (files : PairFiles) :
    Except KeyPair.Error (Rotation δ γ) :=
  (KeyPair.start path (load.sourced files)).map fun pair =>
    ⟨files, pair, .new, [.load (load.sourced files)]⟩

/-- A watcher whose reports lead to reloads. -/
def surroundings (digest : Bytes → δ) (load : Loader γ) :
    CertificateSurroundings δ (PairFiles × KeyPair (Sourced γ)) :=
  { read := fun world => world.1.certificate
    digest
    report := fun world =>
      let (result, pair) := world.2.reload (load.sourced world.1)
      (.ofReload result, world.1, pair) }

/-- What comes of a poll. -/
def look (digest : Bytes → δ) (load : Loader γ) (s : Rotation δ γ) :
    CertificateWatcher.Look δ (PairFiles × KeyPair (Sourced γ)) :=
  s.watcher.poll (surroundings digest load) (s.files, s.pair)

/-- What is seen of a poll. -/
def seen (digest : Bytes → δ) (load : Loader γ) (s : Rotation δ γ) : List (RotationEvent (Sourced γ)) :=
  match s.files.certificate with
  | .error _ => []
  | .ok content =>
    [.poll content (if (s.look digest load).events.isEmpty then none else some (load.sourced s.files))]

/-- One step. -/
def step (digest : Bytes → δ) (s : Rotation δ γ) : RotationStep γ → Rotation δ γ
  | .change files => { s with files }
  | .reload load =>
    { s with
      pair := (s.pair.reload (load.sourced s.files)).2
      history := s.history ++ [.load (load.sourced s.files)] }
  | .poll load =>
    let look := s.look digest load
    { files := look.world.1
      pair := look.world.2
      watcher := look.watcher
      history := s.history ++ s.seen digest load }

/-- One step after another. -/
def run (digest : Bytes → δ) (s : Rotation δ γ) (steps : List (RotationStep γ)) : Rotation δ γ :=
  steps.foldl (step digest) s

/-! ## What a poll comes to -/

/-- What a poll returns that has asked for a reload. -/
def answer : Loading (Sourced γ) → Except CertificateFault Bool
  | .loaded _ | .unusable _ => .ok true
  | .failed f => .error (.failed f)

omit [DecidableEq δ] in
/-- A reload that loads no context is asked for again. -/
theorem reportChange_eq (digest : Bytes → δ) (load : Loader γ) (w : CertificateWatcher δ) {old : δ}
    (h : w.accepted = some old) (found : δ) (files : PairFiles) (pair : KeyPair (Sourced γ)) :
    w.reportChange (surroundings digest load) found (files, pair) =
      ⟨answer (load.sourced files),
        { w with accepted := some (if (load.sourced files).context?.isSome then found else old) },
        (files, (pair.reload (load.sourced files)).2), [.report]⟩ := by
  have hreport : (surroundings digest load).report (files, pair) =
      (.ofReload (pair.reload (load.sourced files)).1, files, (pair.reload (load.sourced files)).2) := rfl
  have hsame : { w with accepted := some old } = w := by rw [← h]
  unfold CertificateWatcher.reportChange
  rw [hreport]
  cases load.sourced files with
  | loaded context => rfl
  | unusable text | failed f =>
    show _ = CertificateWatcher.Look.mk _ { w with accepted := some old } _ _
    rw [hsame]
    rfl

/-- All that a poll can come to: the certificate cannot be read, it is the first one, it is still the same, or
it has changed and a reload is asked for. -/
theorem look_cases (digest : Bytes → δ) (load : Loader γ) (s : Rotation δ γ) :
    (∃ fault, s.files.certificate = .error fault ∧
      s.look digest load = ⟨.error (.unreadable fault), s.watcher, (s.files, s.pair), []⟩) ∨
    ∃ content, s.files.certificate = .ok content ∧
      ((s.watcher.accepted = none ∧ s.look digest load =
          ⟨.ok false, { s.watcher with accepted := some (digest content) }, (s.files, s.pair), []⟩) ∨
        (s.watcher.accepted = some (digest content) ∧
          s.look digest load = ⟨.ok false, s.watcher, (s.files, s.pair), []⟩) ∨
        ∃ old, s.watcher.accepted = some old ∧ digest content ≠ old ∧ s.look digest load =
          ⟨answer (load.sourced s.files),
            { s.watcher with
              accepted := some (if (load.sourced s.files).context?.isSome then digest content else old) },
            (s.files, (s.pair.reload (load.sourced s.files)).2), [.report]⟩) := by
  have hread : (surroundings digest load).read (s.files, s.pair) = s.files.certificate := rfl
  unfold look CertificateWatcher.poll
  rw [hread]
  cases s.files.certificate with
  | error fault => exact Or.inl ⟨fault, rfl, rfl⟩
  | ok content =>
    refine Or.inr ⟨content, rfl, ?_⟩
    cases haccepted : s.watcher.accepted with
    | none => exact Or.inl ⟨rfl, rfl⟩
    | some old =>
      refine Or.inr ?_
      by_cases hd : digest content = old
      · exact Or.inl ⟨congrArg some hd.symm, if_pos hd⟩
      · exact Or.inr ⟨old, rfl, hd,
          (if_neg hd).trans (reportChange_eq digest load s.watcher haccepted _ s.files s.pair)⟩

/-! ## What both parts remember -/

/-- The pair is what the loads made of it, and the watcher goes by the content that is recorded. -/
structure Faithful (digest : Bytes → δ) (s : Rotation δ γ) : Prop where
  pair : s.pair.Holds (loads s.history)
  accepted : s.watcher.accepted = (recorded s.history).map digest

variable {digest : Bytes → δ}

omit [DecidableEq δ] in
theorem Faithful.recorded_of_none {s : Rotation δ γ} (h : Faithful digest s)
    (hnone : s.watcher.accepted = none) : recorded s.history = none :=
  Option.map_eq_none_iff.mp (h.accepted.symm.trans hnone)

omit [DecidableEq δ] in
theorem Faithful.recorded_of_some {s : Rotation δ γ} (h : Faithful digest s) {d : δ}
    (hsome : s.watcher.accepted = some d) : ∃ c, recorded s.history = some c ∧ digest c = d :=
  Option.map_eq_some_iff.mp (h.accepted.symm.trans hsome)

omit [DecidableEq δ] in
theorem faithful_start {path : PathName} {load : Loader γ} {files : PairFiles} {s : Rotation δ γ}
    (h : start path load files = .ok s) : Faithful digest s := by
  unfold start at h
  cases hstart : KeyPair.start path (load.sourced files) with
  | error e =>
    rw [hstart] at h
    exact nomatch h
  | ok pair =>
    rw [hstart] at h
    obtain rfl := Except.ok.inj h
    refine ⟨?_, ?_⟩
    · show pair.Holds (loads ([] ++ [.load (load.sourced files)]))
      rw [RotationEvent.loads_snoc]
      exact KeyPair.holds_start hstart
    · show none = (recorded ([] ++ [.load (load.sourced files)])).map digest
      rw [RotationEvent.recorded_snoc_load]
      rfl

theorem Faithful.poll {s : Rotation δ γ} (h : Faithful digest s) (load : Loader γ) :
    Faithful digest (s.step digest (.poll load)) := by
  show Faithful digest ⟨(s.look digest load).world.1, (s.look digest load).world.2,
    (s.look digest load).watcher, s.history ++ s.seen digest load⟩
  have hidle : ∀ content, loads (s.history ++ [.poll content none]) = loads s.history := fun content =>
    (RotationEvent.loads_snoc s.history (.poll content none)).trans (List.append_nil _)
  unfold seen
  rcases s.look_cases digest load with
    ⟨fault, hread, hlook⟩ | ⟨content, hread, ⟨hnone, hlook⟩ | ⟨hsome, hlook⟩ | ⟨old, hsome, -, hlook⟩⟩ <;>
    rw [hread, hlook]
  · show Faithful digest { s with history := s.history ++ [] }
    rw [List.append_nil]
    exact h
  · -- the first content that is read is recorded
    refine ⟨(hidle content).symm ▸ h.pair, ?_⟩
    show some (digest content) = (recorded (s.history ++ [.poll content none])).map digest
    rw [RotationEvent.recorded_snoc_poll, h.recorded_of_none hnone]
    rfl
  · -- nothing else is recorded than before
    obtain ⟨c, hc, -⟩ := h.recorded_of_some hsome
    refine ⟨(hidle content).symm ▸ h.pair, ?_⟩
    show s.watcher.accepted = (recorded (s.history ++ [.poll content none])).map digest
    rw [h.accepted, RotationEvent.recorded_snoc_poll, hc]
    rfl
  · -- the content is recorded if a context was loaded, and only then is the pair another one
    obtain ⟨c, hc, hold⟩ := h.recorded_of_some hsome
    refine ⟨?_, ?_⟩
    · show KeyPair.Holds _ (loads (s.history ++ [.poll content (some (load.sourced s.files))]))
      rw [RotationEvent.loads_snoc]
      exact h.pair.reload _
    · show some _ = (recorded (s.history ++ [.poll content (some (load.sourced s.files))])).map digest
      rw [RotationEvent.recorded_snoc_poll, hc, ← hold]
      show some (if (load.sourced s.files).context?.isSome then digest content else digest c) =
        (if (load.sourced s.files).context?.isSome then some content else some c).map digest
      split <;> rfl

/-- Every step keeps the memories as the history tells them. -/
theorem Faithful.step {s : Rotation δ γ} (h : Faithful digest s) (next : RotationStep γ) :
    Faithful digest (s.step digest next) := by
  cases next with
  | change files => exact ⟨h.pair, h.accepted⟩
  | reload load =>
    refine ⟨?_, ?_⟩
    · show KeyPair.Holds _ (loads (s.history ++ [.load (load.sourced s.files)]))
      rw [RotationEvent.loads_snoc]
      exact h.pair.reload _
    · show s.watcher.accepted = (recorded (s.history ++ [.load (load.sourced s.files)])).map digest
      rw [RotationEvent.recorded_snoc_load]
      exact h.accepted
  | poll load => exact h.poll load

theorem Faithful.run {s : Rotation δ γ} (h : Faithful digest s) (steps : List (RotationStep γ)) :
    Faithful digest (s.run digest steps) := by
  induction steps generalizing s with
  | nil => exact h
  | cons next rest ih => exact ih (h.step next)

/-! ## The result -/

variable {s : Rotation δ γ} {load : Loader γ} {content : Bytes} {asked : Bool}

theorem eq_true_of_answer {outcome : Loading (Sourced γ)} (h : answer outcome = .ok asked) : asked = true := by
  cases outcome with
  | loaded context | unusable text => exact (Except.ok.inj h).symm
  | failed f => exact nomatch h

/-- A poll asks for a reload. -/
def Asks (digest : Bytes → δ) (load : Loader γ) (s : Rotation δ γ) : Prop :=
  .report ∈ (s.look digest load).events

/-- A poll asks for a reload exactly when it reads something else than what is recorded, whatever comes of the
reload. -/
theorem Faithful.asks_iff (h : Faithful digest s)
    (hdigest : ∀ c ∈ readings s.history, digest c = digest content → c = content)
    (hread : s.files.certificate = .ok content) :
    s.Asks digest load ↔ ∃ c, recorded s.history = some c ∧ c ≠ content := by
  unfold Asks
  rcases s.look_cases digest load with ⟨fault, hfault, -⟩ | ⟨c, hc, hcases⟩
  · exact nomatch hfault.symm.trans hread
  obtain rfl : c = content := Except.ok.inj (hc.symm.trans hread)
  rcases hcases with ⟨hnone, hlook⟩ | ⟨hsome, hlook⟩ | ⟨old, hsome, hne, hlook⟩ <;> rw [hlook]
  · simp [h.recorded_of_none hnone]
  · obtain ⟨c', hc', hd⟩ := h.recorded_of_some hsome
    -- this is where contents with the same digest have to be the same
    obtain rfl : c' = c := hdigest c' (RotationEvent.mem_readings_of_recorded hc') hd
    simp [hc']
  · obtain ⟨c', hc', hd⟩ := h.recorded_of_some hsome
    refine iff_of_true (List.mem_singleton.mpr rfl) ⟨c', hc', ?_⟩
    rintro rfl
    exact hne hd

/-- A poll that returns says whether it has asked. -/
theorem asks_iff_eq_true (hresult : (s.look digest load).result = .ok asked) :
    s.Asks digest load ↔ asked = true := by
  unfold Asks
  rcases s.look_cases digest load with ⟨fault, -, hlook⟩ | ⟨c, -, ⟨-, hlook⟩ | ⟨-, hlook⟩ | ⟨old, -, -, hlook⟩⟩ <;>
    rw [hlook] at hresult ⊢
  · exact nomatch hresult
  · obtain rfl : false = asked := Except.ok.inj hresult
    simp
  · obtain rfl : false = asked := Except.ok.inj hresult
    simp
  · exact iff_of_true (List.mem_singleton.mpr rfl) (eq_true_of_answer hresult)

theorem Faithful.asked_iff (h : Faithful digest s)
    (hdigest : ∀ c ∈ readings s.history, digest c = digest content → c = content)
    (hread : s.files.certificate = .ok content) (hresult : (s.look digest load).result = .ok asked) :
    asked = true ↔ ∃ c, recorded s.history = some c ∧ c ≠ content :=
  (asks_iff_eq_true hresult).symm.trans (h.asks_iff hdigest hread)

/-- After a poll the pair comes from the content that was read if the poll asked for a reload, and else if it
did before. -/
theorem certificate_look_iff (hread : s.files.certificate = .ok content)
    (hresult : (s.look digest load).result = .ok asked)
    (husable : asked = true → ∀ text, load s.files ≠ .unusable text) :
    (s.look digest load).world.2.current.certificate = .ok content ↔
      asked = true ∨ s.pair.current.certificate = .ok content := by
  rcases s.look_cases digest load with ⟨fault, hfault, -⟩ | ⟨c, -, ⟨-, hlook⟩ | ⟨-, hlook⟩ | ⟨old, -, -, hlook⟩⟩
  · exact nomatch hfault.symm.trans hread
  · rw [hlook] at hresult ⊢
    obtain rfl : false = asked := Except.ok.inj hresult
    simp
  · rw [hlook] at hresult ⊢
    obtain rfl : false = asked := Except.ok.inj hresult
    simp
  · rw [hlook] at hresult ⊢
    obtain rfl : asked = true := eq_true_of_answer hresult
    refine iff_of_true ?_ (Or.inl rfl)
    -- the files are the same for the poll and for the load that it asks for
    cases hload : load s.files with
    | loaded context =>
      rw [Loader.sourced, hload]
      exact hread
    | unusable text => exact absurd hload (husable rfl text)
    | failed f =>
      rw [Loader.sourced, hload] at hresult
      exact nomatch hresult

/-- **Whether the certificate that is served is the one that was read.**  For every timeline from the first
load on and every poll after it that returns and whose reload, if it asks for one, is not refused: the poll
asks for a reload exactly when there is a recorded content and another one was read, and from then on
handshakes are served with a pair from the content that was read exactly when the poll asked for a reload or
the last load before it had found this content.  Different contents that are read are taken to have different
digests. -/
theorem served_iff [DecidableEq γ] {path : PathName} {first : Loader γ} {files : PairFiles}
    {s₀ : Rotation δ γ} (hstart : start path first files = .ok s₀) (steps : List (RotationStep γ)) :
    let s := s₀.run digest steps
    let look := s.look digest load
    (∀ c ∈ readings s.history, digest c = digest content → c = content) →
    s.files.certificate = .ok content → look.result = .ok asked →
    (asked = true → ∀ text, load s.files ≠ .unusable text) →
    (asked = true ↔ ∃ c, recorded s.history = some c ∧ c ≠ content) ∧
    ∀ initial, (look.world.2.serve initial).certificate = .ok content ↔
      asked = true ∨ ∃ last, (loads s.history).getLast? = some last ∧ last.certificate = .ok content := by
  intro s look hdigest hread hresult husable
  have hf : Faithful digest s := (faithful_start hstart).run steps
  refine ⟨hf.asked_iff hdigest hread hresult, fun initial => ?_⟩
  have hlast : (∃ last, (loads s.history).getLast? = some last ∧ last.certificate = .ok content) ↔
      s.pair.current.certificate = .ok content := by
    rw [hf.pair.current]
    simp
  rw [KeyPair.serve_eq_current, hlast]
  exact certificate_look_iff hread hresult husable

/-- Files of a pair that belong together: the key has the content of the certificate. -/
def filesOf (content : Bytes) : PairFiles := ⟨.ok content, .ok content⟩

/-- Load files that belong together. -/
def loadMatching : Loader Unit := fun files =>
  match files.certificate, files.key with
  | .ok certificate, .ok key => if key = certificate then .loaded () else .unusable "key values mismatch"
  | .error fault, _ | _, .error fault => .unusable fault.message

/-- A listener has been opened with a pair. -/
def openedWith (content : Bytes) : Rotation δ Unit :=
  ⟨filesOf content, ⟨⟨(), .ok content⟩, ⟨(), .ok content⟩, 0⟩, .new, [.load (.loaded ⟨(), .ok content⟩)]⟩

omit [DecidableEq δ] in
theorem start_openedWith (content : Bytes) :
    start (.ofText "cert.pem") loadMatching (filesOf content) = .ok (openedWith content : Rotation δ Unit) := by
  simp [start, Loader.sourced, loadMatching, filesOf, KeyPair.start, openedWith, Except.map]

/-- The pair is replaced after the first poll: the next one sees to it that the new pair is served. -/
theorem served_iff_of_replaced_pair :
    let s := (openedWith [65]).run Sha512.hexDigest [.poll loadMatching, .change (filesOf [66])]
    let look := s.look Sha512.hexDigest loadMatching
    start (.ofText "cert.pem") loadMatching (filesOf [65]) = .ok (openedWith [65] : Rotation Text Unit) ∧
    (∀ c ∈ readings s.history, Sha512.hexDigest c = Sha512.hexDigest [66] → c = [66]) ∧
    s.files.certificate = .ok [66] ∧ look.result = .ok true ∧
    (∀ text, loadMatching s.files ≠ .unusable text) ∧
    ∀ initial, (look.world.2.serve initial).certificate = .ok [66] := by
  intro s look
  have hstart : start (.ofText "cert.pem") loadMatching (filesOf [65]) =
      .ok (openedWith [65] : Rotation Text Unit) := start_openedWith [65]
  have hdigest : ∀ c ∈ readings s.history, Sha512.hexDigest c = Sha512.hexDigest [66] → c = [66] := by
    decide +kernel
  have hresult : look.result = .ok true := by decide +kernel
  have husable : ∀ text, loadMatching s.files ≠ .unusable text := fun text h => nomatch h
  have hserved := (served_iff hstart [.poll loadMatching, .change (filesOf [66])] hdigest rfl hresult
    fun _ => husable).2
  refine ⟨hstart, hdigest, rfl, hresult, husable, fun initial => ?_⟩
  simp only [look, s]
  exact (hserved initial).mpr (Or.inl rfl)

/-- The pair is replaced between the first load and the first poll: the poll reads the new certificate and
records it, and the old pair is served on. -/
theorem not_served_of_early_replacement :
    let s := (openedWith [65]).run Sha512.hexDigest [.change (filesOf [66])]
    let look := s.look Sha512.hexDigest loadMatching
    start (.ofText "cert.pem") loadMatching (filesOf [65]) = .ok (openedWith [65] : Rotation Text Unit) ∧
    Sha512.hexDigest [65] ≠ Sha512.hexDigest [66] ∧
    s.files.certificate = .ok [66] ∧ look.result = .ok false ∧
    ∀ initial, (look.world.2.serve initial).certificate ≠ .ok [66] := by
  intro s look
  have hdigest : Sha512.hexDigest [65] ≠ Sha512.hexDigest [66] := by decide +kernel
  have hserved : look.world.2.current.certificate = .ok [65] := rfl
  refine ⟨start_openedWith [65], hdigest, rfl, rfl, fun initial => ?_⟩
  rw [KeyPair.serve_eq_current, hserved]
  decide

/-- The pair is loaded by hand while the new files are there, and the old ones are back for the next poll. -/
example :
    let s := (openedWith [65]).run id [.poll loadMatching, .change (filesOf [66]), .reload loadMatching,
      .change (filesOf [65])]
    (s.look id loadMatching).result = .ok false ∧ s.pair.current.certificate = .ok [66] := by
  decide

end Rotation

end NetAttach
