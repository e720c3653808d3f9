/-
  A change that is reported until a pair is loaded.

  The two files of a pair are written one after the other, and so a poll may find a new certificate beside an old
  key.  The reload that it asks for is refused then, and nothing is to come of it but that the next poll asks
  again.  What a poll goes by is therefore the content of the last poll whose reload loaded a pair, however many
  contents were read since and however often loading them has failed.

  Structure:
  1. `look_of_not_loaded`: a poll whose reload loads nothing leaves both memories as they were;
  2. a watcher that runs (`watch`) finds one situation after another.  It polls in each of them as it does without
     running (`poll_inScene`), and the first one in which there is no certificate to read is its last
     (`watch_of_unreadable`);
  3. with what polls ask for and what histories tell of (`Faithful`), this is all that there is to say
     (`reported_until_loaded`).
-/
import NetAttach.Proofs.Certificate.Rotation

namespace NetAttach

theorem KeyPair.reload_of_not_loaded {γ : Type} {k : KeyPair γ} {l : Loading γ} (h : l.context? = none) :
    (k.reload l).2 = k := by
  cases l with
  | loaded context => exact nomatch h
  | unusable text | failed f => rfl

theorem Loader.context?_sourced {γ : Type} {load : Loader γ} {files : PairFiles}
    (h : ∀ context, load files ≠ .loaded context) : (load.sourced files).context? = none := by
  unfold sourced
  cases hload : load files with
  | loaded context => exact absurd hload (h context)
  | unusable text | failed f => rfl

namespace Rotation

open RotationEvent (loads readings recorded)

variable {δ γ : Type} [DecidableEq δ] {digest : Bytes → δ} {s : Rotation δ γ} {load : Loader γ} {content : Bytes}

/-! ## One poll -/

/-- Without a certificate to read, a poll asks for nothing and changes nothing. -/
theorem look_of_unreadable {fault : FileFault} (h : s.files.certificate = .error fault) :
    s.look digest load = ⟨.error (.unreadable fault), s.watcher, (s.files, s.pair), []⟩ := by
  rcases s.look_cases digest load with ⟨fault', hfault, hlook⟩ | ⟨content, hread, -⟩
  · obtain rfl := Except.error.inj (hfault.symm.trans h)
    exact hlook
  · exact nomatch hread.symm.trans h

/-- A reload that loads no pair leaves the pair and what the watcher goes by as they were. -/
theorem look_of_not_loaded (hasks : s.Asks digest load) (h : ∀ context, load s.files ≠ .loaded context) :
    (s.look digest load).watcher = s.watcher ∧ (s.look digest load).world.2 = s.pair := by
  have hnone := Loader.context?_sourced h
  unfold Asks at hasks
  rcases s.look_cases digest load with
    ⟨fault, -, hlook⟩ | ⟨content, -, ⟨-, hlook⟩ | ⟨-, hlook⟩ | ⟨old, hsome, -, hlook⟩⟩ <;>
    rw [hlook] at hasks ⊢
  · exact nomatch hasks
  · exact nomatch hasks
  · exact nomatch hasks
  · -- only here a reload was asked for, and the content that is accepted after it is the old one
    refine ⟨?_, KeyPair.reload_of_not_loaded hnone⟩
    show { s.watcher with
      accepted := some (if (load.sourced s.files).context?.isSome then digest content else old) } = s.watcher
    simp only [hnone, Option.isSome_none, Bool.false_eq_true, if_false, ← hsome]

/-- Nothing but a fault ends watching, and no poll takes note of a fault. -/
theorem look_watcher (digest : Bytes → δ) (load : Loader γ) (s : Rotation δ γ) :
    (s.look digest load).watcher.fault = s.watcher.fault ∧
    (s.look digest load).watcher.stopped = s.watcher.stopped := by
  rcases s.look_cases digest load with
    ⟨fault, -, hlook⟩ | ⟨content, -, ⟨-, hlook⟩ | ⟨-, hlook⟩ | ⟨old, -, -, hlook⟩⟩ <;>
    rw [hlook] <;> exact ⟨rfl, rfl⟩

/-- The watcher has not been told to stop, and knows of no fault. -/
def Watching (s : Rotation δ γ) : Prop := s.watcher.fault = none ∧ s.watcher.stopped = false

theorem Watching.run (h : s.Watching) (digest : Bytes → δ) (steps : List (RotationStep γ)) :
    (s.run digest steps).Watching := by
  induction steps generalizing s with
  | nil => exact h
  | cons next rest ih =>
    refine ih ?_
    cases next with
    | change files | reload load => exact h
    | poll load =>
      obtain ⟨hfault, hstopped⟩ := s.look_watcher digest load
      exact ⟨hfault.trans h.1, hstopped.trans h.2⟩

omit [DecidableEq δ] in
theorem watching_start {path : PathName} {files : PairFiles} (h : start path load files = .ok s) : s.Watching := by
  unfold start at h
  cases hstart : KeyPair.start path (load.sourced files) with
  | error e =>
    rw [hstart] at h
    exact nomatch h
  | ok pair =>
    rw [hstart] at h
    obtain rfl := Except.ok.inj h
    exact ⟨rfl, rfl⟩

/-! ## A watcher that runs -/

/-- What a poll finds: the files, and how a pair is loaded from them. -/
structure Situation (γ : Type) where
  files : PairFiles
  load : Loader γ

/-- A situation, and the pair that is served in it. -/
structure Scene (γ : Type) where
  found : Situation γ
  pair : KeyPair (Sourced γ)

/-- The situation changes. -/
def Scene.turn (next : Situation γ) (scene : Scene γ) : Scene γ := { scene with found := next }

/-- There is a certificate to read. -/
def Situation.Readable (x : Situation γ) : Prop := ∃ content, x.files.certificate = .ok content

/-- A poll in a situation. -/
def Situation.steps (x : Situation γ) : List (RotationStep γ) := [.change x.files, .poll x.load]

/-- Reports lead to reloads, in whatever situation there is. -/
def inScene (digest : Bytes → δ) : CertificateSurroundings δ (Scene γ) :=
  { read := fun scene => scene.found.files.certificate
    digest
    report := fun scene =>
      let (result, pair) := scene.pair.reload (scene.found.load.sourced scene.found.files)
      (.ofReload result, { scene with pair }) }

/-- One poll after another. -/
def polled (digest : Bytes → δ) (s : Rotation δ γ) (situations : List (Situation γ)) : Rotation δ γ :=
  s.run digest (situations.flatMap Situation.steps)

/-- Let the watcher run: it finds the situation `now` first, and those of `later` after its waits. -/
def watch (digest : Bytes → δ) (interval : Float) (s : Rotation δ γ) (now : Situation γ)
    (later : List (Situation γ)) : CertificateWatcher.Run δ (Scene γ) :=
  s.watcher.run (inScene digest) interval (later.map Scene.turn) ⟨now, s.pair⟩

variable {x now bad : Situation γ} {good later rest : List (Situation γ)} {interval : Float}

/-- What comes of a look, in the situation `x`. -/
def inSituation (x : Situation γ) (look : CertificateWatcher.Look δ (PairFiles × KeyPair (Sourced γ))) :
    CertificateWatcher.Look δ (Scene γ) :=
  ⟨look.result, look.watcher, ⟨x, look.world.2⟩, look.events⟩

omit [DecidableEq δ] in
theorem reportChange_inScene (digest : Bytes → δ) (w : CertificateWatcher δ) (found : δ) (x : Situation γ)
    (pair : KeyPair (Sourced γ)) :
    w.reportChange (inScene digest) found ⟨x, pair⟩ =
      inSituation x (w.reportChange (surroundings digest x.load) found (x.files, pair)) := by
  unfold CertificateWatcher.reportChange
  simp only [inScene, surroundings]
  cases Reception.ofReload (pair.reload (x.load.sourced x.files)).1 <;> rfl

/-- It does not matter to a poll that the situation may change. -/
theorem poll_inScene (digest : Bytes → δ) (w : CertificateWatcher δ) (x : Situation γ)
    (pair : KeyPair (Sourced γ)) :
    w.poll (inScene digest) ⟨x, pair⟩ =
      inSituation x (w.poll (surroundings digest x.load) (x.files, pair)) := by
  have hscene : (inScene digest).read (⟨x, pair⟩ : Scene γ) = x.files.certificate := rfl
  have hread : (surroundings digest x.load).read (x.files, pair) = x.files.certificate := rfl
  unfold CertificateWatcher.poll
  rw [hscene, hread]
  cases x.files.certificate with
  | error fault => rfl
  | ok content =>
    cases w.accepted with
    | none => rfl
    | some old =>
      show (if digest content = old then _ else w.reportChange (inScene digest) (digest content) ⟨x, pair⟩) =
        inSituation x (if digest content = old then _ else _)
      rw [reportChange_inScene]
      split <;> rfl

/-- Faults of reloads do not end a run. -/
theorem fatal?_of_readable (digest : Bytes → δ) (load : Loader γ) (s : Rotation δ γ)
    (h : ∃ content, s.files.certificate = .ok content) :
    (s.look digest load).fatal? = none := by
  obtain ⟨content, hread⟩ := h
  rcases s.look_cases digest load with
    ⟨fault, hfault, -⟩ | ⟨c, -, ⟨-, hlook⟩ | ⟨-, hlook⟩ | ⟨old, -, -, hlook⟩⟩
  · exact nomatch hfault.symm.trans hread
  · rw [hlook]
    rfl
  · rw [hlook]
    rfl
  · -- what a reload fails with is told of, and the run goes on
    rw [hlook]
    cases load.sourced s.files <;> rfl

theorem fatal?_inScene (digest : Bytes → δ) (s : Rotation δ γ) (h : x.Readable) :
    (s.watcher.poll (inScene digest) ⟨x, s.pair⟩).fatal? = none := by
  rw [poll_inScene]
  exact fatal?_of_readable digest x.load { s with files := x.files } h

theorem polled_cons (x : Situation γ) (later : List (Situation γ)) :
    s.polled digest (x :: later) = (s.polled digest [x]).polled digest later := rfl

open CertificateWatcher (Run)

/-- In a situation with a certificate to read, a run polls once, waits and goes on. -/
theorem watch_of_readable (digest : Bytes → δ) (interval : Float) (s : Rotation δ γ) (h : x.Readable)
    (next : Situation γ) (rest : List (Situation γ)) :
    ∃ events, CertificateWatcher.watch (inScene digest) interval ((next :: rest).map Scene.turn) s.watcher
        ⟨x, s.pair⟩ =
      (CertificateWatcher.watch (inScene digest) interval (rest.map Scene.turn) (s.polled digest [x]).watcher
        ⟨next, (s.polled digest [x]).pair⟩).after events := by
  refine ⟨(s.watcher.poll (inScene digest) ⟨x, s.pair⟩).events ++ [.wait interval], ?_⟩
  rw [List.map_cons, CertificateWatcher.watch]
  simp only [fatal?_inScene digest s h]
  rw [poll_inScene]
  rfl

/-- The first situation without a certificate to read ends the run. -/
theorem watch_of_unreadable (digest : Bytes → δ) (interval : Float) (s : Rotation δ γ) {fault : FileFault}
    (hsplit : now :: later = good ++ bad :: rest)
    (hgood : ∀ x ∈ good, x.Readable) (hbad : bad.files.certificate = .error fault) :
    ∃ events, CertificateWatcher.watch (inScene digest) interval (later.map Scene.turn) s.watcher ⟨now, s.pair⟩ =
      { watcher := { (s.polled digest good).watcher with fault := some (.unreadable fault), stopped := true }
        world := ⟨bad, (s.polled digest good).pair⟩
        events := events ++ [.stopSet]
        unused := rest.map Scene.turn } := by
  -- each good situation costs one poll and one wait, and the run goes on from what the poll made of the two
  induction good generalizing s now later with
  | nil =>
    obtain ⟨rfl, rfl⟩ := List.cons.inj hsplit
    have hpoll : s.watcher.poll (inScene digest) ⟨now, s.pair⟩ =
        ⟨.error (.unreadable fault), s.watcher, ⟨now, s.pair⟩, []⟩ := by
      rw [poll_inScene]
      exact congrArg (inSituation now) (look_of_unreadable (s := { s with files := now.files }) hbad)
    refine ⟨[], ?_⟩
    cases later with
    | nil =>
      rw [List.map_nil, CertificateWatcher.watch, hpoll]
      rfl
    | cons next rest =>
      rw [List.map_cons, CertificateWatcher.watch, hpoll]
      rfl
  | cons x good ih =>
    obtain ⟨rfl, hlater⟩ := List.cons.inj hsplit
    have hx : now.Readable := hgood now List.mem_cons_self
    cases later with
    | nil => simp at hlater
    | cons next later =>
      obtain ⟨events, hwatch⟩ := s.watch_of_readable digest interval hx next later
      obtain ⟨events', hrest⟩ := ih (s.polled digest [now]) hlater fun y hy =>
        hgood y (List.mem_cons_of_mem _ hy)
      rw [hwatch, hrest]
      exact ⟨events ++ events', by simp [Run.after, polled_cons now good]⟩

/-- A run that always finds a certificate to read ends when it is told to. -/
theorem watch_of_all_readable (digest : Bytes → δ) (interval : Float) (s : Rotation δ γ)
    (hall : ∀ x ∈ now :: later, x.Readable) :
    ∃ found events, CertificateWatcher.watch (inScene digest) interval (later.map Scene.turn) s.watcher ⟨now, s.pair⟩ =
      { watcher := { (s.polled digest (now :: later)).watcher with stopped := true }
        world := ⟨found, (s.polled digest (now :: later)).pair⟩
        events
        unused := [] } := by
  induction later generalizing s now with
  | nil =>
    refine ⟨now, (s.watcher.poll (inScene digest) ⟨now, s.pair⟩).events ++ [.wait interval, .stopSet], ?_⟩
    rw [List.map_nil, CertificateWatcher.watch]
    simp only [fatal?_inScene digest s (hall now List.mem_cons_self)]
    rw [poll_inScene]
    rfl
  | cons next later ih =>
    obtain ⟨events, hwatch⟩ := s.watch_of_readable digest interval (hall now List.mem_cons_self) next later
    obtain ⟨found, events', hrest⟩ := ih (s.polled digest [now]) fun y hy => hall y (List.mem_cons_of_mem _ hy)
    rw [hwatch, hrest]
    exact ⟨found, events ++ events', by simp [Run.after, polled_cons now (next :: later)]⟩

/-! ## The result -/

theorem Watching.watch_eq (h : s.Watching) (interval : Float) (now : Situation γ) (later : List (Situation γ)) :
    s.watch digest interval now later =
      CertificateWatcher.watch (inScene digest) interval (later.map Scene.turn) s.watcher ⟨now, s.pair⟩ := by
  unfold watch CertificateWatcher.run
  rw [h.2]
  rfl

/-- **A change is reported until a pair is loaded, and not after.**  After every timeline from the first load
on, the pair is what the loads made of it: the listener has the first context, the last one is served, and the
reloads are those that loaded one.  A poll that reads a certificate asks for a reload exactly when there is a
recorded content and another one was read; a reload that is refused or fails changes neither what the watcher
goes by nor the pair; and a poll that reads nothing changes nothing at all.  When the watcher runs, it polls in
one situation after another, until it is told to stop or there is no certificate to read: then it notes the
fault, tells the program to stop, and polls no more.  Different contents that are read are taken to have
different digests. -/
theorem reported_until_loaded (digest : Bytes → δ) {path : PathName} {first : Loader γ} {files : PairFiles}
    {s₀ : Rotation δ γ} (hstart : start path first files = .ok s₀) (steps : List (RotationStep γ)) :
    let s := s₀.run digest steps
    s.pair.Holds (loads s.history) ∧
    (∀ load content, (∀ c ∈ readings s.history, digest c = digest content → c = content) →
      s.files.certificate = .ok content →
      (s.Asks digest load ↔ ∃ c, recorded s.history = some c ∧ c ≠ content)) ∧
    (∀ load, s.Asks digest load → (∀ context, load s.files ≠ .loaded context) →
      (s.look digest load).watcher = s.watcher ∧ (s.look digest load).world.2 = s.pair) ∧
    (∀ load fault, s.files.certificate = .error fault →
      s.look digest load = ⟨.error (.unreadable fault), s.watcher, (s.files, s.pair), []⟩) ∧
    (∀ interval now later good bad rest fault, now :: later = good ++ bad :: rest →
      (∀ x ∈ good, x.Readable) → bad.files.certificate = .error fault →
      ∃ events, s.watch digest interval now later =
        { watcher := { (s.polled digest good).watcher with fault := some (.unreadable fault), stopped := true }
          world := ⟨bad, (s.polled digest good).pair⟩
          events := events ++ [.stopSet]
          unused := rest.map Scene.turn }) ∧
    ∀ interval now later, (∀ x ∈ now :: later, x.Readable) →
      (s.watch digest interval now later).watcher.fault = none := by
  intro s
  have hf : Faithful digest s := (faithful_start hstart).run steps
  have hw : s.Watching := (watching_start hstart).run digest steps
  refine ⟨hf.pair, fun load content hdigest hread => hf.asks_iff hdigest hread,
    fun load hasks h => look_of_not_loaded hasks h, fun load fault h => look_of_unreadable h, ?_, ?_⟩
  · intro interval now later good bad rest fault hsplit hgood hbad
    rw [hw.watch_eq]
    exact s.watch_of_unreadable digest interval hsplit hgood hbad
  · intro interval now later hall
    obtain ⟨found, events, hwatch⟩ := s.watch_of_all_readable digest interval hall
    rw [hw.watch_eq, hwatch]
    exact (hw.run digest ((now :: later).flatMap Situation.steps)).1

/-- The certificate of another pair than that of the key. -/
def halfReplaced : PairFiles := ⟨.ok [66], .ok [65]⟩

/-- Files that are gone. -/
def noFiles : PairFiles :=
  ⟨.error ⟨.ofText "cert.pem", .missing⟩, .error ⟨.ofText "key.pem", .missing⟩⟩

/-- The certificate is replaced before the key: a poll has already been refused, and the next one asks again.  A
run gives up when the files are gone. -/
theorem reported_until_loaded_of_half_replaced :
    let s := (openedWith [65]).run Sha512.hexDigest
      [.poll loadMatching, .change halfReplaced, .poll loadMatching, .change halfReplaced]
    let r := s.watch Sha512.hexDigest 1 ⟨halfReplaced, loadMatching⟩
      [⟨noFiles, loadMatching⟩, ⟨filesOf [66], loadMatching⟩]
    start (.ofText "cert.pem") loadMatching (filesOf [65]) = .ok (openedWith [65] : Rotation Text Unit) ∧
    (∀ c ∈ readings s.history, Sha512.hexDigest c = Sha512.hexDigest [66] → c = [66]) ∧
    recorded s.history = some [65] ∧ s.files.certificate = .ok [66] ∧ s.Asks Sha512.hexDigest loadMatching ∧
    (s.look Sha512.hexDigest loadMatching).watcher = s.watcher ∧
    r.watcher.fault = some (.unreadable ⟨.ofText "cert.pem", .missing⟩) ∧ r.unused.length = 1 := by
  intro s r
  have hstart : start (.ofText "cert.pem") loadMatching (filesOf [65]) =
      .ok (openedWith [65] : Rotation Text Unit) := start_openedWith [65]
  have hdigest : ∀ c ∈ readings s.history, Sha512.hexDigest c = Sha512.hexDigest [66] → c = [66] := by
    decide +kernel
  have hrecorded : recorded s.history = some [65] := by decide +kernel
  have hrefused : ∀ context, loadMatching s.files ≠ .loaded context := fun context h => nomatch h
  obtain ⟨-, hasks, hkept, -, hends, -⟩ := reported_until_loaded Sha512.hexDigest hstart
    [.poll loadMatching, .change halfReplaced, .poll loadMatching, .change halfReplaced]
  have hasked : s.Asks Sha512.hexDigest loadMatching :=
    (hasks loadMatching [66] hdigest rfl).mpr ⟨[65], hrecorded, by decide⟩
  obtain ⟨events, hr⟩ := hends 1 ⟨halfReplaced, loadMatching⟩
    [⟨noFiles, loadMatching⟩, ⟨filesOf [66], loadMatching⟩] [⟨halfReplaced, loadMatching⟩] ⟨noFiles, loadMatching⟩
    [⟨filesOf [66], loadMatching⟩] _ rfl (fun x hx => ⟨[66], by rw [List.mem_singleton.mp hx]; rfl⟩) rfl
  refine ⟨hstart, hdigest, hrecorded, rfl, hasked, (hkept loadMatching hasked hrefused).1, ?_, ?_⟩ <;>
    simp only [r, s, hr, List.map_cons, List.map_nil, List.length_singleton]

end Rotation

end NetAttach
