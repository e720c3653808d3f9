/-
  Watching a certificate.

  The file is read from time to time.  What is remembered is the digest of the content that was accepted last:
  the first one that was read, or the last one whose change was reported and not refused.  A change that is
  refused is reported again.  When the file cannot be read, watching ends and the program is to stop, rather
  than go on with a certificate that may be out of date.
-/
import NetAttach.Failure
import NetAttach.File
import NetAttach.Text.Encoding

namespace NetAttach

/-- What ends a look at the certificate early. -/
inductive CertificateFault where
  /-- The file cannot be read. -/
  | unreadable (fault : FileFault)
  /-- Whoever heard of a change cannot go on. -/
  | fatal (text : Text)
  | failed (f : Failure)
deriving DecidableEq

namespace CertificateFault

/-- What is said of a fault. -/
def message : CertificateFault → Text
  | unreadable fault => "failed to read file " ++ fault.path.text ++ ": " ++ fault.message
  | fatal text => text
  | failed f => f.message

/-- The fault ends watching; other faults are passed over. -/
def isFatal : CertificateFault → Bool
  | failed _ => false
  | _ => true

end CertificateFault

/-- What comes of reporting a change. -/
inductive Reception where
  | accepted
  | refused
  | fault (f : CertificateFault)
deriving DecidableEq

/-- What a watcher does that can be seen from outside. -/
inductive CertificateEvent where
  | report
  | wait (d : Float)
  | stopSet

/-- What surrounds a watcher in a world `σ`: how the file is read and digested, and who hears of a change. -/
structure CertificateSurroundings (δ σ : Type) where
  read : σ → Except FileFault Bytes
  digest : Bytes → δ
  report : σ → Reception × σ

/-- A watcher of a certificate: the digest that was accepted last, the fault that ended watching, and whether
the program is to stop. -/
structure CertificateWatcher (δ : Type) where
  accepted : Option δ
  fault : Option CertificateFault
  stopped : Bool

namespace CertificateWatcher

variable {δ σ : Type} [DecidableEq δ]

/-- A watcher that has seen nothing. -/
def new : CertificateWatcher δ := ⟨none, none, false⟩

/-- What comes of one look: whether a change was reported, or a fault. -/
structure Look (δ σ : Type) where
  result : Except CertificateFault Bool
  watcher : CertificateWatcher δ
  world : σ
  events : List CertificateEvent

/-- Report that the digest has changed to `found`. -/
def reportChange (around : CertificateSurroundings δ σ) (w : CertificateWatcher δ) (found : δ)
    (world : σ) : Look δ σ :=
  match around.report world with
  | (.accepted, world) => ⟨.ok true, { w with accepted := some found }, world, [.report]⟩
  | (.refused, world) => ⟨.ok true, w, world, [.report]⟩
  | (.fault f, world) => ⟨.error f, w, world, [.report]⟩

/-- Look at the certificate once. -/
def poll (around : CertificateSurroundings δ σ) (w : CertificateWatcher δ) (world : σ) : Look δ σ :=
  match around.read world with
  | .error fault => ⟨.error (.unreadable fault), w, world, []⟩
  | .ok content =>
    let found := around.digest content
    match w.accepted with
    | none => ⟨.ok false, { w with accepted := some found }, world, []⟩
    | some accepted =>
      if found = accepted then ⟨.ok false, w, world, []⟩ else reportChange around w found world

/-- What comes of watching until the program is to stop. -/
structure Run (δ σ : Type) where
  watcher : CertificateWatcher δ
  world : σ
  events : List CertificateEvent
  /-- The waits that were not needed. -/
  unused : List (σ → σ)

/-- Put events in front of those of a run. -/
def Run.after (events : List CertificateEvent) (r : Run δ σ) : Run δ σ :=
  { r with events := events ++ r.events }

/-- The fault that ends watching, if there is one. -/
def Look.fatal? (l : Look δ σ) : Option CertificateFault :=
  match l.result with
  | .error fault => if fault.isFatal then some fault else none
  | .ok _ => none

/-- Watching ends with a fault. -/
def Look.quit (l : Look δ σ) (fault : CertificateFault) (unused : List (σ → σ)) : Run δ σ :=
  { watcher := { l.watcher with fault := some fault, stopped := true }
    world := l.world
    events := l.events ++ [.stopSet]
    unused }

/-- Look, wait, and look again, until there is a fatal fault; `waits` says what happens to the world in each
wait, and in the wait after these the program is told to stop. -/
def watch (around : CertificateSurroundings δ σ) (interval : Float) :
    (waits : List (σ → σ)) → CertificateWatcher δ → σ → Run δ σ
  | [], w, world =>
    let look := w.poll around world
    match look.fatal? with
    | some fault => look.quit fault []
    | none =>
      { watcher := { look.watcher with stopped := true }
        world := look.world
        events := look.events ++ [.wait interval, .stopSet]
        unused := [] }
  | wait :: rest, w, world =>
    let look := w.poll around world
    match look.fatal? with
    | some fault => look.quit fault (wait :: rest)
    | none =>
      (watch around interval rest look.watcher (wait look.world)).after (look.events ++ [.wait interval])

/-- Watch, unless the program is to stop already. -/
def run (around : CertificateSurroundings δ σ) (interval : Float) (waits : List (σ → σ))
    (w : CertificateWatcher δ) (world : σ) : Run δ σ :=
  if w.stopped then ⟨w, world, [], waits⟩ else watch around interval waits w world

/-! ## A refused change is reported again -/

/-- The file is the world, and whoever hears of a change refuses it. -/
def refusing : CertificateSurroundings Bytes Bytes :=
  { read := .ok, digest := id, report := fun content => (.refused, content) }

example : ((new.poll refusing [1]).watcher.poll refusing [2]).result.toOption = some true := by decide
example : ((new.poll refusing [1]).watcher.poll refusing [2]).watcher.accepted = some [1] := by decide

end CertificateWatcher

end NetAttach
