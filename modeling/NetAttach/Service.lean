/-
  The service from its start to its end.

  The parts are started in an order in which each finds what it needs: first a certificate that can be used,
  then the metrics, the counting of networks unless it is switched off, the admission requests, and last the
  watch over the certificate.  The service then waits until it is told to stop.  It ends in the order that
  lets work in progress come to its end: no new changes, then no more work, then no more requests.

  What happens outside is given beforehand: what comes of loading the certificate, whether the service runs
  in a cluster, whether the watch over the certificate fails, and what each wait brings.
-/
import NetAttach.Certificate.KeyPair
import NetAttach.CommandLine.Serve
import NetAttach.Usage.Tracker
import NetAttach.WorkQueue.Backoff

namespace NetAttach

/-- The parts of the service that run on their own. -/
inductive Part where
  | metricsServer
  | webhookServer
  | controller
  | podWatcher
  | certificateWatcher
deriving DecidableEq

/-- The name of a part. -/
def Part.name : Part → Text
  | metricsServer => "metrics-server"
  | webhookServer => "webhook-server"
  | controller => "controller"
  | podWatcher => "pod-watcher"
  | certificateWatcher => "cert-watcher"

/-- The signals that the service listens to. -/
inductive Signal where
  | hangUp
  | interrupt
  | terminate
deriving DecidableEq

namespace Signal

/-- The name of a signal. -/
def name : Signal → Text
  | hangUp => "SIGHUP"
  | interrupt => "SIGINT"
  | terminate => "SIGTERM"

/-- All signals, by name. -/
def all : List Signal := [hangUp, interrupt, terminate]

/-- The signal with the given name. -/
def ofName? (t : Text) : Option Signal := all.find? fun s => s.name = t

end Signal

/-- What a wait can bring. -/
inductive Wake where
  | nothing
  | signal (s : Signal)
  /-- The keyboard, before the signals were listened to. -/
  | keyboard
deriving DecidableEq

/-- What the service does that can be seen from outside. -/
inductive ServiceEvent where
  | loadPair (certificate privateKey : PathName)
  /-- A server is made, with a certificate or without. -/
  | makeServer (part : Part) (host : Text) (port : Option Int) (secure : Bool)
  | makeController (handlers : List Text) (maxRetries : Int) (delays : List Float)
  | makePodWatcher (timeout : Int)
  | makeCertificateWatcher (certificate : PathName) (interval : Float)
  /-- A part is started, with a number of workers if it has any. -/
  | start (part : Part) (workers : Option Int)
  | askCluster
  | askUserConfig
  | wait (d : Float)
  | reload
  | stopSet
  | join (part : Part) (timeout : Option Float)
  | stop (part : Part)
  | shutDown (part : Part)

/-- What happens outside. -/
structure ServiceSurroundings where
  /-- What comes of loading the certificate at the start. -/
  load : Loading Unit
  inCluster : Bool
  /-- The watch over the certificate fails as soon as it is started. -/
  certificateFails : Bool
  /-- What the waits bring, one after another; behind these, the signal to terminate. -/
  waits : List Wake

namespace Service

/-- Why the service does not come to an orderly end. -/
inductive Error where
  | commandLine (s : CommandLine.Stop)
  | settings (e : ServeFlags.Error)
  | failed (f : Failure)

/-- What has become of the service: its exit code, what it did, which signals it listened to, and what its
metrics were, if it came to having any. -/
structure Outcome where
  result : Except Error Nat
  events : List ServiceEvent
  signals : List Signal
  gauges : Option Gauges

/-! ## The parts -/

/-- The handlers of changes. -/
def handlers : List Text := ["usage"]

/-- The delays after the first failures of a key. -/
def firstDelays (s : ControllerSettings) : List Float :=
  let fresh : Backoff Text Float := .new s.baseDelay s.maxDelay
  let (first, once) := fresh.fail []
  [first, (once.fail []).1]

/-- The counting of networks is set up and started. -/
def startCounting (inCluster : Bool) (s : ControllerSettings) : List ServiceEvent :=
  .askCluster :: (if inCluster then [] else [.askUserConfig]) ++ [
    .makeController handlers s.maxRetries (firstDelays s),
    .start .controller (some s.workers),
    .makePodWatcher s.watchTimeout,
    .start .podWatcher none]

/-- How long the end of the watch over pods is awaited. -/
def podWatcherPatience : Float := 5

/-- The counting of networks ends. -/
def stopCounting : List ServiceEvent :=
  [.join .podWatcher (some podWatcherPatience), .stop .controller]

/-- The gauges before anything is counted. -/
def primedGauges (labels : Option (List Text)) : Gauges :=
  let p : Publication := ⟨true, labels⟩
  ((UsageTracker.prime p).run p (fun _ _ => .absent) .empty).events.foldl Gauges.hear .empty

/-- How long the service waits at a time. -/
def waitInterval : Float := 1

/-- Wait until told to stop. -/
def await : List Wake → List ServiceEvent
  | [] => [.wait waitInterval, .stopSet]
  | .nothing :: rest => .wait waitInterval :: await rest
  | .signal .hangUp :: rest => .wait waitInterval :: .reload :: await rest
  | .signal _ :: _ | .keyboard :: _ => [.wait waitInterval, .stopSet]

/-! ## The whole -/

/-- What the service does from its start on. -/
def opening (s : Settings) (around : ServiceSurroundings) : List ServiceEvent :=
  [.makeServer .metricsServer s.metrics.listenAddress (some s.metrics.port) false, .start .metricsServer none] ++
    (if s.controller.enabled then startCounting around.inCluster s.controller else []) ++ [
    .makeServer .webhookServer s.webhook.bindAddress s.webhook.port true, .start .webhookServer none,
    .makeCertificateWatcher s.webhook.certificate s.webhook.pollInterval, .start .certificateWatcher none]

/-- What the service does when it has been told to stop. -/
def closing (s : Settings) : List ServiceEvent :=
  (if s.controller.enabled then stopCounting else []) ++
    [.shutDown .webhookServer, .shutDown .metricsServer, .join .certificateWatcher none]

/-- Run the service with settings. -/
def run (s : Settings) (around : ServiceSurroundings) : Outcome :=
  let loading := .loadPair s.webhook.certificate s.webhook.privateKey
  match KeyPair.start s.webhook.certificate around.load with
  | .error (.unusable _ _) => ⟨.ok 1, [loading], [], none⟩
  | .error (.failed f) => ⟨.error (.failed f), [loading], [], none⟩
  | .ok _ =>
    let middle := if around.certificateFails then [.stopSet] else await around.waits
    { result := .ok (if around.certificateFails then 1 else 0)
      events := loading :: (opening s around ++ middle ++ closing s)
      signals := Signal.all
      gauges := some (if s.controller.enabled then primedGauges s.metrics.gaugeLabels else .empty) }

/-- Run the service with a command line; `load` reads the document in a file. -/
def launch [Nesting] (words : List Text) (load : PathName → Except ServeFlags.Error Value)
    (around : ServiceSurroundings) : Outcome :=
  match ServeFlags.read words with
  | .error stop => ⟨.error (.commandLine stop), [], [], none⟩
  | .ok flags =>
    match flags.settings load with
    | .error e => ⟨.error (.settings e), [], [], none⟩
    | .ok s => run s around

example : (startCounting false Settings.standard.controller).length = 6 := rfl
example : (await [.signal .hangUp, .nothing]).length = 5 := rfl

end Service

end NetAttach
