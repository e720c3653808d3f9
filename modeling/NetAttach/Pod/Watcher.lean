/-
  Watching the pods of the cluster.

  The watcher lists all pods and then follows a stream of what happens to them.  A stream is opened at a
  version, the one of the list or of the last thing that was heard; when that is lost, because the stream
  reported an error or something failed, the pods are listed again and compared with what is known, so that
  nothing that happened in between is missed.

  What the cluster will answer is given as a script, and so are the failures of whoever is told of changes.
  When the script is used up, the watcher is told to stop.
-/
import NetAttach.Pod.Adapter

namespace NetAttach

/-- What can go wrong with a list, a stream or the telling. -/
inductive WatchFailure where
  /-- The cluster answers with a status that is no success. -/
  | status (code : Int) (reason : Option Text)
  | other (f : Failure)
deriving DecidableEq

namespace WatchFailure

/-- What is said of a failure. -/
def message : WatchFailure → Text
  | status code reason => "(" ++ Text.ofInt code ++ ")\nReason: " ++ reason.getD "None" ++ "\n"
  | other f => f.message

/-- The status that says that a version is too old to start a stream from. -/
def statusExpired : Int := 410

/-- The version was too old, so there is no need to wait before listing again. -/
def isExpiry : WatchFailure → Bool
  | status code _ => code = statusExpired
  | other _ => false

end WatchFailure

/-- A list of all pods, and the version it is a picture of. -/
structure PodListing where
  version : Option Text
  pods : List LivePod

/-- What comes out of a stream. -/
inductive StreamItem where
  | pod (kind : WatchKind) (p : LivePod)
  /-- The cluster says that the stream is broken. -/
  | error
  /-- The watcher is told to stop; nothing comes out. -/
  | stop
  | failure (f : WatchFailure)

/-- What the cluster will answer, and what will come of telling others of changes. -/
structure WatchScript where
  listings : List (Except WatchFailure PodListing)
  streams : List (List StreamItem)
  tellings : List (Option WatchFailure)

/-- What a watcher does that can be seen from outside. -/
inductive WatchEvent where
  | list
  | stream (version : Option Text) (timeout : Int)
  | tell (c : PodChange)
  | closeStream
  | stopSet
  | wait (d : Float)

/-- What happens to a watcher at work: what it does, what it hears, and what goes wrong. -/
inductive WatchSight where
  | did (event : WatchEvent)
  /-- A list has come, and is compared with what is known. -/
  | listed (known : PodAdapter) (listing : PodListing)
  | received (kind : WatchKind) (pod : LivePod)
  /-- The cluster has said that the stream is broken. -/
  | broken
  | failed (f : WatchFailure)

namespace WatchSight

/-- What can be seen from outside. -/
def event? : WatchSight → Option WatchEvent
  | did event => some event
  | listed .. | received .. | broken | failed _ => none

/-- What can be seen of a watcher from outside. -/
def events (sights : List WatchSight) : List WatchEvent := sights.filterMap event?

end WatchSight

/-- A watcher of pods. -/
structure PodWatcher where
  timeout : Int
  retryInterval : Float
  adapter : PodAdapter
  version : Option Text
  stopped : Bool
  script : WatchScript

namespace PodWatcher

/-- How long a stream is kept open, and how long to wait after a failure. -/
def standardTimeout : Int := 300
def standardRetryInterval : Float := 5

/-- A watcher that has heard nothing yet. -/
def new (timeout : Int) (retryInterval : Float) (script : WatchScript) : PodWatcher :=
  { timeout, retryInterval, adapter := .new, version := none, stopped := false, script }

/-- What comes of a part of the watcher's work. -/
structure Progress where
  watcher : PodWatcher
  sights : List WatchSight
  failure : Option WatchFailure

namespace Progress

/-- What can be seen from outside. -/
def events (p : Progress) : List WatchEvent := WatchSight.events p.sights

/-- Put a sight in front. -/
def after (sight : WatchSight) (p : Progress) : Progress := { p with sights := sight :: p.sights }

/-- Go on with `next`, unless there was a failure. -/
def andThen (p : Progress) (next : PodWatcher → Progress) : Progress :=
  match p.failure with
  | some _ => p
  | none =>
    let q := next p.watcher
    { q with sights := p.sights ++ q.sights }

end Progress

/-- Nothing more to do. -/
def ready (w : PodWatcher) : Progress := ⟨w, [], none⟩

/-- The work ends in a failure. -/
def fail (w : PodWatcher) (f : WatchFailure) : Progress := ⟨w, [.failed f], some f⟩

/-- The script is used up. -/
def exhaust (w : PodWatcher) : Progress :=
  (fail { w with stopped := true } (.other (.crash "script exhausted"))).after (.did .stopSet)

/-- Tell of a change. -/
def tell (w : PodWatcher) (c : PodChange) : Progress :=
  match w.script.tellings with
  | [] => w.ready.after (.did (.tell c))
  | outcome :: rest =>
    let w := { w with script := { w.script with tellings := rest } }
    (outcome.elim w.ready w.fail).after (.did (.tell c))

/-- Tell of changes, in order, up to the first failure. -/
def tellAll (w : PodWatcher) : List PodChange → Progress
  | [] => w.ready
  | c :: rest => (w.tell c).andThen fun w => tellAll w rest

/-- List all pods, and tell of what has changed. -/
def relist (w : PodWatcher) : Progress :=
  Progress.after (.did .list) <|
    match w.script.listings with
    | [] => w.exhaust
    | listing :: rest =>
      let w := { w with script := { w.script with listings := rest } }
      match listing with
      | .error f => w.fail f
      | .ok listing =>
        let (changes, adapter) := w.adapter.resync listing.pods
        ({ w with version := listing.version, adapter }.tellAll changes).after (.listed w.adapter listing)

/-- Something has happened to a pod. -/
def handle (w : PodWatcher) (kind : WatchKind) (pod : LivePod) : Progress :=
  match w.adapter.convert kind pod with
  | .error f => w.fail (.other f)
  | .ok (change, adapter) =>
    let w := { w with adapter }
    change.elim w.ready w.tell

/-- The version that a pod from a stream carries; an empty one is none. -/
def versionOf (pod : LivePod) : Option Text :=
  (pod.metadata.bind PodMetadata.resourceVersion).filter fun v => !v.isEmpty

/-- Follow a stream to its end, to an error in it, or to the first thing that comes out of it after the watcher
has been told to stop. -/
def follow (w : PodWatcher) : List StreamItem → Progress
  | [] => w.ready
  | .stop :: rest => (follow { w with stopped := true } rest).after (.did .stopSet)
  | .failure f :: _ => w.fail f
  | .error :: _ =>
    if w.stopped then w.ready.after (.did .closeStream)
    else ((ready { w with version := none }).after (.did .closeStream)).after .broken
  | .pod kind pod :: rest =>
    if w.stopped then w.ready.after (.did .closeStream)
    else
      let w := { w with version := (versionOf pod).or w.version }
      Progress.after (.received kind pod) <| (w.handle kind pod).andThen fun w => follow w rest

/-- Open a stream and follow it. -/
def stream (w : PodWatcher) : Progress :=
  Progress.after (.did (.stream w.version w.timeout)) <|
    match w.script.streams with
    | [] => w.exhaust
    | items :: rest => { w with script := { w.script with streams := rest } }.follow items

/-- One round: list the pods if the version is lost, and follow a stream. -/
def round (w : PodWatcher) : Progress :=
  (if w.version.isNone then w.relist else w.ready).andThen stream

/-- What a watcher does about a failure: the version is lost, and unless it was just too old, time goes by. -/
def recover (w : PodWatcher) (f : WatchFailure) : PodWatcher × List WatchSight :=
  ({ w with version := none }, if f.isExpiry then [] else [.did (.wait w.retryInterval)])

/-- A part of the work, and what is done about its failure. -/
def Progress.settle (p : Progress) : PodWatcher × List WatchSight :=
  let (w, pause) := p.failure.elim (p.watcher, []) p.watcher.recover
  (w, p.sights ++ pause)

/-- Do rounds, at most `most` of them, until told to stop.  There is what happens in each of them. -/
def runWithin : (most : Nat) → PodWatcher → PodWatcher × List (List WatchSight)
  | 0, w => (w, [])
  | most + 1, w =>
    if w.stopped then (w, [])
    else
      let (w, sights) := w.round.settle
      let (w, rounds) := runWithin most w
      (w, sights :: rounds)

/-- Do rounds until told to stop.  Each round uses up a part of the script or finds that it is used up. -/
def runRounds (w : PodWatcher) : PodWatcher × List (List WatchSight) :=
  w.runWithin (w.script.listings.length + w.script.streams.length + 1)

/-- Do rounds until told to stop, as it is seen from outside. -/
def run (w : PodWatcher) : PodWatcher × List WatchEvent :=
  let (w, rounds) := w.runRounds
  (w, WatchSight.events rounds.flatten)

end PodWatcher

end NetAttach
