/-
  Working on the keys of a queue.

  A worker takes a key, processes it and is done with it.  A key whose processing failed is tried again after
  a while, and after a while that is twice as long, until it has failed `maxRetries` times in a row; then it
  is dropped, and somebody is told.  A success clears its record.

  Taking a key and settling an attempt are functions of their own, since between the two the other workers go
  on.
-/
import NetAttach.Failure
import NetAttach.Text.Quoted
import NetAttach.WorkQueue.Basic

namespace NetAttach

/-- Where work is done: the queue, the record of failures, the clock, and whatever the work is about. -/
structure Workplace (κ τ σ : Type) where
  queue : WorkQueue κ τ
  backoff : Backoff κ τ
  now : τ
  subject : σ

/-- A key that was given up, and why its last attempt failed. -/
structure Drop (κ : Type) where
  key : κ
  cause : Failure
deriving DecidableEq

/-- What is said of a key that was given up. -/
def Drop.message (d : Drop Text) : Text := "failed to process " ++ d.key.quoted ++ ": " ++ d.cause.message

/-- How keys are processed. -/
structure Dispatcher (κ τ σ : Type) where
  /-- Process a key; a failure is what it ends in, if it does. -/
  process : κ → Workplace κ τ σ → Workplace κ τ σ × Option Failure
  maxRetries : Int
  /-- What becomes of the subject when a key is dropped. -/
  onDrop : Drop κ → σ → σ

/-- How often a key is tried when nothing else is said. -/
def standardRetries : Int := 5

/-- What comes of a worker's turn. -/
inductive Turn where
  | worked
  /-- There was no key in time. -/
  | idle
  /-- The queue is shutting down. -/
  | over
  /-- There is no key, and there will never be one. -/
  | blocked
  | stuck
deriving DecidableEq

namespace Workplace

variable {κ τ σ : Type} [DecidableEq κ]

/-- A place where nothing has been done yet. -/
def new (base limit now : τ) (subject : σ) : Workplace κ τ σ :=
  ⟨.empty, .new base limit, now, subject⟩

/-- Add a key. -/
def add (w : Workplace κ τ σ) (key : κ) : Workplace κ τ σ := { w with queue := w.queue.add key }

/-- Add a key after a delay. -/
def addAfter [Add τ] [Zero τ] [LE τ] [DecidableLE τ] (w : Workplace κ τ σ) (key : κ) (delay : τ) :
    Workplace κ τ σ :=
  { w with queue := w.queue.addAfter w.now key delay }

/-- Add a key that has failed, after a delay that grows from failure to failure. -/
def addRateLimited [Add τ] [Zero τ] [LE τ] [DecidableLE τ] [LT τ] [DecidableLT τ]
    (w : Workplace κ τ σ) (key : κ) : Workplace κ τ σ :=
  let (delay, backoff) := w.backoff.fail key
  { w with backoff }.addAfter key delay

/-- Clear the record of a key. -/
def forget (w : Workplace κ τ σ) (key : κ) : Workplace κ τ σ :=
  { w with backoff := w.backoff.forget key }

/-- The holder of a key is done with it. -/
def done (w : Workplace κ τ σ) (key : κ) : Workplace κ τ σ := { w with queue := w.queue.done key }

/-- Shut the queue down. -/
def shutDown (w : Workplace κ τ σ) : Workplace κ τ σ := { w with queue := w.queue.shutDown }

/-- Let time go by. -/
def advance [Add τ] (w : Workplace κ τ σ) (d : τ) : Workplace κ τ σ := { w with now := w.now + d }

/-- Wait for a key. -/
def take [Add τ] [Sub τ] [Zero τ] [LE τ] [DecidableLE τ] [LT τ] [DecidableLT τ]
    (w : Workplace κ τ σ) (timeout : Option τ) : Handout κ × Workplace κ τ σ :=
  let (handout, queue, now) := w.queue.get w.now timeout
  (handout, { w with queue, now })

end Workplace

namespace Dispatcher

variable {κ τ σ : Type} [DecidableEq κ] [Add τ] [Sub τ] [Zero τ] [LE τ] [DecidableLE τ] [LT τ]
  [DecidableLT τ]

/-- Draw the consequences of a failed attempt. -/
def settleFailure (d : Dispatcher κ τ σ) (key : κ) (cause : Failure) (w : Workplace κ τ σ) :
    Workplace κ τ σ :=
  if (w.backoff.count key + 1 : Int) < d.maxRetries then w.addRateLimited key
  else { w.forget key with subject := d.onDrop ⟨key, cause⟩ w.subject }

/-- Draw the consequences of an attempt, and be done with its key. -/
def settle (d : Dispatcher κ τ σ) (key : κ) (cause : Option Failure) (w : Workplace κ τ σ) :
    Workplace κ τ σ :=
  (cause.elim (w.forget key) fun cause => d.settleFailure key cause w).done key

/-- Process a key that was taken, and settle the attempt. -/
def attempt (d : Dispatcher κ τ σ) (key : κ) (w : Workplace κ τ σ) : Workplace κ τ σ :=
  let (w, cause) := d.process key w
  d.settle key cause w

/-- One turn of a worker. -/
def turn (d : Dispatcher κ τ σ) (timeout : Option τ) (w : Workplace κ τ σ) :
    Turn × Workplace κ τ σ :=
  match w.take timeout with
  | (.key key, w) => (.worked, d.attempt key w)
  | (.nothing, w) => (if w.queue.shuttingDown then .over else .idle, w)
  | (.blocked, w) => (.blocked, w)
  | (.stuck, w) => (.stuck, w)

/-- The turns of a worker, one after another, at most `most` of them: what comes of the last one.  A worker
goes on as long as it gets keys. -/
def work (d : Dispatcher κ τ σ) : (most : Nat) → Workplace κ τ σ → Turn × Workplace κ τ σ
  | 0, w => (.worked, w)
  | most + 1, w =>
    match d.turn none w with
    | (.worked, w) => d.work most w
    | last => last

/-- Let a worker have at most `most` turns; when it would wait for ever, the queue is shut down. -/
def workOut (d : Dispatcher κ τ σ) (most : Nat) (w : Workplace κ τ σ) : Workplace κ τ σ :=
  match d.work most w with
  | (.blocked, w) => w.shutDown
  | (_, w) => w

/-- Start workers, each when the one before it has come to its end; `onStart` is what becomes of the subject
when one starts. -/
def startAll (d : Dispatcher κ τ σ) (most : Nat) (onStart : Text → σ → σ) (names : List Text)
    (w : Workplace κ τ σ) : Workplace κ τ σ :=
  names.foldl (fun w name => d.workOut most { w with subject := onStart name w.subject }) w

end Dispatcher

/-- The names of workers, in the order in which they were started. -/
def workerNames (count : Int) : List Text :=
  (List.range count.toNat).map fun i => "dispatch-worker-" ++ Text.ofNat i

end NetAttach
