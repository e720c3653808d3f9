/-
  A queue of keys for several workers.

  A key is dirty when there is work for it, and processing while a worker holds it.  A dirty key that nobody
  holds is ready, and ready keys are handed out in the order in which they became so.  A key that becomes
  dirty while it is held is not ready until its holder is done with it; so no key is held twice at a time.
  A key may also wait for a time to come, and is added then.

  A worker that asks for a key lets time go by until there is one.  The clock is part of the question: waiting
  moves it on.
-/
import NetAttach.WorkQueue.Backoff

namespace NetAttach

/-- A key that is to be added when the clock shows `due`. -/
structure Delayed (κ τ : Type) where
  due : τ
  key : κ

/-- The queue.  Waiting keys stand in the order in which they are due, and of those that are due at one time
the one that was delayed first stands first. -/
structure WorkQueue (κ τ : Type) where
  ready : List κ
  dirty : List κ
  processing : List κ
  waiting : List (Delayed κ τ)
  shuttingDown : Bool

/-- What comes of asking for a key. -/
inductive Handout (κ : Type) where
  | key (k : κ)
  /-- The queue is shutting down, or there was no key in time. -/
  | nothing
  /-- Nothing will ever happen. -/
  | blocked
  /-- The clock does not move on by the time that is to be waited. -/
  | stuck
deriving DecidableEq

namespace WorkQueue

variable {κ τ : Type} [DecidableEq κ]

/-- The queue in which nothing is. -/
def empty : WorkQueue κ τ := ⟨[], [], [], [], false⟩

/-- There is work for `key`. -/
def add (q : WorkQueue κ τ) (key : κ) : WorkQueue κ τ :=
  if q.shuttingDown || q.dirty.contains key then q
  else if q.processing.contains key then { q with dirty := key :: q.dirty }
  else { q with dirty := key :: q.dirty, ready := q.ready ++ [key] }

/-- Put a delayed key among those that wait, behind all that are not due later. -/
def insertDelayed [LE τ] [DecidableLE τ] (e : Delayed κ τ) : List (Delayed κ τ) → List (Delayed κ τ)
  | [] => [e]
  | f :: rest => if f.due ≤ e.due then f :: insertDelayed e rest else e :: f :: rest

/-- There is work for `key` when `delay` has gone by. -/
def addAfter [Add τ] [Zero τ] [LE τ] [DecidableLE τ] (q : WorkQueue κ τ) (now : τ) (key : κ)
    (delay : τ) : WorkQueue κ τ :=
  if delay ≤ 0 then q.add key
  else if q.shuttingDown then q
  else { q with waiting := insertDelayed ⟨now + delay, key⟩ q.waiting }

/-- Add the delayed keys that are due. -/
def promoteFrom [LE τ] [DecidableLE τ] (now : τ) : List (Delayed κ τ) → WorkQueue κ τ → WorkQueue κ τ
  | [], q => { q with waiting := [] }
  | e :: rest, q =>
    if e.due ≤ now then promoteFrom now rest (q.add e.key) else { q with waiting := e :: rest }

/-- Add all keys whose time has come. -/
def promote [LE τ] [DecidableLE τ] (q : WorkQueue κ τ) (now : τ) : WorkQueue κ τ :=
  promoteFrom now q.waiting q

/-- The first ready key, if there is one; its holder has it until it is done. -/
def handOut (q : WorkQueue κ τ) : Option (κ × WorkQueue κ τ) :=
  match q.ready with
  | [] => none
  | key :: rest =>
    some (key,
      { q with ready := rest, dirty := q.dirty.erase key, processing := q.processing.insert key })

/-- The holder of `key` is done with it. -/
def done (q : WorkQueue κ τ) (key : κ) : WorkQueue κ τ :=
  { q with
    processing := q.processing.erase key
    ready := if q.dirty.contains key then q.ready ++ [key] else q.ready }

/-- Nothing is added or handed out any more, and nobody waits any longer. -/
def shutDown (q : WorkQueue κ τ) : WorkQueue κ τ := { q with shuttingDown := true, waiting := [] }

/-! ## Waiting for a key -/

/-- Why and how long a worker waits. -/
inductive Pause (τ : Type) where
  | expired
  | forever
  | span (d : τ)

/-- How long to wait when no key is ready: to the time at which the first delayed key is due, but not beyond
the deadline. -/
def pause [Sub τ] [Zero τ] [LE τ] [DecidableLE τ] [LT τ] [DecidableLT τ] (q : WorkQueue κ τ)
    (deadline : Option τ) (now : τ) : Pause τ :=
  let next := q.waiting.head?.map fun e => later (e.due - now) 0
  match deadline with
  | none => next.elim .forever .span
  | some deadline =>
    let left := deadline - now
    if left ≤ 0 then .expired else .span (next.elim left fun d => earlier d left)

/-- What comes of looking for a key once. -/
inductive Look (κ τ : Type) where
  | answer (h : Handout κ)
  /-- There is none yet: look again after waiting. -/
  | wait (d : τ)

/-- Look for a key.  This is all that a worker does without letting others in between. -/
def look [Sub τ] [Zero τ] [LE τ] [DecidableLE τ] [LT τ] [DecidableLT τ]
    (deadline : Option τ) (q : WorkQueue κ τ) (now : τ) : Look κ τ × WorkQueue κ τ :=
  if q.shuttingDown then (.answer .nothing, q)
  else
    let q := q.promote now
    match q.handOut with
    | some (key, q) => (.answer (.key key), q)
    | none =>
      match q.pause deadline now with
      | .expired => (.answer .nothing, q)
      | .forever => (.answer .blocked, q)
      | .span d => (.wait d, q)

/-- Wait for a key, looking at most `looks` times. -/
def getWithin [Add τ] [Sub τ] [Zero τ] [LE τ] [DecidableLE τ] [LT τ] [DecidableLT τ]
    (deadline : Option τ) : (looks : Nat) → WorkQueue κ τ → τ → Handout κ × WorkQueue κ τ × τ
  | 0, q, now => (.stuck, q, now)
  | looks + 1, q, now =>
    match q.look deadline now with
    | (.answer h, q) => (h, q, now)
    | (.wait d, q) => getWithin deadline looks q (now + d)

/-- How often a worker has to look: when it asks, when a delayed key is due, and at its deadline.  Times that
are rounded may take it three steps to reach one of these. -/
def looksNeeded (q : WorkQueue κ τ) : Nat := 4 * (q.waiting.length + 2)

/-- Wait for a key, for ever or as long as `timeout`; the result holds the queue and the clock afterwards. -/
def get [Add τ] [Sub τ] [Zero τ] [LE τ] [DecidableLE τ] [LT τ] [DecidableLT τ]
    (q : WorkQueue κ τ) (now : τ) (timeout : Option τ) : Handout κ × WorkQueue κ τ × τ :=
  q.getWithin (timeout.map fun t => now + t) q.looksNeeded now

/-! ## Which keys are where -/

theorem mem_dirty_add (q : WorkQueue κ τ) (key k : κ) (h : q.shuttingDown = false) :
    k ∈ (q.add key).dirty ↔ k = key ∨ k ∈ q.dirty := by
  unfold add
  by_cases hd : key ∈ q.dirty
  · simp only [h, hd, List.contains_eq_mem, decide_true, Bool.or_true, if_true]
    constructor
    · exact Or.inr
    · rintro (rfl | hk)
      · exact hd
      · exact hk
  · by_cases hp : key ∈ q.processing <;>
      simp [h, hd, hp]

@[simp] theorem processing_add (q : WorkQueue κ τ) (key : κ) :
    (q.add key).processing = q.processing := by
  unfold add
  split
  · rfl
  · split <;> rfl

example : ((empty : WorkQueue Nat Nat).add 1 |>.add 2 |>.add 1).ready = [1, 2] := by decide
example : (((empty : WorkQueue Nat Nat).addAfter 0 7 5).get 0 (some 9)).1 = .key 7 := by decide
example : (((empty : WorkQueue Nat Nat).addAfter 0 7 5).get 0 (some 4)).1 = .nothing := by decide

end WorkQueue

end NetAttach
