/-
  Changes that come in while workers apply others.

  A change is enqueued in two steps, recording it and adding its key to the queue, and a worker applies the
  latest change of a pod in three moves, reading it, handing it to the handlers and forgetting it if it was a
  removal.  `Traffic` is a crew that does this, with the enqueues that are half done and the history of what
  was seen; `Traffic.step` is one happening, and a run is any list of them.  So a run is any number of changes
  and any number of workers, interleaved in any way.

  Something that cannot happen where it stands in the list (a worker that has no key moves, an enqueue is
  finished that was not begun) changes nothing.
-/
import NetAttach.Proofs.Controller.Log

namespace NetAttach

/-- How changes are applied: the handlers, how often a pod is tried, and what becomes of the world when it is
given up. -/
structure Procedure (σ : Type) where
  registry : Registry σ
  maxRetries : Int
  onDrop : Drop Text → σ → σ

namespace Procedure

variable {σ : Type}

/-- Applying the latest change of a pod, move by move. -/
def move (p : Procedure σ) : Point → PodWork σ → Progress Point × PodWork σ
  | .reading key, w =>
    match w.latest.get? key with
    | none => (.finish none, w)
    | some r => (.resume (.calling r), w)
  | .calling r, w =>
    match p.registry.handle (.change r.change) w.world with
    | (world, none) => (.resume (.retiring r), { w with world })
    | (world, some cause) => (.finish (some cause), { w with world })
  | .retiring r, w => (.finish none, w.retire r)

/-- The routine of each worker. -/
def routine (p : Procedure σ) : Routine Text Point (PodWork σ) :=
  { start := .reading
    move := p.move
    maxRetries := p.maxRetries
    onDrop := fun drop w => { w with world := p.onDrop drop w.world } }

/-- What is seen of the next move of a worker. -/
def seen {τ : Type} (p : Procedure σ) (w : PodWork σ) : Stage Text τ Point → List Occurrence
  | .busy _ (.reading key) => if (w.latest.get? key).isNone then [.unclaimed key] else []
  | .busy _ (.calling r) => [.handed r (p.registry.handle (.change r.change) w.world).2]
  | .reporting key cause => [.dropped ⟨key, cause⟩]
  | _ => []

/-- What becomes of the world at an occurrence: a change is handed to the handlers, or a drop is told of. -/
def act (p : Procedure σ) (world : σ) : Occurrence → σ
  | .handed r _ => (p.registry.handle (.change r.change) world).1
  | .dropped d => p.onDrop d world
  | .recorded _ | .unclaimed _ => world

/-- What becomes of the world in a history. -/
def replay (p : Procedure σ) (world : σ) (history : List Occurrence) : σ := history.foldl p.act world

/-- In a history that began in the given world, the handlers have done what it says of them: the outcome of each
call is the one that they came to. -/
def Truthful (p : Procedure σ) (world : σ) (history : List Occurrence) : Prop :=
  ∀ before r outcome after, history = before ++ .handed r outcome :: after →
    (p.registry.handle (.change r.change) (p.replay world before)).2 = outcome

end Procedure

/-! ## A worker that nobody interrupts -/

/-- Handlers that act on the world do the same where changes are applied. -/
theorem Registry.informAll_onWorld {τ σ : Type} (change : PodChange) (handlers : List (Handler σ))
    (w : Control τ σ) :
    informAll change (handlers.map Handler.onWorld) w =
      (w.setWorld (informAll change handlers w.world).1, (informAll change handlers w.world).2) := by
  induction handlers generalizing w with
  | nil => rfl
  | cons h rest ih =>
    have hinform : inform change h.onWorld w =
        (w.setWorld (inform change h w.world).1, (inform change h w.world).2) := by
      unfold inform Handler.onWorld
      split <;> rfl
    rw [List.map_cons, informAll, informAll, hinform]
    cases ho : inform change h w.world with
    | mk world outcome =>
      cases outcome with
      | none => exact ih (w.setWorld world)
      | some cause => rfl

namespace Procedure

variable {τ σ : Type}

/-- The moves of applying a change, one after another, come to what `Control.process` comes to. -/
theorem ends_process (p : Procedure σ) {registry : Registry (Control τ σ)}
    (hreg : registry.entries = p.registry.entries.map fun e => (e.1, e.2.onWorld)) (key : Text)
    (w : Control τ σ) :
    (Control.process registry key w).1 =
        { w with subject := (Control.process registry key w).1.subject } ∧
      p.routine.Ends (.reading key) w.subject
        ((Control.process registry key w).1.subject, (Control.process registry key w).2) := by
  cases hl : w.subject.latest.get? key with
  | none =>
    have hproc : Control.process registry key w = (w, none) := by
      simp [Control.process, Control.latest?, hl]
    rw [hproc]
    exact ⟨rfl, .finish (by simp [routine, move, hl])⟩
  | some r =>
    have hhandle : registry.handle (.change r.change) w =
        (w.setWorld (p.registry.handle (.change r.change) w.world).1,
          (p.registry.handle (.change r.change) w.world).2) := by
      have hmap : registry.entries.map (·.2) = (p.registry.entries.map (·.2)).map Handler.onWorld := by
        rw [hreg, List.map_map, List.map_map]
        rfl
      show Registry.informAll r.change (registry.entries.map (·.2)) w = _
      rw [hmap]
      exact Registry.informAll_onWorld r.change _ w
    have hread : p.routine.move (.reading key) w.subject = (.resume (.calling r), w.subject) := by
      simp [routine, move, hl]
    cases ho : p.registry.handle (.change r.change) w.world with
    | mk world outcome =>
      rw [ho] at hhandle
      have hw : p.registry.handle (.change r.change) w.subject.world = (world, outcome) := ho
      cases outcome with
      | none =>
        have hproc : Control.process registry key w = ((w.setWorld world).retire r, none) := by
          simp [Control.process, Control.latest?, hl, hhandle]
        rw [hproc]
        have hcall : p.routine.move (.calling r) w.subject =
            (.resume (.retiring r), { w.subject with world }) := by
          simp [routine, move, hw]
        exact ⟨rfl, .resume hread (.resume hcall (.finish rfl))⟩
      | some cause =>
        have hproc : Control.process registry key w = (w.setWorld world, some cause) := by
          simp [Control.process, Control.latest?, hl, hhandle]
        rw [hproc]
        have hcall : p.routine.move (.calling r) w.subject =
            (.finish (some cause), { w.subject with world }) := by
          simp [routine, move, hw]
        exact ⟨rfl, .resume hread (.finish hcall)⟩

variable [Add τ] [Zero τ] [LE τ] [DecidableLE τ] [LT τ] [DecidableLT τ]

/-- A worker that nobody interrupts does what an attempt of the dispatcher of changes does. -/
theorem moves_attempt (p : Procedure σ) {registry : Registry (Control τ σ)}
    (hreg : registry.entries = p.registry.entries.map fun e => (e.1, e.2.onWorld)) (key : Text)
    (w : Control τ σ) :
    Relation.ReflTransGen (Stage.Moves p.routine) (.busy key (.reading key), w)
      (.free, (Control.dispatcher registry p.maxRetries p.onDrop).attempt key w) := by
  obtain ⟨hplace, hends⟩ := p.ends_process hreg key w
  exact Stage.moves_attempt (Control.dispatcher registry p.maxRetries p.onDrop) rfl rfl rfl hplace hends

end Procedure

/-! ## Traffic -/

/-- Workers who apply changes, the keys of changes that have been recorded and are yet to be added, and what
was seen so far. -/
structure Traffic (τ σ : Type) where
  crew : Crew Text τ Point (PodWork σ)
  underway : List Text
  history : List Occurrence

/-- What happens next. -/
inductive Happening (τ : Type) where
  /-- The first step of enqueuing a change. -/
  | record (change : PodChange)
  /-- The second step, for a change of the pod `key`. -/
  | add (key : Text)
  | look (worker : Nat) (deadline : Option τ)
  | move (worker : Nat)
  | pass (d : τ)
  | shutDown

/-- The change that is enqueued, if this is the beginning of an enqueue. -/
def Happening.enqueued? {τ : Type} : Happening τ → Option PodChange
  | record change => some change
  | _ => none

namespace Traffic

variable {τ σ : Type} [Add τ] [Sub τ] [Zero τ] [LE τ] [DecidableLE τ] [LT τ] [DecidableLT τ]

/-- The place where the workers are. -/
def place (t : Traffic τ σ) : Control τ σ := t.crew.place

def queue (t : Traffic τ σ) : WorkQueue Text τ := t.place.queue

/-- Nothing has happened yet. -/
def new (base limit now : τ) (world : σ) : Traffic τ σ :=
  ⟨.new (Control.new base limit now world), [], []⟩

/-- Put the workers to another place. -/
def moveTo (t : Traffic τ σ) (place : Control τ σ) : Traffic τ σ := { t with crew := { t.crew with place } }

/-- One happening. -/
def step (p : Procedure σ) (t : Traffic τ σ) : Happening τ → Traffic τ σ
  | .record change =>
    { t.moveTo (t.place.record change) with
      underway := t.underway ++ [change.key]
      history := t.history ++ [.recorded ⟨t.place.subject.recorded, change⟩] }
  | .add key =>
    if key ∈ t.underway then { t.moveTo (t.place.add key) with underway := t.underway.erase key } else t
  | .look worker deadline => { t with crew := t.crew.look p.routine worker deadline }
  | .move worker =>
    { t with
      crew := t.crew.move p.routine worker
      history := t.history ++ p.seen t.place.subject (t.crew.stage worker) }
  | .pass d => t.moveTo (t.place.advance d)
  | .shutDown => t.moveTo t.place.shutDown

/-- Recording a change and adding its key at once is enqueuing it. -/
theorem place_record_add (p : Procedure σ) (t : Traffic τ σ) (change : PodChange) :
    ((t.step p (.record change)).step p (.add change.key)).place = Control.enqueue t.place change := by
  have hmem : change.key ∈ (t.step p (.record change)).underway :=
    List.mem_append_right _ (List.mem_singleton.mpr rfl)
  show place (if change.key ∈ (t.step p (.record change)).underway then _ else _) = _
  rw [if_pos hmem]
  rfl

/-- One happening after another. -/
def run (p : Procedure σ) (t : Traffic τ σ) (happenings : List (Happening τ)) : Traffic τ σ :=
  happenings.foldl (step p) t

/-- What was seen of one pod. -/
def log (t : Traffic τ σ) (key : Text) : List Occurrence := t.history.filter fun o => o.key = key

/-- The latest change of a pod. -/
def latest? (t : Traffic τ σ) (key : Text) : Option Recorded := t.place.latest? key

/-- The key is yet to be added, or the queue expects to hand it out. -/
def Owed (t : Traffic τ σ) (key : Text) : Prop := key ∈ t.underway ∨ t.queue.Expects key

/-- No enqueue is half done, no worker has a key, and none is ready or delayed. -/
structure AtRest (t : Traffic τ σ) : Prop where
  underway : t.underway = []
  unheld : ∀ worker, (t.crew.stage worker).key? = none
  ready : t.queue.ready = []
  waiting : t.queue.waiting = []

end Traffic

end NetAttach
