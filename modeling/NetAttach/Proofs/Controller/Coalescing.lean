/-
  Coalescing is invisible.

  Of the changes of a pod that come while its key waits only the newest is applied.  For a tracker that is fed
  in this way, by any number of workers, this makes no difference: at rest it remembers what it would remember
  had all changes been handed to it directly, one after another.

  Structure:
  1. at all times the store is what replaying the changes that were handed on so far gives (`store_run`);
  2. what was recorded is what was enqueued (`recordedChanges_run`);
  3. at rest the last change that was handed on for a pod is the last that was recorded
     (`Tidy.lastOf_handedChanges`), so that replaying either comes to the same (`UsageStore.replay_congr`).
-/
import NetAttach.Proofs.Controller.Delivery
import NetAttach.Proofs.Controller.Replay

namespace NetAttach

/-! ## A tracker behind a queue -/

/-- A tracker on its own: its store, and what it has published. -/
structure Tracking where
  store : UsageStore
  published : List UsageEvent

namespace Tracking

/-- A tracker that has seen nothing. -/
def new : Tracking := ⟨.empty, []⟩

variable (publication : Publication) (lookup : Text → Text → Lookup)

/-- The cluster always gives the same answers. -/
def access : UsageAccess Tracking :=
  { publication
    store := store
    lookup := fun _ => lookup
    update := fun store events w => ⟨store, w.published ++ events⟩ }

/-- The only handler is the one that counts. -/
def registry [Nesting] (name : Text) : Registry Tracking := Table.empty.put name (access publication lookup).counting

theorem store_handle [Nesting] (name : Text) (c : PodChange) (w : Tracking) :
    ((registry publication lookup name).handle (.change c) w).1.store =
      w.store.apply publication lookup c := by
  have hall : (registry publication lookup name).handle (.change c) w =
      Registry.inform c (access publication lookup).counting w := by
    show Registry.informAll c [(access publication lookup).counting] w = _
    unfold Registry.informAll
    split
    · rename_i h
      exact h.symm
    · rfl
  rw [hall]
  unfold Registry.inform UsageStore.apply
  split <;> rfl

end Tracking

/-! ## Calls -/

/-- The change that a worker is about to hand to the handlers. -/
def Stage.called? {τ : Type} : Stage Text τ Point → Option Recorded
  | .busy _ (.calling r) => some r
  | _ => none

section Calls

variable {τ σ : Type} (p : Procedure σ)

theorem handings_seen (s : Stage Text τ Point) (w : PodWork σ) :
    Log.handings (p.seen w s) = s.called?.toList := by
  cases s with
  | busy k point =>
    cases point with
    | reading key =>
      show Log.handings (if (w.latest.get? key).isNone then [.unclaimed key] else []) = []
      split <;> rfl
    | _ => rfl
  | _ => rfl

theorem recordings_seen (s : Stage Text τ Point) (w : PodWork σ) :
    Log.recordings (p.seen w s) = [] :=
  List.filterMap_eq_nil_iff.mpr (recorded?_seen p s w)

variable [Add τ] [Zero τ] [LE τ] [DecidableLE τ] [LT τ] [DecidableLT τ]

/-- The world is changed by handlers, and by those who are told of dropped pods. -/
theorem world_move {s : Stage Text τ Point} (hs : ∀ key cause, s ≠ .reporting key cause)
    (w : Control τ σ) :
    (s.move p.routine w).2.subject.world =
      s.called?.elim w.subject.world fun r =>
        (p.registry.handle (.change r.change) w.subject.world).1 := by
  rw [subject_move]
  cases s with
  | busy k point =>
    cases point with
    | retiring r => exact w.subject.world_retire r
    | _ => rfl
  | reporting key cause => exact absurd rfl (hs key cause)
  | _ => rfl

end Calls

namespace Log

theorem recordings_append (log log' : List Occurrence) :
    recordings (log ++ log') = recordings log ++ recordings log' :=
  List.filterMap_append ..

theorem handings_append (log log' : List Occurrence) :
    handings (log ++ log') = handings log ++ handings log' :=
  List.filterMap_append ..

/-- What is listed of the pod that an occurrence is about may be listed of one pod or sorted out later. -/
theorem filterMap_filter_key {f : Occurrence → Option Recorded}
    (hf : ∀ o r, f o = some r → r.change.key = o.key) (log : List Occurrence) (key : Text) :
    (log.filter fun o => o.key = key).filterMap f =
      (log.filterMap f).filter fun r => r.change.key = key := by
  induction log with
  | nil => rfl
  | cons o log ih =>
    cases ho : f o with
    | none =>
      rw [List.filterMap_cons_none ho, ← ih]
      by_cases hk : o.key = key
      · rw [List.filter_cons_of_pos (by simpa using hk), List.filterMap_cons_none ho]
      · rw [List.filter_cons_of_neg (by simpa using hk)]
    | some r =>
      rw [List.filterMap_cons_some ho]
      by_cases hk : o.key = key
      · rw [List.filter_cons_of_pos (by simpa using hk), List.filterMap_cons_some ho, ih,
          List.filter_cons_of_pos (by simpa [hf o r ho] using hk)]
      · rw [List.filter_cons_of_neg (by simpa using hk), ih,
          List.filter_cons_of_neg (by simpa [hf o r ho] using hk)]

theorem recordings_filter (log : List Occurrence) (key : Text) :
    recordings (log.filter fun o => o.key = key) =
      (recordings log).filter fun r => r.change.key = key := by
  refine filterMap_filter_key (fun o r h => ?_) log key
  cases o with
  | recorded s => exact Option.some.inj h ▸ rfl
  | _ => exact nomatch h

theorem handings_filter (log : List Occurrence) (key : Text) :
    handings (log.filter fun o => o.key = key) =
      (handings log).filter fun r => r.change.key = key := by
  refine filterMap_filter_key (fun o r h => ?_) log key
  cases o with
  | handed s outcome => exact Option.some.inj h ▸ rfl
  | _ => exact nomatch h

end Log

namespace Traffic

variable {τ σ : Type}

/-- The changes that were recorded, in order. -/
def recordedChanges (t : Traffic τ σ) : List PodChange := (Log.recordings t.history).map (·.change)

/-- The changes that were handed to the handlers, in order. -/
def handedChanges (t : Traffic τ σ) : List PodChange := (Log.handings t.history).map (·.change)

/-- A worker who is to report a dropped pod has seen its last attempt fail. -/
theorem Tidy.exists_failed_of_reporting {t : Traffic τ σ} (h : Tidy t) {worker : Nat} {key : Text}
    {cause : Failure} (hs : t.crew.stage worker = .reporting key cause) :
    ∃ r, .handed r (some cause) ∈ t.history := by
  have hw : t.crew.Has worker key := by rw [Crew.Has, hs]; rfl
  obtain ⟨holder, hh, ht⟩ := h.tended key
  obtain rfl := h.staffed.eq_of_holder hw hh
  have hstand := ht.standing
  rw [hs] at hstand
  obtain ⟨r, after, hsince, -⟩ := hstand
  exact ⟨r, (mem_log.mp hsince.mem).1⟩

/-- Only what was recorded is handed on. -/
theorem Tidy.handedChanges_subset {t : Traffic τ σ} (h : Tidy t) : t.handedChanges ⊆ t.recordedChanges := by
  intro c hc
  obtain ⟨r, hr, rfl⟩ := List.mem_map.mp hc
  obtain ⟨_, -, ht⟩ := h.tended r.change.key
  have hlog : r ∈ Log.handings (t.log r.change.key) := by
    rw [log, Log.handings_filter]
    exact List.mem_filter.mpr ⟨hr, decide_eq_true rfl⟩
  have hrec := ht.handed_recorded r hlog
  rw [log, Log.recordings_filter] at hrec
  exact List.mem_map_of_mem (List.mem_of_mem_filter hrec)

/-- At rest, if all calls returned, the last change that was handed on for a pod is the last that was
recorded for it. -/
theorem Tidy.lastOf_handedChanges {t : Traffic τ σ} (h : Tidy t) (hr : t.AtRest)
    (hs : t.queue.shuttingDown = false) (hf : ∀ r cause, .handed r (some cause) ∉ t.history)
    (key : Text) :
    PodChange.lastOf t.handedChanges key = PodChange.lastOf t.recordedChanges key := by
  have hlast : ∀ rs : List Recorded, PodChange.lastOf (rs.map (·.change)) key =
      ((rs.filter fun r => r.change.key = key).getLast?).map (·.change) := fun rs => by
    rw [PodChange.lastOf, List.filter_map, List.getLast?_map]
    rfl
  obtain ⟨_, -, ht⟩ := h.tended key
  have hnewest := ht.getLast?_handings (h.settled_of_atRest hr hs key)
    fun r cause hm => hf r cause (mem_log.mp hm).1
  rw [handedChanges, recordedChanges, hlast, hlast, ← Log.handings_filter, ← Log.recordings_filter]
  exact congrArg _ hnewest

variable [Add τ] [Sub τ] [Zero τ] [LE τ] [DecidableLE τ] [LT τ] [DecidableLT τ]

theorem run_snoc (p : Procedure σ) (t : Traffic τ σ) (happenings : List (Happening τ))
    (happening : Happening τ) :
    t.run p (happenings ++ [happening]) = (t.run p happenings).step p happening :=
  List.foldl_concat ..

/-- What was seen is not taken back. -/
theorem mem_history_step (p : Procedure σ) {t : Traffic τ σ} {o : Occurrence} (h : o ∈ t.history)
    (happening : Happening τ) : o ∈ (t.step p happening).history := by
  cases happening with
  | record change => exact List.mem_append_left _ h
  | move worker => exact List.mem_append_left _ h
  | add key =>
    show o ∈ (if key ∈ t.underway then _ else t).history
    split <;> exact h
  | _ => exact h

theorem recordedChanges_step (p : Procedure σ) (t : Traffic τ σ) (happening : Happening τ) :
    (t.step p happening).recordedChanges = t.recordedChanges ++ happening.enqueued?.toList := by
  cases happening with
  | record change =>
    show (Log.recordings (t.history ++ [.recorded _])).map _ = _
    rw [Log.recordings_snoc, List.map_append]
    rfl
  | move worker =>
    show (Log.recordings (t.history ++ p.seen _ _)).map _ = _ ++ []
    rw [Log.recordings_append, recordings_seen, List.append_nil, List.append_nil]
    rfl
  | add key =>
    show (Log.recordings (if key ∈ t.underway then _ else t).history).map _ = _
    split <;> exact (List.append_nil _).symm
  | _ => exact (List.append_nil _).symm

/-- The change that is handed on by a happening. -/
def called? (t : Traffic τ σ) : Happening τ → Option Recorded
  | .move worker => (t.crew.stage worker).called?
  | _ => none

theorem handedChanges_step (p : Procedure σ) (t : Traffic τ σ) (happening : Happening τ) :
    (t.step p happening).handedChanges =
      t.handedChanges ++ ((t.called? happening).map (·.change)).toList := by
  cases happening with
  | record change =>
    show (Log.handings (t.history ++ [.recorded _])).map _ = _ ++ []
    rw [Log.handings_append, List.append_nil]
    exact congrArg _ (List.append_nil _)
  | move worker =>
    show (Log.handings (t.history ++ p.seen _ _)).map _ = _ ++ (Option.map _ (Stage.called? _)).toList
    rw [Log.handings_append, handings_seen, List.map_append]
    cases (t.crew.stage worker).called? <;> rfl
  | add key =>
    show (Log.handings (if key ∈ t.underway then _ else t).history).map _ = _
    split <;> exact (List.append_nil _).symm
  | _ => exact (List.append_nil _).symm

/-- What was recorded is what was enqueued. -/
theorem recordedChanges_run (p : Procedure σ) (base limit now : τ) (world : σ)
    (happenings : List (Happening τ)) :
    ((new base limit now world).run p happenings).recordedChanges =
      happenings.filterMap Happening.enqueued? := by
  induction happenings using List.reverseRecOn with
  | nil => rfl
  | append_singleton happenings happening ih =>
    rw [run_snoc, recordedChanges_step, ih, List.filterMap_append]
    cases h : happening.enqueued? <;> simp [h]

/-- While no call fails, the world is changed by the change that is handed on, and by nothing else. -/
theorem world_step (p : Procedure σ) {t : Traffic τ σ} (h : Tidy t)
    (hf : ∀ r cause, .handed r (some cause) ∉ t.history) (happening : Happening τ) :
    (t.step p happening).place.world =
      (t.called? happening).elim t.place.world fun r =>
        (p.registry.handle (.change r.change) t.place.world).1 := by
  cases happening with
  | add key =>
    show Control.world (place (if key ∈ t.underway then _ else t)) = t.place.world
    split <;> rfl
  | look worker deadline =>
    show Control.world (t.crew.look p.routine worker deadline).place = t.place.world
    rcases Crew.look_cases p.routine worker deadline t.crew with hl | ⟨-, key, queue, -, hl⟩ | hl
    all_goals
      rw [hl]
      rfl
  | move worker =>
    -- nobody is told of a dropped pod, because no attempt has failed
    have hquiet : ∀ key cause, t.crew.stage worker ≠ .reporting key cause := fun key cause hk => by
      obtain ⟨r, hr⟩ := h.exists_failed_of_reporting hk
      exact hf r cause hr
    exact world_move p hquiet t.place
  | _ => rfl

/-! ## The store in the course of a run -/

variable (publication : Publication) (lookup : Text → Text → Lookup)

/-- The tracker that the workers feed. -/
def store (t : Traffic τ Tracking) : UsageStore := t.place.world.store

/-- How pods are counted: by one handler of some name. -/
def counting [Nesting] (name : Text) (maxRetries : Int) (onDrop : Drop Text → Tracking → Tracking) :
    Procedure Tracking :=
  ⟨Tracking.registry publication lookup name, maxRetries, onDrop⟩

variable (name : Text) (maxRetries : Int) (onDrop : Drop Text → Tracking → Tracking)

theorem store_step [Nesting] {t : Traffic τ Tracking} (h : Tidy t)
    (hf : ∀ r cause, .handed r (some cause) ∉ t.history)
    (hs : t.store = UsageStore.replay publication lookup t.handedChanges) (happening : Happening τ) :
    (t.step (counting publication lookup name maxRetries onDrop) happening).store =
      UsageStore.replay publication lookup
        (t.step (counting publication lookup name maxRetries onDrop) happening).handedChanges := by
  rw [handedChanges_step, store, world_step _ h hf]
  cases t.called? happening with
  | none =>
    rw [Option.map_none, Option.toList_none, List.append_nil]
    exact hs
  | some r =>
    rw [Option.map_some, Option.toList_some, UsageStore.replay_snoc, ← hs]
    exact Tracking.store_handle publication lookup name r.change t.place.world

theorem store_run [Nesting] (base limit now : τ) (happenings : List (Happening τ))
    (hf : ∀ r cause, .handed r (some cause) ∉
      ((new base limit now Tracking.new).run
        (counting publication lookup name maxRetries onDrop) happenings).history) :
    ((new base limit now Tracking.new).run
        (counting publication lookup name maxRetries onDrop) happenings).store =
      UsageStore.replay publication lookup
        ((new base limit now Tracking.new).run
          (counting publication lookup name maxRetries onDrop) happenings).handedChanges := by
  induction happenings using List.reverseRecOn with
  | nil => rfl
  | append_singleton happenings happening ih =>
    rw [run_snoc] at hf ⊢
    have hf' : ∀ r cause, .handed r (some cause) ∉
        ((new base limit now Tracking.new).run
          (counting publication lookup name maxRetries onDrop) happenings).history := by
      intro r cause hm
      exact hf r cause (mem_history_step _ hm happening)
    exact store_step publication lookup name maxRetries onDrop (tidy_run _ base limit now _ happenings)
      hf' (ih hf') happening

/-- **Coalescing is invisible.**  However enqueues and workers are interleaved, with one handler that counts
and answers of the cluster that do not change: when all is at rest, the queue was not shut down and no call
failed, the tracker remembers what it remembers after all changes were handed to it directly, in the order in
which they were enqueued; and if none of their types holds a comma, all totals are the same as well. -/
theorem coalescing_invisible [Nesting] (base limit now : τ) (happenings : List (Happening τ)) :
    let t := (new base limit now Tracking.new).run
      (counting publication lookup name maxRetries onDrop) happenings
    let changes := happenings.filterMap Happening.enqueued?
    let direct := UsageStore.replay publication lookup changes
    (∀ r cause, .handed r (some cause) ∉ t.history) → t.AtRest → t.queue.shuttingDown = false →
      (∀ k, t.store.remembered k = direct.remembered k) ∧
      ((∀ c ∈ changes, c.Plain lookup) → ∀ l, t.store.total l = direct.total l) := by
  intro t changes direct hf hr hs
  have h : Tidy t := tidy_run _ base limit now _ happenings
  have hstore : t.store = UsageStore.replay publication lookup t.handedChanges :=
    store_run publication lookup name maxRetries onDrop base limit now happenings hf
  have hrecorded : t.recordedChanges = changes := recordedChanges_run _ base limit now _ happenings
  have hlast : ∀ k, PodChange.lastOf t.handedChanges k = PodChange.lastOf changes k := by
    rw [← hrecorded]
    exact h.lastOf_handedChanges hr hs hf
  obtain ⟨hremembered, htotal⟩ := UsageStore.replay_congr publication lookup hlast
  rw [hstore]
  refine ⟨hremembered, fun hplain => htotal fun c hc => hplain c ?_⟩
  rcases List.mem_append.mp hc with hc | hc
  · rw [← hrecorded]
    exact h.handedChanges_subset hc
  · exact hc

/-- One pod comes and goes, another one comes, and two workers are busy with them: the tracker ends as if it
had been told directly. -/
theorem coalescing_invisible_for_two_pods :
    let lookup : Text → Text → Lookup := fun name ns => .found ⟨name, ns, "\x7b\"type\": \"bridge\"\x7d"⟩
    let comes : PodChange := ⟨"a", .create, some "net", "ns"⟩
    let goes : PodChange := ⟨"a", .delete, none, "ns"⟩
    let other : PodChange := ⟨"b", .create, some "net", "ns"⟩
    let happenings : List (Happening Nat) :=
      [.record comes, .add "a", .look 0 none, .move 0, .record goes, .move 0, .add "a", .record other,
        .move 0, .move 0, .move 0, .look 1 none, .add "b", .look 0 none, .move 1, .move 0, .move 1,
        .move 1, .move 0, .move 0, .move 0, .move 0, .move 1, .move 1]
    let t := (new 1 10 0 Tracking.new).run (counting ⟨true, none⟩ lookup "usage" 5 fun _ w => w) happenings
    let direct := UsageStore.replay ⟨true, none⟩ lookup [comes, goes, other]
    t.AtRest ∧ (∀ k, t.store.remembered k = direct.remembered k) ∧
      (∀ l, t.store.total l = direct.total l) ∧ direct.total "bridge" = 1 := by
  intro lookup comes goes other happenings t direct
  have hr : t.AtRest := (tidy_run _ 1 10 0 Tracking.new happenings).atRest_iff.mpr (by decide +kernel)
  have hs : t.queue.shuttingDown = false := by decide +kernel
  have hf : ∀ r cause, .handed r (some cause) ∉ t.history := by
    have hhistory : t.history = [.recorded ⟨0, comes⟩, .recorded ⟨1, goes⟩, .handed ⟨0, comes⟩ none,
        .recorded ⟨2, other⟩, .handed ⟨1, goes⟩ none, .handed ⟨2, other⟩ none] := by decide +kernel
    intro r cause hm
    rw [hhistory] at hm
    simp at hm
  obtain ⟨hremembered, htotal⟩ :=
    coalescing_invisible ⟨true, none⟩ lookup "usage" 5 (fun _ w => w) 1 10 0 happenings hf hr hs
  refine ⟨hr, hremembered, htotal fun c hc hkept types ht => ?_, by decide +kernel⟩
  have htypes : UsageTracker.resolved lookup "net" "ns" = .ok ["bridge"] := by decide +kernel
  have hmem : c ∈ [comes, goes, other] := hc
  have hc : c = comes ∨ c = goes ∨ c = other := by
    simpa only [List.mem_cons, List.not_mem_nil, or_false] using hmem
  rcases hc with rfl | rfl | rfl
  · obtain rfl : [("bridge" : Text)] = types := Except.ok.inj (htypes.symm.trans ht)
    decide
  · exact absurd hkept (by decide)
  · obtain rfl : [("bridge" : Text)] = types := Except.ok.inj (htypes.symm.trans ht)
    decide

end Traffic

end NetAttach
