/-
  Pods that do not disturb each other.

  The calls for a pod look at nothing but what is remembered of this pod, and of no other pod do they remember or
  forget anything.  The totals they share with the calls for other pods, but to these they only add, without
  looking.  So what a task for one pod will have done in the end is known from what is remembered of the pod now
  (`UsageTask.effect`), and no step of another worker changes it.

  Structure:
  1. `UsageTask.Concerns`: a task is about one pod; so are all calls for the pod (`concerns_tasks`);
  2. `UsageEffect.Leaves`: a part of an effect is done and the rest is left; so it is by the first operation of
     a task about one pod (`Concerns.step`), and by all of them nothing is left (`Concerns.run`);
  3. `UsageTeam.Heading`: where a team of workers will end, whose tasks are about different pods; kept by every
     step (`Heading.step`);
  4. one pod after another ends in the same place (`afterCalls_inTurn`), so that any two ways to mix the calls
     of different pods come to the same (`eq_in_turn`).
-/
import NetAttach.Proofs.Usage.Team

namespace NetAttach

/-! ## Tasks about one pod -/

namespace UsageTask

variable {α β : Type}

/-- All that the task looks up, remembers or forgets is about the pod `key`. -/
def Concerns (key : Text) : UsageTask α → Prop
  | done _ | fail _ => True
  | remembered k next => k = key ∧ ∀ answer, Concerns key (next answer)
  | forget k next => k = key ∧ ∀ answer, Concerns key (next answer)
  | remember k _ next => k = key ∧ Concerns key next
  | adjust _ _ next => Concerns key next
  | request _ _ next => ∀ answer, Concerns key (next answer)

variable {key : Text}

theorem Concerns.bind {t : UsageTask α} (h : t.Concerns key) {f : α → UsageTask β}
    (hf : ∀ a, (f a).Concerns key) : (t.bind f).Concerns key := by
  induction t with
  | done a => exact hf a
  | fail e => trivial
  | remembered k next ih => exact ⟨h.1, fun answer => ih answer (h.2 answer)⟩
  | forget k next ih => exact ⟨h.1, fun answer => ih answer (h.2 answer)⟩
  | remember k combination next ih => exact ⟨h.1, ih h.2⟩
  | adjust label delta next ih => exact ih h
  | request name ns next ih => exact fun answer => ih answer (h answer)

theorem Concerns.followedBy {t : UsageTask α} (h : t.Concerns key) {after : UsageTask β}
    (hafter : after.Concerns key) : (t.followedBy after).Concerns key := by
  induction t with
  | done a => exact hafter
  | fail e => exact hafter
  | remembered k next ih => exact ⟨h.1, fun answer => ih answer (h.2 answer)⟩
  | forget k next ih => exact ⟨h.1, fun answer => ih answer (h.2 answer)⟩
  | remember k combination next ih => exact ⟨h.1, ih h.2⟩
  | adjust label delta next ih => exact ih h
  | request name ns next ih => exact fun answer => ih answer (h answer)

theorem Concerns.adjustAll {next : UsageTask α} (h : next.Concerns key) (labels : List Text) (delta : Int) :
    (adjustAll labels delta next).Concerns key := by
  induction labels with
  | nil => exact h
  | cons label rest ih => exact ih

end UsageTask

namespace UsageTracker

theorem concerns_collect [Nesting] (key : Text) (types : List Text) (references : List Reference) :
    (collect types references).Concerns key := by
  induction references generalizing types with
  | nil => trivial
  | cons r rest ih =>
    intro answer
    simp only
    cases contribution answer with
    | ok more => exact ih (Text.distinctInOrder (types ++ more))
    | error f => trivial

/-- Looking up attachments is about no pod in particular. -/
theorem concerns_resolve [Nesting] (key selection ns : Text) : (resolve selection ns).Concerns key := by
  unfold resolve
  cases Selection.parse selection ns with
  | ok references => exact concerns_collect key [] references
  | error e =>
    simp only
    cases e.reason <;> trivial

theorem concerns_delete (key : Text) : (delete key).Concerns key := by
  refine ⟨rfl, fun answer => ?_⟩
  cases answer with
  | none => trivial
  | some combination =>
    have hdone : (UsageTask.done ()).Concerns key := trivial
    exact hdone.adjustAll (labels (separate combination) combination) (-1)

theorem concerns_count [Nesting] (key selection ns : Text) : (count key selection ns).Concerns key := by
  refine (concerns_resolve key selection ns).bind fun types => ?_
  have hremember : (UsageTask.remember key (combine types) (.done (combine types))).Concerns key :=
    ⟨rfl, trivial⟩
  exact hremember.adjustAll (labels types (combine types)) 1

theorem concerns_add [Nesting] (key selection ns : Text) : (add key selection ns).Concerns key := by
  refine ⟨rfl, fun answer => ?_⟩
  cases answer with
  | none => exact concerns_count key selection ns
  | some combination => exact (concerns_delete key).bind fun _ => concerns_count key selection ns

end UsageTracker

/-- A call for a pod whose key is given elsewhere. -/
inductive PodCall where
  | add (selection ns : Text)
  | delete

/-- The call for the pod `key`. -/
def PodCall.on (key : Text) : PodCall → UsageCall
  | add selection ns => .add key selection ns
  | delete => .delete key

/-- All calls for the pod `key`, one after another. -/
def PodCall.tasks [Nesting] (p : Publication) (key : Text) (calls : List PodCall) : UsageTask Unit :=
  UsageCall.tasks p (calls.map (on key))

theorem PodCall.concerns_tasks [Nesting] (p : Publication) (key : Text) (calls : List PodCall) :
    (PodCall.tasks p key calls).Concerns key := by
  induction calls with
  | nil => trivial
  | cons call rest ih =>
    refine UsageTask.Concerns.followedBy ?_ ih
    cases call with
    | add selection ns => exact (UsageTracker.concerns_add key selection ns).bind fun _ => trivial
    | delete => exact UsageTracker.concerns_delete key

/-! ## What a task about one pod does -/

/-- What is remembered of a pod in the end, and by how much the total of each label has changed. -/
structure UsageEffect where
  kept : Option Text
  gain : Text → Int

namespace UsageEffect

/-- Nothing more is done, and `c` is remembered. -/
def idle (c : Option Text) : UsageEffect := ⟨c, fun _ => 0⟩

/-- From one store to another a part of what was to be done for the pod `key` has been done, and `rest` is left:
done and left together are the whole, and of other pods the same is remembered. -/
structure Leaves (whole rest : UsageEffect) (key : Text) (s after : UsageStore) : Prop where
  kept : rest.kept = whole.kept
  others : ∀ k, k ≠ key → after.remembered k = s.remembered k
  gain : ∀ l, after.total l + rest.gain l = s.total l + whole.gain l

theorem Leaves.trans {whole part rest : UsageEffect} {key : Text} {s between after : UsageStore}
    (h : Leaves whole part key s between) (hpart : Leaves part rest key between after) :
    Leaves whole rest key s after where
  kept := hpart.kept.trans h.kept
  others k hk := (hpart.others k hk).trans (h.others k hk)
  gain l := (hpart.gain l).trans (h.gain l)

/-- The pod is looked at, or something is asked for. -/
theorem leaves_self (e : UsageEffect) (key : Text) (s : UsageStore) : Leaves e e key s s :=
  ⟨rfl, fun _ _ => rfl, fun _ => rfl⟩

theorem leaves_forget (e : UsageEffect) (key : Text) (s : UsageStore) : Leaves e e key s (s.forget key) where
  kept := rfl
  others k hk := by rw [UsageStore.remembered_forget, if_neg hk]
  gain _ := rfl

theorem leaves_remember (e : UsageEffect) (key combination : Text) (s : UsageStore) :
    Leaves e e key s (s.remember key combination) where
  kept := rfl
  others k hk := by rw [UsageStore.remembered_remember, if_neg hk]
  gain _ := rfl

theorem leaves_adjust (e : UsageEffect) (key label : Text) (delta : Int) (s : UsageStore) :
    Leaves ⟨e.kept, fun l => (if l = label then delta else 0) + e.gain l⟩ e key s (s.adjust label delta) where
  kept := rfl
  others _ _ := rfl
  gain l := by rw [UsageStore.total_adjust, Int.add_assoc]

end UsageEffect

namespace UsageTask

variable {α : Type} {key : Text}

/-- What a task about one pod does, if `c` is remembered of the pod now. -/
def effect (lookup : Text → Text → Lookup) : UsageTask α → Option Text → UsageEffect
  | done _, c | fail _, c => .idle c
  | remembered _ next, c => effect lookup (next c) c
  | forget _ next, c => effect lookup (next c) none
  | remember _ combination next, _ => effect lookup next (some combination)
  | adjust label delta next, c =>
    let e := effect lookup next c
    ⟨e.kept, fun l => (if l = label then delta else 0) + e.gain l⟩
  | request name ns next, c => effect lookup (next (lookup name ns)) c

theorem effect_of_isOver {t : UsageTask α} (h : t.isOver) (lookup : Text → Text → Lookup)
    (c : Option Text) : t.effect lookup c = .idle c := by
  cases t with
  | done a => rfl
  | fail e => rfl
  | _ => exact nomatch h

/-- The first operation of a task about one pod, one case for each kind of operation. -/
theorem Concerns.step {t : UsageTask α} (h : t.Concerns key) (p : Publication)
    (lookup : Text → Text → Lookup) (s : UsageStore) :
    let (rest, after, _) := t.step p lookup s
    rest.Concerns key ∧
      (t.effect lookup (s.remembered key)).Leaves (rest.effect lookup (after.remembered key)) key s after := by
  cases t with
  | done a => exact ⟨h, UsageEffect.leaves_self _ key s⟩
  | fail e => exact ⟨h, UsageEffect.leaves_self _ key s⟩
  | remembered k next =>
    obtain ⟨rfl, hnext⟩ := h
    exact ⟨hnext _, UsageEffect.leaves_self _ k s⟩
  | forget k next =>
    obtain ⟨rfl, hnext⟩ := h
    refine ⟨hnext _, ?_⟩
    show UsageEffect.Leaves _ (effect lookup (next (s.remembered k)) ((s.forget k).remembered k)) k s _
    rw [UsageStore.remembered_forget, if_pos rfl]
    exact UsageEffect.leaves_forget _ k s
  | remember k combination next =>
    obtain ⟨rfl, hnext⟩ := h
    refine ⟨hnext, ?_⟩
    show UsageEffect.Leaves _ (effect lookup next ((s.remember k combination).remembered k)) k s _
    rw [UsageStore.remembered_remember, if_pos rfl]
    exact UsageEffect.leaves_remember _ k combination s
  | adjust label delta next => exact ⟨h, UsageEffect.leaves_adjust _ key label delta s⟩
  | request name ns next => exact ⟨h _, UsageEffect.leaves_self _ key s⟩

/-- All operations of a task about one pod, when nobody comes between: nothing is left. -/
theorem Concerns.run {t : UsageTask α} (h : t.Concerns key) (p : Publication)
    (lookup : Text → Text → Lookup) (s : UsageStore) :
    let after := (t.run p lookup s).store
    (t.effect lookup (s.remembered key)).Leaves (.idle (after.remembered key)) key s after := by
  induction t generalizing s with
  | done a => exact UsageEffect.leaves_self _ key s
  | fail e => exact UsageEffect.leaves_self _ key s
  | remembered k next ih =>
    obtain ⟨hnext, hstep⟩ := h.step p lookup s
    exact hstep.trans (ih _ hnext s)
  | forget k next ih =>
    obtain ⟨hnext, hstep⟩ := h.step p lookup s
    exact hstep.trans (ih _ hnext (s.forget k))
  | remember k combination next ih =>
    obtain ⟨hnext, hstep⟩ := h.step p lookup s
    exact hstep.trans (ih hnext (s.remember k combination))
  | adjust label delta next ih =>
    obtain ⟨hnext, hstep⟩ := h.step p lookup s
    exact hstep.trans (ih hnext (s.adjust label delta))
  | request name ns next ih =>
    obtain ⟨hnext, hstep⟩ := h.step p lookup s
    exact hstep.trans (ih _ hnext s)

end UsageTask

/-! ## Where a team will end -/

namespace UsageTeam

variable (p : Publication) (lookup : Text → Text → Lookup)

/-- What the rest of the task about the pod `key` will do. -/
def promise (t : UsageTeam Text) (key : Text) : UsageEffect :=
  (t.task key).effect lookup (t.store.remembered key)

/-- Each worker has a task about a pod of its own, and only those in `busy` have something to do.  When all tasks
are done, `kept` is remembered, and the totals are `sums`. -/
structure Heading (busy : Finset Text) (kept : Text → Option Text) (sums : Text → Int)
    (t : UsageTeam Text) : Prop where
  concerns : ∀ key, (t.task key).Concerns key
  idle : ∀ key, key ∉ busy → (t.task key).isOver
  kept : ∀ key, (t.promise lookup key).kept = kept key
  sums : ∀ l, t.store.total l + ∑ key ∈ busy, (t.promise lookup key).gain l = sums l

variable {lookup} {busy : Finset Text} {kept : Text → Option Text} {sums : Text → Int}

theorem step_of_isOver {t : UsageTeam Text} {worker : Text} (h : (t.task worker).isOver) :
    t.step p lookup worker = t := by
  unfold step
  rw [UsageTask.step_of_isOver h]
  simp

/-- A step of one worker changes no promise but its own. -/
theorem Heading.promise_step {t : UsageTeam Text} (h : Heading lookup busy kept sums t) {worker key : Text}
    (hkey : key ≠ worker) : (t.step p lookup worker).promise lookup key = t.promise lookup key := by
  obtain ⟨-, hstep⟩ := (h.concerns worker).step p lookup t.store
  have htask : (t.step p lookup worker).task key = t.task key := task_step_of_ne p lookup t hkey
  have hremembered : (t.step p lookup worker).store.remembered key = t.store.remembered key :=
    hstep.others key hkey
  rw [promise, promise, htask, hremembered]

/-- One worker does the next operation of its task. -/
theorem Heading.step {t : UsageTeam Text} (h : Heading lookup busy kept sums t) (worker : Text) :
    Heading lookup busy kept sums (t.step p lookup worker) := by
  by_cases hworker : worker ∈ busy
  case neg =>
    rw [step_of_isOver p (h.idle worker hworker)]
    exact h
  obtain ⟨hrest, hstep⟩ := (h.concerns worker).step p lookup t.store
  have hself : (t.step p lookup worker).task worker = ((t.task worker).step p lookup t.store).1 :=
    task_step_self p lookup t worker
  refine ⟨fun key => ?_, fun key hkey => ?_, fun key => ?_, fun l => ?_⟩
  · by_cases hk : key = worker
    · rw [hk, hself]
      exact hrest
    · rw [task_step_of_ne p lookup t hk]
      exact h.concerns key
  · have hk : key ≠ worker := fun hk => hkey (hk ▸ hworker)
    rw [task_step_of_ne p lookup t hk]
    exact h.idle key hkey
  · by_cases hk : key = worker
    · rw [hk, promise, hself, ← h.kept worker]
      exact hstep.kept
    · rw [h.promise_step p hk]
      exact h.kept key
  · -- the worker has done what its promise has lost, and the other promises are as before
    have hsame : ∑ key ∈ busy.erase worker, ((t.step p lookup worker).promise lookup key).gain l =
        ∑ key ∈ busy.erase worker, (t.promise lookup key).gain l := by
      refine Finset.sum_congr rfl fun key hkey => ?_
      rw [h.promise_step p (Finset.ne_of_mem_erase hkey)]
    have hdone : (t.step p lookup worker).store.total l +
          ((t.step p lookup worker).promise lookup worker).gain l =
        t.store.total l + (t.promise lookup worker).gain l := by
      rw [promise, hself]
      exact hstep.gain l
    have hsums := h.sums l
    rw [← Finset.add_sum_erase _ _ hworker] at hsums
    rw [← Finset.add_sum_erase _ _ hworker, hsame]
    omega

/-- All steps, by induction on the schedule. -/
theorem Heading.run {t : UsageTeam Text} (h : Heading lookup busy kept sums t) (schedule : List Text) :
    Heading lookup busy kept sums (t.run p (schedule.map fun worker => (worker, lookup))) := by
  induction schedule generalizing t with
  | nil => exact h
  | cons worker rest ih => exact ih (h.step p worker)

/-- A team that has nothing left to do has come to its end. -/
theorem Heading.arrived {t : UsageTeam Text} (h : Heading lookup busy kept sums t)
    (hover : ∀ key, (t.task key).isOver) :
    (∀ key, t.store.remembered key = kept key) ∧ ∀ l, t.store.total l = sums l := by
  have hpromise : ∀ key, t.promise lookup key = .idle (t.store.remembered key) := fun key =>
    UsageTask.effect_of_isOver (hover key) lookup _
  refine ⟨fun key => ?_, fun l => ?_⟩
  · rw [← h.kept key, hpromise]
    rfl
  · rw [← h.sums l, Finset.sum_eq_zero fun key _ => ?_, Int.add_zero]
    rw [hpromise]
    rfl

end UsageTeam

/-! ## One pod after another -/

namespace PodCall

variable (p : Publication) (lookup : Text → Text → Lookup)

/-- The calls for pods, one pod after another. -/
def inTurn (calls : Text → List PodCall) (order : List Text) : List AnsweredCall :=
  order.flatMap fun key => (calls key).map fun call => ⟨call.on key, lookup⟩

/-- What the calls for the pod `key` do, if `c` is remembered of it. -/
def effect [Nesting] (calls : Text → List PodCall) (key : Text) (c : Option Text) : UsageEffect :=
  (PodCall.tasks p key (calls key)).effect lookup c

theorem afterCalls_eq_run [Nesting] (s : UsageStore) (key : Text) (calls : List PodCall) :
    s.afterCalls p (calls.map fun call => ⟨call.on key, lookup⟩) =
      ((PodCall.tasks p key calls).run p lookup s).store := by
  rw [PodCall.tasks, UsageCall.store_run_tasks, List.map_map]
  rfl

/-- All pods, by induction on their order; what is remembered of a pod when it is its turn is what was in the
beginning. -/
theorem afterCalls_inTurn [Nesting] (s : UsageStore) (calls : Text → List PodCall) {order : List Text}
    (hdistinct : order.Nodup) :
    (∀ key ∈ order, (s.afterCalls p (inTurn lookup calls order)).remembered key =
      (effect p lookup calls key (s.remembered key)).kept) ∧
    (∀ key, key ∉ order →
      (s.afterCalls p (inTurn lookup calls order)).remembered key = s.remembered key) ∧
    ∀ l, (s.afterCalls p (inTurn lookup calls order)).total l =
      s.total l + (order.map fun key => (effect p lookup calls key (s.remembered key)).gain l).sum := by
  induction order generalizing s with
  | nil => exact ⟨fun _ h => (nomatch h), fun _ _ => rfl, fun _ => (Int.add_zero _).symm⟩
  | cons first rest ih =>
    obtain ⟨hnot, hrest⟩ := List.nodup_cons.mp hdistinct
    let s' := ((PodCall.tasks p first (calls first)).run p lookup s).store
    have hafter : s.afterCalls p (inTurn lookup calls (first :: rest)) =
        s'.afterCalls p (inTurn lookup calls rest) := by
      rw [inTurn, List.flatMap_cons, UsageStore.afterCalls_append, afterCalls_eq_run]
      rfl
    have hrun := (concerns_tasks p first (calls first)).run p lookup s
    obtain ⟨ihmem, ihnot, ihtotal⟩ := ih s' hrest
    have hne : ∀ key ∈ rest, key ≠ first := fun key hkey hk => hnot (hk ▸ hkey)
    have hsame : ∀ key ∈ rest, s'.remembered key = s.remembered key := fun key hkey =>
      hrun.others key (hne key hkey)
    rw [hafter]
    refine ⟨fun key hkey => ?_, fun key hkey => ?_, fun l => ?_⟩
    · rcases List.mem_cons.mp hkey with rfl | hkey
      · exact (ihnot key hnot).trans hrun.kept
      · rw [ihmem key hkey, hsame key hkey]
    · rw [ihnot key fun hmem => hkey (List.mem_cons_of_mem first hmem)]
      exact hrun.others key fun hk => hkey (hk ▸ List.mem_cons_self)
    · have hgains : (rest.map fun key => (effect p lookup calls key (s'.remembered key)).gain l) =
          rest.map fun key => (effect p lookup calls key (s.remembered key)).gain l :=
        List.map_congr_left fun key hkey => by rw [hsame key hkey]
      have hfirst : s'.total l = s.total l + (effect p lookup calls first (s.remembered first)).gain l :=
        (Int.add_zero _).symm.trans (hrun.gain l)
      rw [ihtotal l, hgains, hfirst, List.map_cons, List.sum_cons, Int.add_assoc]

end PodCall

/-! ## Any mixture comes to the same -/

namespace UsageTeam

variable (p : Publication) (lookup : Text → Text → Lookup)

/-- The workers come to a store, each with the calls for a pod of its own, and do one operation after another in
the order of the schedule. -/
def mix [Nesting] (s : UsageStore) (calls : Text → List PodCall) (schedule : List Text) : UsageTeam Text :=
  (start p s fun key => (calls key).map (PodCall.on key)).run p
    (schedule.map fun worker => (worker, lookup))

theorem heading_start [Nesting] (s : UsageStore) (calls : Text → List PodCall) {busy : Finset Text}
    (hbusy : ∀ key, key ∉ busy → calls key = []) :
    Heading lookup busy (fun key => (PodCall.effect p lookup calls key (s.remembered key)).kept)
      (fun l => s.total l + ∑ key ∈ busy, (PodCall.effect p lookup calls key (s.remembered key)).gain l)
      (start p s fun key => (calls key).map (PodCall.on key)) where
  concerns key := PodCall.concerns_tasks p key (calls key)
  idle key hkey := by
    show (UsageCall.tasks p ((calls key).map (PodCall.on key))).isOver
    rw [hbusy key hkey]
    rfl
  kept _ := rfl
  sums _ := rfl

/-- Whatever has been done, the rest can be done. -/
theorem exists_mix_isOver [Nesting] (s : UsageStore) (calls : Text → List PodCall) (schedule order : List Text) :
    ∃ more, ∀ key ∈ order, ((mix p lookup s calls (schedule ++ more)).task key).isOver := by
  obtain ⟨more, h⟩ := exists_run_isOver p lookup (mix p lookup s calls schedule) order
  refine ⟨more, fun key hkey => ?_⟩
  rw [mix, List.map_append, run_append]
  exact h key hkey

/-- **Different pods do not disturb each other.**  From any store, with each worker making any calls for a pod of
its own, and however their operations are mixed: all of them can be done, and when all are done, what is
remembered of every pod and the total of every label are as if the calls had been made one pod after another, in
any order. -/
theorem eq_in_turn [Nesting] (s : UsageStore) (calls : Text → List PodCall) (schedule order : List Text)
    (hdistinct : order.Nodup) (hall : ∀ key, key ∉ order → calls key = []) :
    let mixed := mix p lookup s calls schedule
    let inTurn := s.afterCalls p (PodCall.inTurn lookup calls order)
    (∃ more, ∀ key ∈ order, ((mix p lookup s calls (schedule ++ more)).task key).isOver) ∧
    ((∀ key ∈ order, (mixed.task key).isOver) →
      (∀ key, mixed.store.remembered key = inTurn.remembered key) ∧
      ∀ l, mixed.store.total l = inTurn.total l) := by
  intro mixed inTurn
  refine ⟨exists_mix_isOver p lookup s calls schedule order, fun hover => ?_⟩
  have hbusy : ∀ key, key ∉ order.toFinset → calls key = [] := fun key hkey =>
    hall key fun hmem => hkey (List.mem_toFinset.mpr hmem)
  have hheading : Heading lookup order.toFinset _ _ mixed :=
    (heading_start p lookup s calls hbusy).run p schedule
  obtain ⟨hkept, hsums⟩ := hheading.arrived fun key => by
    by_cases hkey : key ∈ order
    · exact hover key hkey
    · exact hheading.idle key fun hmem => hkey (List.mem_toFinset.mp hmem)
  obtain ⟨hmem, hnot, htotal⟩ := PodCall.afterCalls_inTurn p lookup s calls hdistinct
  refine ⟨fun key => ?_, fun l => ?_⟩
  · refine (hkept key).trans ?_
    by_cases hkey : key ∈ order
    · exact (hmem key hkey).symm
    · have heffect : PodCall.effect p lookup calls key (s.remembered key) = .idle (s.remembered key) := by
        rw [PodCall.effect, hall key hkey]
        rfl
      rw [heffect]
      exact (hnot key hkey).symm
  · refine (hsums l).trans ?_
    rw [List.sum_toFinset _ hdistinct]
    exact (htotal l).symm

/-- One pod is counted anew while another one is counted, deleted and counted again: the workers take turns, so
that the second pod is counted for `macvlan` while the first one is not. -/
theorem eq_in_turn_of_two_pods :
    let p : Publication := ⟨true, none⟩
    let lookup : Text → Text → Lookup := fun name ns => .found ⟨name, ns, "\x7b\"type\": \"macvlan\"\x7d"⟩
    let s := UsageStore.empty.afterCalls p [⟨.add "ns/a" "net" "ns", lookup⟩]
    let calls : Text → List PodCall := fun key =>
      if key = "ns/a" then [.add "net" "ns"]
      else if key = "ns/b" then [.add "net" "ns", .delete, .add "net" "ns"]
      else []
    let schedule : List Text := (List.replicate 15 ["ns/a", "ns/b"]).flatten
    let mixed := (mix p lookup s calls schedule).store
    let inTurn := s.afterCalls p (PodCall.inTurn lookup calls ["ns/b", "ns/a"])
    (∀ key, mixed.remembered key = inTurn.remembered key) ∧
    (∀ l, mixed.total l = inTurn.total l) ∧ mixed.total "macvlan" = 2 := by
  intro p lookup s calls schedule mixed inTurn
  have hdistinct : (["ns/b", "ns/a"] : List Text).Nodup := by decide +kernel
  have hall : ∀ key, key ∉ (["ns/b", "ns/a"] : List Text) → calls key = [] := by
    intro key hkey
    have hb : key ≠ "ns/b" := fun hk => hkey (hk ▸ List.mem_cons_self)
    have ha : key ≠ "ns/a" := fun hk => hkey (hk ▸ List.mem_cons_of_mem _ List.mem_cons_self)
    simp only [calls, if_neg ha, if_neg hb]
  obtain ⟨-, hdone⟩ := eq_in_turn p lookup s calls schedule ["ns/b", "ns/a"] hdistinct hall
  obtain ⟨hremembered, htotal⟩ := hdone (by decide +kernel)
  refine ⟨hremembered, htotal, ?_⟩
  rw [htotal]
  decide +kernel

end UsageTeam

end NetAttach
