/-
  Pods that are counted are known.

  An adapter is told what happens to pods, and now and then which pods there are; it answers with changes, and
  it remembers the keys that select networks.  Whoever applies the changes counts a key from its first change
  that is no removal until its next removal.  A `PodFeed` is an adapter together with the changes that it has
  reported so far, and so the keys that are counted are a function of the feed.

  Structure:
  1. the last change of a key decides whether it is counted (`mem_countAll`);
  2. what one event can do (`convert_cases`) and what one list does (`resync_eq`) to the changes and to the
     known keys;
  3. the invariant `Covers`: every key that is counted is known.  Each report keeps it (`Covers.hear`), so it
     holds of every feed (`covers_hearAll`).

  From 3 follows that no counted key is left behind: whatever ends the counting of a pod is reported, since the
  adapter asks what it knows and not what it is shown (`counts_known`).  And it follows what a list comes to
  (`counted_after_listing`): the running pods that it lists are counted, as they are by an adapter that knows
  nothing yet, and of what was counted before, all that it lists stays so.  A pod that has stopped running and
  still selects networks is among the latter.
-/
import NetAttach.Pod.Adapter
import NetAttach.Proofs.Controller.Replay

namespace NetAttach

/-! ## What is counted -/

namespace PodChange

/-- The keys that are counted after a change: a removal takes its key out, any other change puts it in. -/
def count (counted : Finset Text) (c : PodChange) : Finset Text :=
  if c.isRemoval then counted.erase c.key else insert c.key counted

/-- The keys that are counted after changes, one after another. -/
def countAll (counted : Finset Text) (changes : List PodChange) : Finset Text := changes.foldl count counted

theorem mem_count {counted : Finset Text} {c : PodChange} {key : Text} :
    key ∈ count counted c ↔ if c.key = key then c.isRemoval = false else key ∈ counted := by
  unfold count
  by_cases hk : c.key = key
  · subst hk
    cases hr : c.isRemoval <;> simp
  · have hne : key ≠ c.key := fun h => hk h.symm
    cases hr : c.isRemoval <;> simp [hk, hne]

/-- The last change of a key decides whether it is counted. -/
theorem mem_countAll {counted : Finset Text} {changes : List PodChange} {key : Text} :
    key ∈ countAll counted changes ↔
      (lastOf changes key).elim (key ∈ counted) fun c => c.isRemoval = false := by
  induction changes using List.reverseRecOn with
  | nil => rfl
  | append_singleton changes c ih =>
    have hstep : countAll counted (changes ++ [c]) = count (countAll counted changes) c :=
      List.foldl_concat ..
    rw [hstep, mem_count, lastOf_append]
    by_cases hk : c.key = key
    · have hlast : lastOf [c] key = some c := by simp [lastOf, hk]
      rw [if_pos hk, hlast]
      rfl
    · have hlast : lastOf [c] key = none := by simp [lastOf, hk]
      rw [if_neg hk, hlast, Option.none_or, ih]

/-- Changes of other keys make no difference. -/
theorem mem_countAll_of_ne {counted : Finset Text} {changes : List PodChange} {key : Text}
    (h : ∀ c ∈ changes, c.key ≠ key) : key ∈ countAll counted changes ↔ key ∈ counted := by
  rw [mem_countAll, lastOf_eq_none.mpr h]
  rfl

theorem countAll_append (counted : Finset Text) (changes others : List PodChange) :
    countAll counted (changes ++ others) = countAll (countAll counted changes) others :=
  List.foldl_append

end PodChange

/-! ## What an event can do -/

namespace PodAdapter

/-- Nothing comes of an event, or the pod is known from then on and there may be a change that counts it, or it
is forgotten, and then there is a removal unless it was not known. -/
theorem convertKnown_cases (a : PodAdapter) (kind : WatchKind) (m : PodMetadata) (running : Bool) :
    a.convertKnown kind m running = (none, a) ∨
    (∃ change, a.convertKnown kind m running = (change, a.learn m.key) ∧
      ∀ c ∈ change, c.key = m.key ∧ c.isRemoval = false) ∨
    (∃ c, a.convertKnown kind m running = (some c, a.unlearn m.key) ∧ c.key = m.key ∧
      c.isRemoval = true ∧ (kind ≠ .deleted → a.knows m.key = true)) ∨
    (a.convertKnown kind m running = (none, a.unlearn m.key) ∧ a.knows m.key = false) := by
  have happear : ∀ change selection, change ≠ ChangeKind.delete →
      ∀ c ∈ (a.appear change m.key selection m.nsText running).1, c.key = m.key ∧ c.isRemoval = false := by
    intro change selection hne c hc
    simp only [appear] at hc
    split at hc
    · cases hc
      exact ⟨rfl, by simp [PodChange.isRemoval, hne]⟩
    · exact nomatch hc
  cases kind with
  | added =>
    cases hs : m.selection with
    | none => exact Or.inl (by simp [convertKnown, hs])
    | some selection =>
      refine Or.inr (Or.inl ⟨_, ?_, happear .create selection (by decide)⟩)
      simp [convertKnown, hs, appear]
  | modified =>
    cases ht : m.isTerminating with
    | true => exact Or.inl (by cases hs : m.selection <;> simp [convertKnown, hs, ht])
    | false =>
      cases hs : m.selection with
      | some selection =>
        refine Or.inr (Or.inl ⟨_, ?_, happear .update selection (by decide)⟩)
        simp [convertKnown, hs, ht, appear]
      | none =>
        cases hk : a.knows m.key with
        | false => exact Or.inl (by simp [convertKnown, hs, ht, hk])
        | true =>
          refine Or.inr (Or.inr (Or.inl ⟨⟨m.key, .update, none, m.nsText⟩, ?_, rfl, rfl, fun _ => rfl⟩))
          simp [convertKnown, hs, ht, hk]
  | deleted =>
    by_cases hd : a.knows m.key || m.selection.isSome
    · refine Or.inr (Or.inr (Or.inl ⟨⟨m.key, .delete, m.selection, m.nsText⟩, ?_, rfl, rfl,
        fun h => absurd rfl h⟩))
      simp [convertKnown, hd]
    · have hk : a.knows m.key = false := by
        cases hk : a.knows m.key with
        | false => rfl
        | true => exact absurd (by simp [hk]) hd
      refine Or.inr (Or.inr (Or.inr ⟨?_, hk⟩))
      simp only [convertKnown, if_neg hd]
  | other => exact Or.inl (by simp [convertKnown])

/-- An event of a pod with metadata is no failure. -/
theorem convert_of_metadata (a : PodAdapter) (kind : WatchKind) {pod : LivePod} {m : PodMetadata}
    (h : pod.metadata = some m) : a.convert kind pod = .ok (a.convertKnown kind m pod.isRunning) := by
  unfold convert
  rw [h]

theorem convert_eq_ok {a a' : PodAdapter} {kind : WatchKind} {pod : LivePod} {change : Option PodChange}
    (h : a.convert kind pod = .ok (change, a')) :
    ∃ m, pod.metadata = some m ∧ a.convertKnown kind m pod.isRunning = (change, a') := by
  unfold convert at h
  split at h
  · exact nomatch h
  · rename_i m hm
    exact ⟨m, hm, Except.ok.inj h⟩

/-! ## What a list does -/

/-- A pod of the list has the key and selects networks. -/
def Lists (pods : List LivePod) (key : Text) : Prop :=
  ∃ pod ∈ pods, ∃ m, pod.metadata = some m ∧ m.key = key ∧ m.selection.isSome = true

/-- A pod of the list has the key, selects networks and is running. -/
def ListsRunning (pods : List LivePod) (key : Text) : Prop :=
  ∃ pod ∈ pods, ∃ m, pod.metadata = some m ∧ m.key = key ∧ m.selection.isSome = true ∧ pod.isRunning = true

theorem ListsRunning.lists {pods : List LivePod} {key : Text} (h : ListsRunning pods key) : Lists pods key := by
  obtain ⟨pod, hp, m, hm, hk, hs, -⟩ := h
  exact ⟨pod, hp, m, hm, hk, hs⟩

/-- The changes that count the running pods of a list. -/
def present (pods : List LivePod) : List PodChange :=
  (selectingPods pods).filterMap fun (m, selection, running) =>
    if running then some ⟨m.key, .create, some selection, m.nsText⟩ else none

/-- The keys of the pods of a list that select networks, in increasing order. -/
def listedKeys (pods : List LivePod) : List Text :=
  Text.distinctInOrder ((selectingPods pods).map fun p => p.1.key)

/-- The removals of the known keys that are not listed. -/
def gone (a : PodAdapter) (pods : List LivePod) : List PodChange :=
  (a.selecting.filter fun key => !(listedKeys pods).contains key).map fun key =>
    ⟨key, .delete, none, nsOfKey key⟩

theorem resync_eq (a : PodAdapter) (pods : List LivePod) :
    a.resync pods = (present pods ++ a.gone pods, ⟨listedKeys pods⟩) := rfl

theorem mem_selectingPods {pods : List LivePod} {m : PodMetadata} {selection : Text} {running : Bool} :
    (m, selection, running) ∈ selectingPods pods ↔
      ∃ pod ∈ pods, pod.metadata = some m ∧ m.selection = some selection ∧ pod.isRunning = running := by
  unfold selectingPods
  rw [List.mem_filterMap]
  constructor
  · rintro ⟨pod, hp, h⟩
    obtain ⟨m', hm, h⟩ := Option.bind_eq_some_iff.mp h
    obtain ⟨s, hs, h⟩ := Option.map_eq_some_iff.mp h
    cases h
    exact ⟨pod, hp, hm, hs, rfl⟩
  · rintro ⟨pod, hp, hm, hs, rfl⟩
    exact ⟨pod, hp, by simp [hm, hs]⟩

theorem mem_listedKeys {pods : List LivePod} {key : Text} : key ∈ listedKeys pods ↔ Lists pods key := by
  unfold listedKeys
  rw [Text.mem_distinctInOrder, List.mem_map]
  constructor
  · rintro ⟨⟨m, selection, running⟩, hm, rfl⟩
    obtain ⟨pod, hp, hmeta, hs, -⟩ := mem_selectingPods.mp hm
    exact ⟨pod, hp, m, hmeta, rfl, by simp [hs]⟩
  · rintro ⟨pod, hp, m, hmeta, rfl, hs⟩
    obtain ⟨selection, hs⟩ := Option.isSome_iff_exists.mp hs
    exact ⟨(m, selection, pod.isRunning), mem_selectingPods.mpr ⟨pod, hp, hmeta, hs, rfl⟩, rfl⟩

/-- After a list exactly the listed keys are known. -/
theorem knows_resync {a : PodAdapter} {pods : List LivePod} {key : Text} :
    (a.resync pods).2.knows key = true ↔ Lists pods key := by
  rw [resync_eq, knows_iff]
  exact mem_listedKeys

theorem isRemoval_of_mem_present {pods : List LivePod} {c : PodChange} (h : c ∈ present pods) :
    c.isRemoval = false := by
  obtain ⟨⟨m, selection, running⟩, -, hc⟩ := List.mem_filterMap.mp h
  cases running with
  | false => exact nomatch hc
  | true =>
    cases hc
    rfl

theorem exists_mem_present {pods : List LivePod} {key : Text} :
    (∃ c ∈ present pods, c.key = key) ↔ ListsRunning pods key := by
  constructor
  · rintro ⟨c, hc, rfl⟩
    obtain ⟨⟨m, selection, running⟩, hm, hc⟩ := List.mem_filterMap.mp hc
    cases running with
    | false => exact nomatch hc
    | true =>
      cases hc
      obtain ⟨pod, hp, hmeta, hs, hr⟩ := mem_selectingPods.mp hm
      exact ⟨pod, hp, m, hmeta, rfl, by simp [hs], hr⟩
  · rintro ⟨pod, hp, m, hmeta, rfl, hs, hr⟩
    obtain ⟨selection, hs⟩ := Option.isSome_iff_exists.mp hs
    have hm := mem_selectingPods.mpr ⟨pod, hp, hmeta, hs, hr⟩
    exact ⟨⟨m.key, .create, some selection, m.nsText⟩, List.mem_filterMap.mpr ⟨_, hm, rfl⟩, rfl⟩

theorem isRemoval_of_mem_gone {a : PodAdapter} {pods : List LivePod} {c : PodChange}
    (h : c ∈ a.gone pods) : c.isRemoval = true := by
  obtain ⟨key, -, rfl⟩ := List.mem_map.mp h
  rfl

theorem exists_mem_gone {a : PodAdapter} {pods : List LivePod} {key : Text} :
    (∃ c ∈ a.gone pods, c.key = key) ↔ a.knows key = true ∧ ¬Lists pods key := by
  have hfilter : key ∈ (a.selecting.filter fun k => !(listedKeys pods).contains k) ↔
      a.knows key = true ∧ ¬Lists pods key := by
    rw [List.mem_filter, knows_iff, ← mem_listedKeys]
    simp
  rw [← hfilter]
  constructor
  · rintro ⟨c, hc, rfl⟩
    obtain ⟨k, hk, rfl⟩ := List.mem_map.mp hc
    exact hk
  · intro hk
    exact ⟨⟨key, .delete, none, nsOfKey key⟩, List.mem_map.mpr ⟨key, hk, rfl⟩, rfl⟩

/-- What is counted after a list: what it lists as running, and what was counted and is not taken for gone. -/
theorem mem_countAll_resync {a : PodAdapter} {counted : Finset Text} {pods : List LivePod} {key : Text} :
    key ∈ PodChange.countAll counted (a.resync pods).1 ↔
      ListsRunning pods key ∨ key ∈ counted ∧ ¬(a.knows key = true ∧ ¬Lists pods key) := by
  rw [resync_eq, PodChange.countAll_append]
  by_cases hgone : ∃ c ∈ a.gone pods, c.key = key
  · -- a removal comes last, and a key with a removal is not listed
    have hrunning : ¬ListsRunning pods key := fun h => (exists_mem_gone.mp hgone).2 h.lists
    have hnot : key ∉ PodChange.countAll (PodChange.countAll counted (present pods)) (a.gone pods) := by
      rw [PodChange.mem_countAll]
      cases hl : PodChange.lastOf (a.gone pods) key with
      | none =>
        obtain ⟨c, hc, hk⟩ := hgone
        exact absurd hk (PodChange.lastOf_eq_none.mp hl c hc)
      | some c =>
        have hr := isRemoval_of_mem_gone (PodChange.mem_of_lastOf hl).1
        simp [hr]
    exact iff_of_false hnot fun h => h.elim hrunning fun h => h.2 (exists_mem_gone.mp hgone)
  · rw [PodChange.mem_countAll_of_ne fun c hc hk => hgone ⟨c, hc, hk⟩, ← exists_mem_gone]
    by_cases hpresent : ∃ c ∈ present pods, c.key = key
    · have hmem : key ∈ PodChange.countAll counted (present pods) := by
        rw [PodChange.mem_countAll]
        cases hl : PodChange.lastOf (present pods) key with
        | none =>
          obtain ⟨c, hc, hk⟩ := hpresent
          exact absurd hk (PodChange.lastOf_eq_none.mp hl c hc)
        | some c => exact isRemoval_of_mem_present (PodChange.mem_of_lastOf hl).1
      exact iff_of_true hmem (Or.inl (exists_mem_present.mp hpresent))
    · rw [PodChange.mem_countAll_of_ne fun c hc hk => hpresent ⟨c, hc, hk⟩, ← exists_mem_present]
      constructor
      · exact fun hk => Or.inr ⟨hk, hgone⟩
      · exact fun h => (h.resolve_left hpresent).1

end PodAdapter

/-! ## A feed of changes -/

/-- What an adapter is told: that something has happened to a pod, or which pods there are. -/
inductive PodReport where
  | event (kind : WatchKind) (pod : LivePod)
  | listing (pods : List LivePod)

/-- An adapter, and the changes that it has reported so far. -/
structure PodFeed where
  adapter : PodAdapter
  changes : List PodChange

namespace PodFeed

open PodAdapter (Lists ListsRunning)

/-- Nothing has been heard. -/
def new : PodFeed := ⟨.new, []⟩

/-- The feed after a report.  An event of a pod without metadata is a failure, and changes nothing. -/
def hear (f : PodFeed) : PodReport → PodFeed
  | .event kind pod =>
    match f.adapter.convert kind pod with
    | .error _ => f
    | .ok (change, adapter) => ⟨adapter, f.changes ++ change.toList⟩
  | .listing pods =>
    let (changes, adapter) := f.adapter.resync pods
    ⟨adapter, f.changes ++ changes⟩

/-- The feed after reports, one after another. -/
def hearAll (f : PodFeed) (reports : List PodReport) : PodFeed := reports.foldl hear f

/-- The keys that are counted. -/
def counted (f : PodFeed) : Finset Text := PodChange.countAll ∅ f.changes

/-- The last change that was reported of `key` is no removal. -/
def Counts (f : PodFeed) (key : Text) : Prop :=
  ∃ c, PodChange.lastOf f.changes key = some c ∧ c.isRemoval = false

theorem mem_counted {f : PodFeed} {key : Text} : key ∈ f.counted ↔ f.Counts key := by
  unfold counted Counts
  rw [PodChange.mem_countAll]
  cases PodChange.lastOf f.changes key <;> simp

theorem counted_hear_listing (f : PodFeed) (pods : List LivePod) :
    (f.hear (.listing pods)).counted = PodChange.countAll f.counted (f.adapter.resync pods).1 :=
  PodChange.countAll_append ..

theorem counted_hear_event {f : PodFeed} {kind : WatchKind} {pod : LivePod} {change : Option PodChange}
    {adapter : PodAdapter} (h : f.adapter.convert kind pod = .ok (change, adapter)) :
    f.hear (.event kind pod) = ⟨adapter, f.changes ++ change.toList⟩ ∧
      (f.hear (.event kind pod)).counted = PodChange.countAll f.counted change.toList := by
  have hhear : f.hear (.event kind pod) = ⟨adapter, f.changes ++ change.toList⟩ := by simp only [hear, h]
  refine ⟨hhear, ?_⟩
  rw [hhear]
  exact PodChange.countAll_append ..

/-- Every key that is counted is known. -/
def Covers (f : PodFeed) : Prop := ∀ key ∈ f.counted, f.adapter.knows key = true

theorem Covers.hear_event {f : PodFeed} (h : f.Covers) (kind : WatchKind) (pod : LivePod) :
    (f.hear (.event kind pod)).Covers := by
  cases hc : f.adapter.convert kind pod with
  | error failure =>
    have hsame : f.hear (.event kind pod) = f := by simp only [PodFeed.hear, hc]
    rw [hsame]
    exact h
  | ok result =>
    obtain ⟨change, adapter⟩ := result
    obtain ⟨m, -, hm⟩ := PodAdapter.convert_eq_ok hc
    obtain ⟨hhear, hcounted⟩ := counted_hear_event hc
    intro key hkey
    rw [hcounted] at hkey
    rw [hhear]
    rcases f.adapter.convertKnown_cases kind m pod.isRunning with
      hn | ⟨change', hl, hcount⟩ | ⟨c, hu, hck, hcr, -⟩ | ⟨hu, hunknown⟩
    · -- nothing changes
      obtain ⟨rfl, rfl⟩ := Prod.mk.inj (hn.symm.trans hm)
      exact h key hkey
    · -- the pod of the event may be counted, and it is known
      obtain ⟨rfl, rfl⟩ := Prod.mk.inj (hl.symm.trans hm)
      rw [PodAdapter.knows_learn]
      by_cases hk : key = m.key
      · exact Or.inl hk
      · refine Or.inr (h key ((PodChange.mem_countAll_of_ne fun c hc => ?_).mp hkey))
        have hck : c.key = m.key := (hcount c (Option.mem_toList.mp hc)).1
        exact fun he => hk (he.symm.trans hck)
    · -- the pod of the event is forgotten, and it is removed
      obtain ⟨rfl, rfl⟩ := Prod.mk.inj (hu.symm.trans hm)
      have hkey : key ∈ PodChange.count f.counted c := hkey
      rw [PodChange.mem_count] at hkey
      by_cases hk : c.key = key
      · rw [if_pos hk, hcr] at hkey
        exact nomatch hkey
      · rw [if_neg hk] at hkey
        exact PodAdapter.knows_unlearn.mpr ⟨h key hkey, fun he => hk (hck.trans he.symm)⟩
    · -- it is forgotten without a removal, since it was not known and so not counted either
      obtain ⟨rfl, rfl⟩ := Prod.mk.inj (hu.symm.trans hm)
      have hknown := h key hkey
      refine PodAdapter.knows_unlearn.mpr ⟨hknown, ?_⟩
      rintro rfl
      exact absurd hknown (by simp [hunknown])

theorem Covers.hear {f : PodFeed} (h : f.Covers) (report : PodReport) : (f.hear report).Covers := by
  cases report with
  | event kind pod => exact h.hear_event kind pod
  | listing pods =>
    intro key hkey
    rw [counted_hear_listing, PodAdapter.mem_countAll_resync] at hkey
    show (f.adapter.resync pods).2.knows key = true
    rw [PodAdapter.knows_resync]
    rcases hkey with hrunning | ⟨hcounted, hstays⟩
    · exact hrunning.lists
    · by_contra hlists
      exact hstays ⟨h key hcounted, hlists⟩

theorem Covers.hearAll {f : PodFeed} (h : f.Covers) (reports : List PodReport) : (f.hearAll reports).Covers := by
  induction reports generalizing f with
  | nil => exact h
  | cons report rest ih => exact ih (h.hear report)

theorem covers_hearAll (reports : List PodReport) : (new.hearAll reports).Covers :=
  Covers.hearAll (fun key hkey => absurd hkey (by simp [counted, new, PodChange.countAll])) reports

/-! ## The results -/

/-- **No counted pod is left behind.**  Whatever an adapter has been told: a key whose last change is no removal
is known.  So the removal of that pod is reported when it is deleted, with or without its selection, and when
it lives on without one; after a list such a key is the key of a listed pod that selects networks.  And only
the deletion of a pod can lead to a removal of a key that is not known. -/
theorem counts_known (reports : List PodReport) :
    let f := new.hearAll reports
    (∀ key, f.Counts key → f.adapter.knows key = true) ∧
    (∀ key, f.Counts key → ∀ pod m, pod.metadata = some m → m.key = key →
      ∃ c a, f.adapter.convert .deleted pod = .ok (some c, a) ∧ c.key = key ∧ c.isRemoval = true) ∧
    (∀ key, f.Counts key → ∀ pod m, pod.metadata = some m → m.key = key → m.isTerminating = false →
      m.selection = none →
      ∃ c a, f.adapter.convert .modified pod = .ok (some c, a) ∧ c.key = key ∧ c.isRemoval = true) ∧
    (∀ pods key, (f.hear (.listing pods)).Counts key → Lists pods key) ∧
    (∀ kind pod c a, kind ≠ .deleted → f.adapter.convert kind pod = .ok (some c, a) → c.isRemoval = true →
      f.adapter.knows c.key = true) := by
  intro f
  have hcovers : f.Covers := covers_hearAll reports
  have hknown : ∀ key, f.Counts key → f.adapter.knows key = true := fun key hkey =>
    hcovers key (mem_counted.mpr hkey)
  refine ⟨hknown, ?_, ?_, ?_, ?_⟩
  · intro key hkey pod m hm hk
    have hk' : f.adapter.knows m.key = true := hk ▸ hknown key hkey
    refine ⟨⟨m.key, .delete, m.selection, m.nsText⟩, f.adapter.unlearn m.key, ?_, hk, rfl⟩
    rw [PodAdapter.convert_of_metadata _ _ hm]
    simp [PodAdapter.convertKnown, hk']
  · intro key hkey pod m hm hk hterminating hselection
    have hk' : f.adapter.knows m.key = true := hk ▸ hknown key hkey
    refine ⟨⟨m.key, .update, none, m.nsText⟩, f.adapter.unlearn m.key, ?_, hk, rfl⟩
    rw [PodAdapter.convert_of_metadata _ _ hm]
    simp [PodAdapter.convertKnown, hk', hterminating, hselection]
  · intro pods key hkey
    have hk : (f.adapter.resync pods).2.knows key = true :=
      hcovers.hear (.listing pods) key (mem_counted.mpr hkey)
    exact PodAdapter.knows_resync.mp hk
  · intro kind pod c a hkind hc hr
    obtain ⟨m, -, hm⟩ := PodAdapter.convert_eq_ok hc
    rcases f.adapter.convertKnown_cases kind m pod.isRunning with
      hn | ⟨change, hl, hcount⟩ | ⟨c', hu, hck, -, hknows⟩ | ⟨hu, -⟩
    · exact nomatch (Prod.mk.inj (hn.symm.trans hm)).1
    · have hchange : change = some c := (Prod.mk.inj (hl.symm.trans hm)).1
      have hcounts := (hcount c (by rw [hchange]; rfl)).2
      rw [hr] at hcounts
      exact nomatch hcounts
    · have hc' : c' = c := Option.some.inj (Prod.mk.inj (hu.symm.trans hm)).1
      rw [← hc', hck]
      exact hknows hkind
    · exact nomatch (Prod.mk.inj (hu.symm.trans hm)).1

/-- The pod `p` of a namespace in some phase, which selects networks or does not. -/
def samplePod (selection : Option Text) (phase : Text) : LivePod :=
  let annotations := selection.elim Table.empty fun s => Table.empty.put networksKey s
  ⟨some ⟨"p", some "ns", annotations, none, none⟩, some phase⟩

/-- A pod was counted, and a list showed it when it did not run any more; it lost its selection unseen, and
its deletion is a removal all the same. -/
theorem counts_known_of_stripped_pod :
    let f := new.hearAll [.event .added (samplePod (some "net") "Running"),
      .listing [samplePod (some "net") "Failed"]]
    f.Counts "ns/p" ∧
    ∃ c a, f.adapter.convert .deleted (samplePod none "Failed") = .ok (some c, a) ∧ c.key = "ns/p" ∧
      c.isRemoval = true := by
  intro f
  have hcounts : f.Counts "ns/p" := ⟨⟨"ns/p", .create, some "net", "ns"⟩, by decide, rfl⟩
  exact ⟨hcounts, (counts_known _).2.1 "ns/p" hcounts (samplePod none "Failed") _ rfl (by decide)⟩

/-- **What a list comes to.**  A fresh adapter counts the running pods of a list that select networks, and
nothing else.  Any adapter, whatever it has been told, counts these after the list, and of what it counted
before, the pods that are listed and select networks.  So the two agree exactly when each of the latter is
running. -/
theorem counted_after_listing (reports : List PodReport) (pods : List LivePod) :
    let f := new.hearAll reports
    (∀ key, key ∈ (new.hear (.listing pods)).counted ↔ ListsRunning pods key) ∧
    (∀ key, key ∈ (f.hear (.listing pods)).counted ↔
      ListsRunning pods key ∨ key ∈ f.counted ∧ Lists pods key) ∧
    ((f.hear (.listing pods)).counted = (new.hear (.listing pods)).counted ↔
      ∀ key ∈ f.counted, Lists pods key → ListsRunning pods key) := by
  intro f
  have hfresh : ∀ key, key ∈ (new.hear (.listing pods)).counted ↔ ListsRunning pods key := by
    intro key
    rw [counted_hear_listing, PodAdapter.mem_countAll_resync]
    have hempty : key ∉ new.counted := by simp [counted, new, PodChange.countAll]
    exact or_iff_left fun h => hempty h.1
  have hany : ∀ key, key ∈ (f.hear (.listing pods)).counted ↔
      ListsRunning pods key ∨ key ∈ f.counted ∧ Lists pods key := by
    intro key
    rw [counted_hear_listing, PodAdapter.mem_countAll_resync]
    refine or_congr_right (and_congr_right fun hcounted => ?_)
    -- what is counted is known, so it is taken for gone unless it is listed
    have hknown := covers_hearAll reports key hcounted
    rw [not_and_not_right]
    exact ⟨fun h => h hknown, fun h _ => h⟩
  refine ⟨hfresh, hany, ?_⟩
  rw [Finset.ext_iff]
  constructor
  · intro h key hcounted hlists
    exact (hfresh key).mp ((h key).mp ((hany key).mpr (Or.inr ⟨hcounted, hlists⟩)))
  · intro h key
    rw [hany, hfresh]
    exact or_iff_left_of_imp fun hk => h key hk.1 hk.2

/-- A pod that was counted is listed when it does not run any more: it stays counted, and a fresh adapter
counts nothing. -/
theorem counted_after_listing_ne_fresh :
    let f := new.hearAll [.event .added (samplePod (some "net") "Running")]
    let pods := [samplePod (some "net") "Succeeded"]
    (f.hear (.listing pods)).counted = {("ns/p" : Text)} ∧ (new.hear (.listing pods)).counted = ∅ ∧
      ¬ListsRunning pods "ns/p" := by
  intro f pods
  refine ⟨by decide, by decide, ?_⟩
  rintro ⟨pod, hp, -, -, -, -, hr⟩
  obtain rfl := List.mem_singleton.mp hp
  exact absurd hr (by decide)

end PodFeed

end NetAttach
