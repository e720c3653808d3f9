/-
  A watch that leaves no gap.

  A stream shows what happens to pods from a version on.  As long as each stream starts where the last one ended,
  nothing is missed; when something goes wrong, nobody knows where that was, and only a list shows what has
  become of the pods meanwhile.  The watcher keeps one version for both purposes, and has none when it is to list.

  Structure:
  1. `ResumesFrom past v`: after `past`, the version to go on from is `v`.  There is one only if nothing has gone
     wrong since the last list;
  2. what telling does to a watcher (`Telling`): it spends some of the script, and nothing else;
  3. `Abreast`: what a watcher knows is what its history has taught it, and it has asked for the lists of the
     script in order.  Every part of the work keeps that, whether or not it fails;
  4. `OnTrack`: a part of the work that does not fail ends with the version that the history calls for, or with
     none.  It holds of every stream that is followed (`onTrack_follow`), and `round_kept` says what that makes
     of a round;
  5. by induction on the rounds, a run has no gap from one end to the other (`runWithin_kept`), and it ends
     because the watcher was told to stop (`runWithin_stopped`).
-/
import NetAttach.Pod.Watcher
import Mathlib.Data.List.Chain
import Mathlib.Data.List.Induction

namespace NetAttach

/-! ## Histories -/

namespace WatchSight

/-- The version that something carries that came out of a stream. -/
def version? : WatchSight → Option Text
  | received _ pod => PodWatcher.versionOf pod
  | did _ | listed .. | broken | failed _ => none

/-- A list has come. -/
def IsListing : WatchSight → Prop
  | listed .. => True
  | _ => False

/-- Something has gone wrong: the stream was said to be broken, or there was a failure. -/
def IsLoss : WatchSight → Prop
  | broken | failed _ => True
  | _ => False

/-- A stream is opened. -/
def IsOpening : WatchSight → Prop
  | did (.stream ..) => True
  | _ => False

/-- A change is told of. -/
def telling (c : PodChange) : WatchSight := did (.tell c)

/-- The version to go on from after `past`: that of the last thing that was received since the last list and
carried one, or else that of the list.  Nothing has gone wrong since. -/
def ResumesFrom (past : List WatchSight) (v : Option Text) : Prop :=
  ∃ earlier known listing since, past = earlier ++ listed known listing :: since ∧
    (∀ x ∈ since, ¬x.IsListing ∧ ¬x.IsLoss) ∧ v = (since.filterMap version?).getLast?.or listing.version

/-- Streams are opened with the version to go on from. -/
def Gapless (history : List WatchSight) : Prop :=
  ∀ past v timeout, past ++ [did (.stream v timeout)] <+: history → ResumesFrom past v

/-- What is known once this has been seen, of what was known before. -/
def hear (known : PodAdapter) : WatchSight → PodAdapter
  | listed _ listing => (known.resync listing.pods).2
  | received kind pod =>
    match known.convert kind pod with
    | .ok (_, known) => known
    | .error _ => known
  | did _ | broken | failed _ => known

/-- What is known after `past`, by the lists that have come and by what was received. -/
def knownAfter (past : List WatchSight) : PodAdapter := past.foldl hear .new

/-- The pods are asked for. -/
def isAsking : WatchSight → Bool
  | did .list => true
  | _ => false

/-- How often the pods have been asked for. -/
def asked (past : List WatchSight) : Nat := past.countP isAsking

/-- After `past`, the next list of the script is asked for and compared with what is known, and the changes
that this comes to are told of, before a stream is opened. -/
def Relists (script : WatchScript) (past sights : List WatchSight) : Prop :=
  (∃ rest, sights = did .list :: rest) ∧
  ∀ before v timeout, before ++ [did (.stream v timeout)] <+: sights →
    ∃ listing, script.listings[asked past]? = some (.ok listing) ∧
      before = did .list :: listed (knownAfter past) listing ::
        ((knownAfter past).resync listing.pods).1.map telling

variable {past sights : List WatchSight} {v : Option Text}

theorem resumesFrom_listed (known : PodAdapter) (listing : PodListing) :
    ResumesFrom (past ++ [listed known listing]) listing.version :=
  ⟨past, known, listing, [], rfl, nofun, rfl⟩

/-- What is received moves the version on, if it carries one. -/
theorem ResumesFrom.snoc {x : WatchSight} (h : ResumesFrom past v) (hlisting : ¬x.IsListing) (hloss : ¬x.IsLoss) :
    ResumesFrom (past ++ [x]) (x.version?.or v) := by
  obtain ⟨earlier, known, listing, since, rfl, hquiet, rfl⟩ := h
  refine ⟨earlier, known, listing, since ++ [x], by simp, ?_, ?_⟩
  · intro y hy
    rcases List.mem_append.mp hy with hy | hy
    · exact hquiet y hy
    · obtain rfl := List.mem_singleton.mp hy
      exact ⟨hlisting, hloss⟩
  · rw [List.filterMap_append]
    cases hx : x.version? <;> simp [hx]

/-- Telling of changes does not move it. -/
theorem ResumesFrom.append_telling (h : ResumesFrom past v) (changes : List PodChange) :
    ResumesFrom (past ++ changes.map telling) v := by
  induction changes generalizing past with
  | nil => simpa using h
  | cons c changes ih => simpa using ih (h.snoc (x := telling c) id id)

/-- What comes before an opening came before it already when there were no others behind it. -/
theorem prefix_of_unopened {history : List WatchSight} {timeout : Int} (hnone : ∀ x ∈ sights, ¬x.IsOpening)
    (h : past ++ [did (.stream v timeout)] <+: history ++ sights) :
    past ++ [did (.stream v timeout)] <+: history := by
  induction sights using List.reverseRecOn with
  | nil => simpa using h
  | append_singleton sights x ih =>
    rw [← List.append_assoc, List.prefix_concat_iff] at h
    rcases h with h | h
    · -- the opening would be the last of them
      obtain rfl : did (.stream v timeout) = x := by simpa using (List.append_inj' h rfl).2
      exact absurd trivial (hnone (did (.stream v timeout)) (by simp))
    · exact ih (fun y hy => hnone y (List.mem_append_left _ hy)) h

theorem not_prefix_of_unopened {timeout : Int} (hnone : ∀ x ∈ sights, ¬x.IsOpening) :
    ¬past ++ [did (.stream v timeout)] <+: sights := by
  intro h
  have hnil : past ++ [did (.stream v timeout)] <+: [] := prefix_of_unopened hnone h
  simp at hnil

theorem Gapless.append (h : Gapless past) (hnone : ∀ x ∈ sights, ¬x.IsOpening) : Gapless (past ++ sights) :=
  fun _ _ _ hprefix => h _ _ _ (prefix_of_unopened hnone hprefix)

theorem Gapless.snoc_stream (h : Gapless past) (hresume : ResumesFrom past v) (timeout : Int) :
    Gapless (past ++ [did (.stream v timeout)]) := by
  intro before v' timeout' hprefix
  rcases List.prefix_concat_iff.mp hprefix with heq | hprefix
  · obtain ⟨rfl, hv⟩ := List.append_inj' heq rfl
    obtain ⟨rfl, rfl⟩ : v' = v ∧ timeout' = timeout := by simpa using hv
    exact hresume
  · exact h _ _ _ hprefix

end WatchSight

namespace PodWatcher

open WatchSight

/-! ## Telling -/

/-- `p` is what comes of telling `changes`: some of the script is spent, and if nothing fails, all of them were
told of. -/
structure Progress.Telling (w : PodWatcher) (changes : List PodChange) (p : Progress) : Prop where
  watcher : ∃ rest, p.watcher = { w with script := { w.script with tellings := rest } }
  told : p.failure = none → p.sights = changes.map telling
  unopened : ∀ x ∈ p.sights, ¬x.IsOpening

namespace Progress

theorem andThen_of_none {p : Progress} (h : p.failure = none) (next : PodWatcher → Progress) :
    p.andThen next =
      ⟨(next p.watcher).watcher, p.sights ++ (next p.watcher).sights, (next p.watcher).failure⟩ := by
  unfold andThen
  rw [h]

theorem andThen_of_some {p : Progress} {f : WatchFailure} (h : p.failure = some f)
    (next : PodWatcher → Progress) : p.andThen next = p := by
  unfold andThen
  rw [h]

end Progress

theorem telling_ready (w : PodWatcher) : w.ready.Telling w [] :=
  ⟨⟨w.script.tellings, rfl⟩, fun _ => rfl, nofun⟩

theorem telling_fail (w : PodWatcher) (changes : List PodChange) (f : WatchFailure) :
    (w.fail f).Telling w changes :=
  ⟨⟨w.script.tellings, rfl⟩, nofun, by simp [fail, IsOpening]⟩

theorem telling_tell (w : PodWatcher) (c : PodChange) : (w.tell c).Telling w [c] := by
  have hopening : ∀ x ∈ [telling c], ¬x.IsOpening := by simp [telling, IsOpening]
  unfold tell
  cases htellings : w.script.tellings with
  | nil => exact ⟨⟨w.script.tellings, rfl⟩, fun _ => rfl, hopening⟩
  | cons outcome rest =>
    cases outcome with
    | none => exact ⟨⟨rest, rfl⟩, fun _ => rfl, hopening⟩
    | some f =>
      refine ⟨⟨rest, rfl⟩, nofun, ?_⟩
      show ∀ x ∈ [telling c, .failed f], ¬x.IsOpening
      simp [telling, IsOpening]

theorem telling_tellAll (w : PodWatcher) (changes : List PodChange) :
    (w.tellAll changes).Telling w changes := by
  induction changes generalizing w with
  | nil => exact w.telling_ready
  | cons c changes ih =>
    unfold tellAll
    have hfirst := w.telling_tell c
    cases hf : (w.tell c).failure with
    | some f =>
      rw [Progress.andThen_of_some hf]
      exact ⟨hfirst.watcher, fun h => (nomatch hf.symm.trans h), hfirst.unopened⟩
    | none =>
      rw [Progress.andThen_of_none hf]
      obtain ⟨rest, hw⟩ := hfirst.watcher
      have hrest := ih (w.tell c).watcher
      refine ⟨?_, fun h => ?_, fun x hx => ?_⟩
      · obtain ⟨rest', hw'⟩ := hrest.watcher
        exact ⟨rest', by rw [hw', hw]⟩
      · exact (congrArg₂ (· ++ ·) (hfirst.told hf) (hrest.told h)).trans rfl
      · exact (List.mem_append.mp hx).elim (hfirst.unopened x) (hrest.unopened x)

/-- Whatever happens to a pod, something may be told of it, and the version stays. -/
theorem exists_telling_handle (w : PodWatcher) (kind : WatchKind) (pod : LivePod) :
    ∃ adapter changes, (w.handle kind pod).Telling { w with adapter } changes := by
  unfold handle
  cases w.adapter.convert kind pod with
  | error f => exact ⟨w.adapter, [], w.telling_fail [] _⟩
  | ok result =>
    obtain ⟨change, adapter⟩ := result
    refine ⟨adapter, change.toList, ?_⟩
    cases change with
    | none => exact telling_ready _
    | some c => exact telling_tell _ c

/-! ## What is known -/

/-- The watcher knows what `past` has taught it, and is left with the lists that were not asked for. -/
structure Abreast (script : WatchScript) (past : List WatchSight) (w : PodWatcher) : Prop where
  adapter : w.adapter = knownAfter past
  listings : w.script.listings = script.listings.drop (asked past)

/-- The part `p` of the work, after `past`, leaves the watcher abreast of all that was seen. -/
def Progress.Abreast (script : WatchScript) (past : List WatchSight) (p : Progress) : Prop :=
  PodWatcher.Abreast script (past ++ p.sights) p.watcher

section Abreast

variable {script : WatchScript} {past : List WatchSight} {w : PodWatcher}

theorem knownAfter_snoc (past : List WatchSight) (x : WatchSight) :
    knownAfter (past ++ [x]) = hear (knownAfter past) x := by
  simp [knownAfter]

theorem asked_snoc (past : List WatchSight) (x : WatchSight) :
    asked (past ++ [x]) = asked past + if x.isAsking then 1 else 0 := by
  simp [asked, List.countP_singleton]

theorem abreast_new (timeout : Int) (interval : Float) (script : WatchScript) :
    Abreast script [] (new timeout interval script) := ⟨rfl, rfl⟩

/-- What teaches nothing and asks for nothing leaves a watcher abreast. -/
theorem Abreast.snoc (h : Abreast script past w) {x : WatchSight} (hear : ∀ known, x.hear known = known)
    (hasking : x.isAsking = false) : Abreast script (past ++ [x]) w where
  adapter := by rw [knownAfter_snoc, hear, h.adapter]
  listings := by rw [asked_snoc, hasking, h.listings]; rfl

namespace Progress

theorem Abreast.after {x : WatchSight} {p : Progress} (h : p.Abreast script (past ++ [x])) :
    (p.after x).Abreast script past := by
  unfold Progress.Abreast at h ⊢
  simpa [Progress.after] using h

theorem Abreast.andThen {p : Progress} {next : PodWatcher → Progress} (h : p.Abreast script past)
    (hnext : ∀ {w'}, PodWatcher.Abreast script (past ++ p.sights) w' →
      (next w').Abreast script (past ++ p.sights)) : (p.andThen next).Abreast script past := by
  cases hf : p.failure with
  | some f =>
    rw [andThen_of_some hf]
    exact h
  | none =>
    rw [andThen_of_none hf]
    unfold Progress.Abreast at hnext ⊢
    simpa using hnext h

end Progress

theorem Abreast.ready (h : Abreast script past w) : w.ready.Abreast script past := by
  unfold Progress.Abreast
  simpa [PodWatcher.ready] using h

theorem Abreast.fail (h : Abreast script past w) (f : WatchFailure) : (w.fail f).Abreast script past :=
  h.snoc (fun _ => rfl) rfl

theorem Abreast.exhaust (h : Abreast script past w) : w.exhaust.Abreast script past := by
  have hstopped : Abreast script past { w with stopped := true } := ⟨h.adapter, h.listings⟩
  exact .after ((hstopped.snoc (x := .did .stopSet) (fun _ => rfl) rfl).fail _)

theorem Abreast.tell (h : Abreast script past w) (c : PodChange) : (w.tell c).Abreast script past := by
  have htold : Abreast script (past ++ [telling c]) w := h.snoc (fun _ => rfl) rfl
  unfold PodWatcher.tell
  cases w.script.tellings with
  | nil => exact .after htold.ready
  | cons outcome rest =>
    have hspent : Abreast script (past ++ [telling c]) { w with script := { w.script with tellings := rest } } :=
      ⟨htold.adapter, htold.listings⟩
    cases outcome with
    | none => exact .after hspent.ready
    | some f => exact .after (hspent.fail f)

theorem Abreast.tellAll (h : Abreast script past w) (changes : List PodChange) :
    (w.tellAll changes).Abreast script past := by
  induction changes generalizing past w with
  | nil => exact h.ready
  | cons c changes ih => exact (h.tell c).andThen fun hw => ih hw

/-- What was received is converted before anybody is told. -/
theorem Abreast.handle (h : Abreast script past w) (kind : WatchKind) (pod : LivePod) :
    (w.handle kind pod).Abreast script (past ++ [.received kind pod]) := by
  have hknown : knownAfter (past ++ [.received kind pod]) = (WatchSight.received kind pod).hear w.adapter := by
    rw [knownAfter_snoc, h.adapter]
  have hlistings : w.script.listings = script.listings.drop (asked (past ++ [.received kind pod])) := by
    rw [asked_snoc]
    exact h.listings
  unfold PodWatcher.handle
  simp only [hear] at hknown
  cases hconvert : w.adapter.convert kind pod with
  | error f =>
    rw [hconvert] at hknown
    exact Abreast.fail ⟨hknown.symm, hlistings⟩ (.other f)
  | ok result =>
    obtain ⟨change, adapter⟩ := result
    rw [hconvert] at hknown
    have hw : Abreast script (past ++ [.received kind pod]) { w with adapter } := ⟨hknown.symm, hlistings⟩
    cases change with
    | none => exact hw.ready
    | some c => exact hw.tell c

theorem Abreast.follow (h : Abreast script past w) (items : List StreamItem) :
    (w.follow items).Abreast script past := by
  induction items generalizing past w with
  | nil => exact h.ready
  | cons item rest ih =>
    have hclosed : ∀ {past w}, Abreast script past w → (w.ready.after (.did .closeStream)).Abreast script past :=
      fun h => .after (h.snoc (fun _ => rfl) rfl).ready
    cases item with
    | stop =>
      have hstopped : Abreast script past { w with stopped := true } := ⟨h.adapter, h.listings⟩
      exact .after (ih (hstopped.snoc (x := .did .stopSet) (fun _ => rfl) rfl))
    | failure f => exact h.fail f
    | error =>
      unfold PodWatcher.follow
      split
      · exact hclosed h
      · have hlost : Abreast script past { w with version := none } := ⟨h.adapter, h.listings⟩
        exact .after (hclosed (hlost.snoc (x := .broken) (fun _ => rfl) rfl))
    | pod kind pod =>
      unfold PodWatcher.follow
      split
      · exact hclosed h
      · have hmoved : Abreast script past { w with version := (versionOf pod).or w.version } :=
          ⟨h.adapter, h.listings⟩
        exact .after ((hmoved.handle kind pod).andThen fun hw => ih hw)

theorem Abreast.stream (h : Abreast script past w) : w.stream.Abreast script past := by
  have hopened : Abreast script (past ++ [.did (.stream w.version w.timeout)]) w := h.snoc (fun _ => rfl) rfl
  unfold PodWatcher.stream
  refine .after ?_
  cases w.script.streams with
  | nil => exact hopened.exhaust
  | cons items rest =>
    have hspent : Abreast script (past ++ [.did (.stream w.version w.timeout)])
        { w with script := { w.script with streams := rest } } := ⟨hopened.adapter, hopened.listings⟩
    exact hspent.follow items

/-- A list that comes is the next one of the script. -/
theorem Abreast.relist (h : Abreast script past w) : w.relist.Abreast script past := by
  have hknown : w.adapter = knownAfter (past ++ [.did .list]) := by
    rw [knownAfter_snoc]
    exact h.adapter
  have hasked : asked (past ++ [.did .list]) = asked past + 1 := asked_snoc past _
  unfold PodWatcher.relist
  refine .after ?_
  cases hlistings : w.script.listings with
  | nil =>
    have hnone : script.listings.drop (asked past) = [] := h.listings.symm.trans hlistings
    refine Abreast.exhaust ⟨hknown, ?_⟩
    rw [hlistings, hasked, ← List.drop_drop, hnone, List.drop_nil]
  | cons listing rest =>
    have hrest : rest = script.listings.drop (asked (past ++ [.did .list])) := by
      rw [hasked, ← List.drop_drop, ← h.listings, hlistings, List.drop_one, List.tail_cons]
    have hspent : Abreast script (past ++ [.did .list]) { w with script := { w.script with listings := rest } } :=
      ⟨hknown, hrest⟩
    cases listing with
    | error f => exact hspent.fail f
    | ok listing =>
      refine .after (Abreast.tellAll ⟨?_, ?_⟩ _)
      · rw [knownAfter_snoc, ← hknown]
        rfl
      · rw [asked_snoc]
        exact hrest

theorem Abreast.round (h : Abreast script past w) : w.round.Abreast script past := by
  unfold PodWatcher.round
  have hfirst : (if w.version.isNone then w.relist else w.ready).Abreast script past := by
    split
    · exact h.relist
    · exact h.ready
  exact hfirst.andThen fun hw => hw.stream

/-- Losing the version and waiting teach nothing. -/
theorem Progress.Abreast.settle {p : Progress} (h : p.Abreast script past) :
    PodWatcher.Abreast script (past ++ p.settle.2) p.settle.1 := by
  unfold Progress.settle
  cases p.failure with
  | none =>
    show PodWatcher.Abreast script (past ++ (p.sights ++ [])) p.watcher
    rw [List.append_nil]
    exact h
  | some f =>
    have hrecovered : PodWatcher.Abreast script (past ++ p.sights) (p.watcher.recover f).1 :=
      ⟨h.adapter, h.listings⟩
    show PodWatcher.Abreast script (past ++ (p.sights ++ (p.watcher.recover f).2)) (p.watcher.recover f).1
    rw [← List.append_assoc]
    by_cases hexpired : f.isExpiry = true
    · rw [show (p.watcher.recover f).2 = [] from if_pos hexpired, List.append_nil]
      exact hrecovered
    · rw [show (p.watcher.recover f).2 = [_] from if_neg hexpired]
      exact hrecovered.snoc (fun _ => rfl) rfl

end Abreast

/-! ## Following -/

/-- After `past`, the watcher has the version to go on from, or none. -/
def Informed (past : List WatchSight) (w : PodWatcher) : Prop :=
  w.version = none ∨ ResumesFrom past w.version

/-- The part `p` of the work opens no stream, and if nothing fails, there is a version at its end only if nothing
has gone wrong in it, and then it is the one to go on from. -/
structure Progress.OnTrack (past : List WatchSight) (p : Progress) : Prop where
  version : p.failure = none → p.watcher.version = none ∨
    ResumesFrom (past ++ p.sights) p.watcher.version ∧ ∀ x ∈ p.sights, ¬x.IsLoss
  unopened : ∀ x ∈ p.sights, ¬x.IsOpening

namespace Progress

variable {past before : List WatchSight} {p : Progress}

/-- More may have happened before, as long as nothing went wrong. -/
theorem OnTrack.prepend (h : OnTrack (past ++ before) p) (hbefore : ∀ x ∈ before, ¬x.IsOpening ∧ ¬x.IsLoss) :
    OnTrack past { p with sights := before ++ p.sights } where
  version hf := by
    refine (h.version hf).imp_right fun hkept => ⟨by simpa using hkept.1, fun x hx => ?_⟩
    exact (List.mem_append.mp hx).elim (fun hx => (hbefore x hx).2) (hkept.2 x)
  unopened x hx := (List.mem_append.mp hx).elim (fun hx => (hbefore x hx).1) (h.unopened x)

theorem OnTrack.after {x : WatchSight} (h : OnTrack (past ++ [x]) p) (hopening : ¬x.IsOpening)
    (hloss : ¬x.IsLoss) : OnTrack past (p.after x) :=
  h.prepend fun y hy => by
    obtain rfl := List.mem_singleton.mp hy
    exact ⟨hopening, hloss⟩

end Progress

/-- Telling may come before a part that keeps track. -/
theorem Progress.Telling.onTrack_andThen {w : PodWatcher} {changes : List PodChange} {p : Progress}
    {next : PodWatcher → Progress} {past : List WatchSight} (h : p.Telling w changes)
    (hresume : ResumesFrom past w.version)
    (hnext : ∀ {w' : PodWatcher}, ResumesFrom (past ++ changes.map telling) w'.version →
      (next w').OnTrack (past ++ changes.map telling)) :
    (p.andThen next).OnTrack past := by
  cases hf : p.failure with
  | some f =>
    rw [Progress.andThen_of_some hf]
    exact ⟨fun h => (nomatch hf.symm.trans h), h.unopened⟩
  | none =>
    obtain ⟨rest, hw⟩ := h.watcher
    have hversion : ResumesFrom (past ++ changes.map telling) p.watcher.version := by
      rw [hw]
      exact hresume.append_telling changes
    rw [Progress.andThen_of_none hf, h.told hf]
    refine (hnext hversion).prepend fun x hx => ?_
    obtain ⟨c, -, rfl⟩ := List.mem_map.mp hx
    exact ⟨id, id⟩

theorem onTrack_ready {past : List WatchSight} {w : PodWatcher} (h : Informed past w) : w.ready.OnTrack past where
  version _ := h.imp_right fun h => ⟨by simpa [ready] using h, nofun⟩
  unopened := nofun

theorem onTrack_fail {past : List WatchSight} {w : PodWatcher} {f : WatchFailure} : (w.fail f).OnTrack past :=
  ⟨nofun, by simp [fail, IsOpening]⟩

theorem onTrack_exhaust {past : List WatchSight} {w : PodWatcher} : w.exhaust.OnTrack past :=
  Progress.OnTrack.after (x := .did .stopSet) onTrack_fail id id

theorem onTrack_closed {past : List WatchSight} {w : PodWatcher} (h : ResumesFrom past w.version) :
    (w.ready.after (.did .closeStream)).OnTrack past :=
  (onTrack_ready (Or.inr (h.snoc (x := .did .closeStream) id id))).after id id

/-- Following a stream keeps track, whatever comes out of it. -/
theorem onTrack_follow {past : List WatchSight} {w : PodWatcher} (h : ResumesFrom past w.version)
    (items : List StreamItem) : (w.follow items).OnTrack past := by
  -- the history grows by what comes out of the stream, and the watcher's version keeps up with it
  induction items generalizing past w with
  | nil => exact onTrack_ready (Or.inr h)
  | cons item rest ih =>
    cases item with
    | stop =>
      have hstopped := ih (w := { w with stopped := true }) (h.snoc (x := .did .stopSet) id id)
      exact hstopped.after id id
    | failure f => exact onTrack_fail
    | error =>
      unfold follow
      split
      · exact onTrack_closed h
      · exact ⟨fun _ => Or.inl rfl, by simp [Progress.after, ready, IsOpening]⟩
    | pod kind pod =>
      unfold follow
      split
      · exact onTrack_closed h
      · -- the version moves on before anybody is told, and nobody who is told moves it
        have hreceived := h.snoc (x := .received kind pod) id id
        refine Progress.OnTrack.after ?_ id id
        obtain ⟨adapter, changes, hhandle⟩ :=
          exists_telling_handle { w with version := (versionOf pod).or w.version } kind pod
        exact hhandle.onTrack_andThen hreceived fun hw => ih hw

/-! ## One round -/

/-- A failure is dealt with by having no version. -/
theorem Progress.OnTrack.settle {past : List WatchSight} {p : Progress} (h : p.OnTrack past) :
    (p.settle.1.version = none ∨
      ResumesFrom (past ++ p.settle.2) p.settle.1.version ∧ ∀ x ∈ p.settle.2, ¬x.IsLoss) ∧
    ∀ x ∈ p.settle.2, ¬x.IsOpening := by
  unfold Progress.settle
  cases hf : p.failure with
  | none => simpa using ⟨h.version hf, h.unopened⟩
  | some f =>
    have hpause : ∀ x ∈ (p.watcher.recover f).2, ¬x.IsOpening := by
      unfold recover
      split <;> simp [IsOpening]
    exact ⟨Or.inl rfl, fun x hx => (List.mem_append.mp hx).elim (h.unopened x) (hpause x)⟩

theorem Progress.settle_append (w : PodWatcher) (before rest : List WatchSight) (f : Option WatchFailure) :
    (Progress.mk w (before ++ rest) f).settle =
      ((Progress.mk w rest f).settle.1, before ++ (Progress.mk w rest f).settle.2) := by
  cases f <;> simp [settle]

/-- What is done of a stream once it is open is on track. -/
theorem stream_eq {past : List WatchSight} {w : PodWatcher} (h : ResumesFrom past w.version) :
    ∃ p : Progress, w.stream = p.after (.did (.stream w.version w.timeout)) ∧
      p.OnTrack (past ++ [.did (.stream w.version w.timeout)]) := by
  have hopened := h.snoc (x := .did (.stream w.version w.timeout)) id id
  unfold stream
  cases w.script.streams with
  | nil => exact ⟨w.exhaust, rfl, onTrack_exhaust⟩
  | cons items rest =>
    exact ⟨_, rfl, onTrack_follow (w := { w with script := { w.script with streams := rest } }) hopened items⟩

/-- A list either fails, or all changes are told of and its version is the one to go on from. -/
theorem relist_cases (w : PodWatcher) :
    (∃ w' rest f, w.relist = ⟨w', .did .list :: rest, some f⟩ ∧ ∀ x ∈ rest, ¬x.IsOpening) ∨
    ∃ w' listing, w.script.listings.head? = some (.ok listing) ∧ w'.version = listing.version ∧ w.relist =
      ⟨w', .did .list :: .listed w.adapter listing :: (w.adapter.resync listing.pods).1.map telling, none⟩ := by
  unfold relist
  cases w.script.listings with
  | nil => exact Or.inl ⟨_, _, _, rfl, (onTrack_exhaust : w.exhaust.OnTrack []).unopened⟩
  | cons listing rest =>
    cases listing with
    | error f => exact Or.inl ⟨_, _, f, rfl, (onTrack_fail : (fail _ f).OnTrack []).unopened⟩
    | ok listing =>
      have htold := telling_tellAll
        { w with
          version := listing.version
          adapter := (w.adapter.resync listing.pods).2
          script := { w.script with listings := rest } } (w.adapter.resync listing.pods).1
      simp only
      -- only what telling does is of importance from here on, not how it does it
      generalize tellAll _ _ = p at htold ⊢
      obtain ⟨w', sights, failure⟩ := p
      cases failure with
      | some f =>
        refine Or.inl ⟨w', .listed w.adapter listing :: sights, f, rfl, ?_⟩
        exact List.forall_mem_cons.mpr ⟨id, htold.unopened⟩
      | none =>
        obtain ⟨rest', rfl⟩ := htold.watcher
        obtain rfl := htold.told rfl
        exact Or.inr ⟨_, listing, rfl, rfl, rfl⟩

/-- A round that opens a stream does so with the version to go on from; if it had none, it lists and tells of
the changes before. -/
theorem round_cases {past : List WatchSight} {w : PodWatcher} (h : Informed past w) :
    (∃ w' rest f, w.version = none ∧ w.round = ⟨w', .did .list :: rest, some f⟩ ∧ ∀ x ∈ rest, ¬x.IsOpening) ∨
    ∃ before v timeout, ∃ p : Progress,
      w.round = ⟨p.watcher, before ++ .did (.stream v timeout) :: p.sights, p.failure⟩ ∧
      ResumesFrom (past ++ before) v ∧ p.OnTrack (past ++ before ++ [.did (.stream v timeout)]) ∧
      (w.version ≠ none ∧ before = [] ∨ ∃ listing, w.script.listings.head? = some (.ok listing) ∧
        before = .did .list :: .listed w.adapter listing :: (w.adapter.resync listing.pods).1.map telling) := by
  unfold round
  cases hversion : w.version with
  | some v =>
    have hresume : ResumesFrom (past ++ []) w.version := by
      simpa using h.resolve_left (by simp [hversion])
    obtain ⟨p, hstream, htrack⟩ := stream_eq hresume
    refine Or.inr ⟨[], w.version, w.timeout, p, ?_, hresume, htrack, Or.inl ⟨nofun, rfl⟩⟩
    show w.ready.andThen stream = _
    rw [Progress.andThen_of_none rfl]
    show Progress.mk w.stream.watcher ([] ++ w.stream.sights) w.stream.failure = _
    rw [hstream]
    rfl
  | none =>
    rcases w.relist_cases with ⟨w', rest, f, hrelist, hrest⟩ | ⟨w', listing, hnext, hlisted, hrelist⟩
    · refine Or.inl ⟨w', rest, f, rfl, ?_, hrest⟩
      show w.relist.andThen stream = _
      rw [hrelist, Progress.andThen_of_some rfl]
    · have hresume : ResumesFrom (past ++ .did .list :: .listed w.adapter listing ::
          (w.adapter.resync listing.pods).1.map telling) w'.version := by
        -- nothing is received while the changes are told of
        rw [hlisted]
        have hlist : ResumesFrom (past ++ [.did .list, .listed w.adapter listing]) listing.version := by
          rw [List.append_cons]
          exact resumesFrom_listed w.adapter listing
        simpa using hlist.append_telling (w.adapter.resync listing.pods).1
      obtain ⟨p, hstream, htrack⟩ := stream_eq hresume
      refine Or.inr ⟨_, w'.version, w'.timeout, p, ?_, hresume, htrack, Or.inr ⟨listing, hnext, rfl⟩⟩
      show w.relist.andThen stream = _
      rw [hrelist, Progress.andThen_of_none rfl]
      show Progress.mk w'.stream.watcher (_ ++ w'.stream.sights) w'.stream.failure = _
      rw [hstream]
      rfl

/-- What a round makes of a history and a watcher. -/
structure RoundKept (script : WatchScript) (past : List WatchSight) (w w' : PodWatcher)
    (sights : List WatchSight) : Prop where
  gapless : Gapless (past ++ sights)
  informed : Informed (past ++ sights) w'
  abreast : Abreast script (past ++ sights) w'
  /-- When something has gone wrong, there is no version for the next round. -/
  lost : (∃ x ∈ sights, x.IsLoss) → w'.version = none
  /-- A round without a version lists. -/
  relists : w.version = none → Relists script past sights

theorem round_kept {script : WatchScript} {past : List WatchSight} {w : PodWatcher} (hgapless : Gapless past)
    (h : Informed past w) (habreast : Abreast script past w) :
    RoundKept script past w w.round.settle.1 w.round.settle.2 := by
  have hsettledAbreast := habreast.round.settle
  rcases round_cases h with ⟨w', rest, f, hversion, hround, hrest⟩ |
    ⟨before, v, timeout, p, hround, hresume, htrack, hbefore⟩
  · have htrack : w.round.OnTrack past := by
      rw [hround]
      exact ⟨nofun, List.forall_mem_cons.mpr ⟨id, hrest⟩⟩
    have hunopened := htrack.settle.2
    rw [hround] at hunopened hsettledAbreast ⊢
    refine ⟨hgapless.append hunopened, Or.inl rfl, hsettledAbreast, fun _ => rfl, fun _ => ⟨⟨_, rfl⟩, ?_⟩⟩
    exact fun _ _ _ hprefix => absurd hprefix (not_prefix_of_unopened hunopened)
  · have hquiet : ∀ x ∈ before, ¬x.IsOpening ∧ ¬x.IsLoss := by
      rcases hbefore with ⟨-, rfl⟩ | ⟨listing, -, rfl⟩
      · exact nofun
      · simp [IsOpening, IsLoss, telling]
    have hunopened : ∀ x ∈ before, ¬x.IsOpening := fun x hx => (hquiet x hx).1
    have hsettle : w.round.settle = (p.settle.1, before ++ [.did (.stream v timeout)] ++ p.settle.2) := by
      rw [hround, List.append_cons, Progress.settle_append]
    obtain ⟨hsettled, hrest⟩ := htrack.settle
    have hopened := (hgapless.append hunopened).snoc_stream hresume timeout
    rw [hsettle] at hsettledAbreast ⊢
    refine ⟨?_, ?_, hsettledAbreast, ?_, ?_⟩
    · simpa using hopened.append hrest
    · exact hsettled.imp_right fun hkept => by simpa using hkept.1
    · rintro ⟨x, hx, hloss⟩
      refine hsettled.resolve_right fun hkept => ?_
      rcases List.mem_append.mp hx with hx | hx
      · rcases List.mem_append.mp hx with hx | hx
        · exact (hquiet x hx).2 hloss
        · obtain rfl := List.mem_singleton.mp hx
          exact hloss
      · exact hkept.2 x hx hloss
    · intro hversion
      obtain ⟨listing, hnext, rfl⟩ := hbefore.resolve_left fun h => h.1 hversion
      rw [habreast.listings, List.head?_drop] at hnext
      refine ⟨⟨_, rfl⟩, fun past' v' timeout' hprefix => ⟨listing, hnext, ?_⟩⟩
      rw [← habreast.adapter]
      -- the stream is the only one that the round opens
      rcases List.prefix_concat_iff.mp (prefix_of_unopened hrest hprefix) with heq | hprefix
      · exact (List.append_inj' heq rfl).1
      · exact absurd hprefix (not_prefix_of_unopened hunopened)

/-! ## A run -/

/-- Rounds follow one another without a gap, the watcher is abreast of them, and one that something went wrong
in is followed by one that lists. -/
theorem runWithin_kept (most : Nat) {script : WatchScript} {past : List WatchSight} {w : PodWatcher}
    (hgapless : Gapless past) (h : Informed past w) (habreast : Abreast script past w) :
    Gapless (past ++ (w.runWithin most).2.flatten) ∧
    Abreast script (past ++ (w.runWithin most).2.flatten) (w.runWithin most).1 ∧
    (∀ before sights next after, (w.runWithin most).2 = before ++ sights :: next :: after →
      (∃ x ∈ sights, x.IsLoss) → Relists script (past ++ (before ++ [sights]).flatten) next) ∧
    (w.version = none → ∀ sights ∈ (w.runWithin most).2.head?, Relists script past sights) := by
  induction most generalizing past w with
  | zero => exact ⟨by simpa [runWithin] using hgapless, by simpa [runWithin] using habreast, by simp [runWithin], nofun⟩
  | succ most ih =>
    unfold runWithin
    split
    · exact ⟨by simpa using hgapless, by simpa using habreast, by simp, nofun⟩
    · have hround := round_kept hgapless h habreast
      obtain ⟨hrest, habreastRest, hfollows, hhead⟩ := ih hround.gapless hround.informed hround.abreast
      refine ⟨by simpa using hrest, by simpa using habreastRest, ?_, ?_⟩
      · intro before sights next after hrounds hloss
        rcases before with _ | ⟨first, before⟩
        · -- a loss leaves no version for the rest of the run, which therefore begins with a list
          obtain ⟨rfl, htail⟩ := List.cons.inj hrounds
          simpa using hhead (hround.lost hloss) next (by simp [htail])
        · obtain ⟨rfl, htail⟩ := List.cons.inj hrounds
          simpa using hfollows before sights next after htail hloss
      · rintro hversion sights hsights
        obtain rfl := Option.some.inj hsights
        exact hround.relists hversion

/-- How many lists and streams are left in the script. -/
def pending (w : PodWatcher) : Nat := w.script.listings.length + w.script.streams.length

theorem Progress.Telling.pending_eq {w : PodWatcher} {changes : List PodChange} {p : Progress}
    (h : p.Telling w changes) : p.watcher.pending = w.pending := by
  obtain ⟨rest, hw⟩ := h.watcher
  rw [hw]
  rfl

theorem pending_follow (w : PodWatcher) (items : List StreamItem) :
    (w.follow items).watcher.pending = w.pending := by
  induction items generalizing w with
  | nil => rfl
  | cons item rest ih =>
    cases item with
    | stop => exact ih { w with stopped := true }
    | failure f => rfl
    | error =>
      unfold follow
      split <;> rfl
    | pod kind pod =>
      unfold follow
      split
      · rfl
      · obtain ⟨adapter, changes, hhandle⟩ :=
          exists_telling_handle { w with version := (versionOf pod).or w.version } kind pod
        have hpending := hhandle.pending_eq
        show ((handle { w with version := (versionOf pod).or w.version } kind pod).andThen _).watcher.pending = _
        generalize handle _ kind pod = p at hpending ⊢
        cases hf : p.failure with
        | some f =>
          rw [Progress.andThen_of_some hf]
          exact hpending
        | none =>
          rw [Progress.andThen_of_none hf]
          exact (ih p.watcher).trans hpending

/-- A stream takes one out of the script, unless it ends the run. -/
theorem pending_stream (w : PodWatcher) :
    w.stream.watcher.stopped = true ∨ w.stream.watcher.pending < w.pending := by
  unfold stream
  cases hstreams : w.script.streams with
  | nil => exact Or.inl rfl
  | cons items rest =>
    refine Or.inr ?_
    show (follow { w with script := { w.script with streams := rest } } items).watcher.pending < w.pending
    rw [pending_follow]
    simp [pending, hstreams]

/-- So does a list. -/
theorem pending_relist (w : PodWatcher) :
    (w.relist.watcher.stopped = true ∧ ∃ f, w.relist.failure = some f) ∨
      w.relist.watcher.pending < w.pending := by
  unfold relist
  cases hlistings : w.script.listings with
  | nil => exact Or.inl ⟨rfl, _, rfl⟩
  | cons listing rest =>
    refine Or.inr ?_
    have hless : pending { w with script := { w.script with listings := rest } } < w.pending := by
      simp [pending, hlistings]
    cases listing with
    | error f => exact hless
    | ok listing => exact (telling_tellAll _ (w.adapter.resync listing.pods).1).pending_eq.trans_lt hless

theorem pending_round (w : PodWatcher) :
    w.round.watcher.stopped = true ∨ w.round.watcher.pending < w.pending := by
  unfold round
  split
  · cases hf : w.relist.failure with
    | some f =>
      rw [Progress.andThen_of_some hf]
      exact w.pending_relist.imp_left And.left
    | none =>
      rw [Progress.andThen_of_none hf]
      have hlisted := w.pending_relist.resolve_left fun h => by simp [hf] at h
      exact w.relist.watcher.pending_stream.imp_right fun h => h.trans hlisted
  · exact w.pending_stream

/-- A run that may take more rounds than there are lists and streams ends because the watcher is told to
stop. -/
theorem runWithin_stopped (most : Nat) {w : PodWatcher} (h : w.stopped = true ∨ w.pending < most) :
    (w.runWithin most).1.stopped = true := by
  induction most generalizing w with
  | zero => exact h.resolve_right (Nat.not_lt_zero _)
  | succ most ih =>
    unfold runWithin
    split
    · assumption
    · next hrunning =>
      have hless : w.pending < most + 1 := h.resolve_left hrunning
      have hsettled : w.round.settle.1.stopped = w.round.watcher.stopped ∧
          w.round.settle.1.pending = w.round.watcher.pending := by
        unfold Progress.settle
        cases w.round.failure <;> exact ⟨rfl, rfl⟩
      refine ih ?_
      rw [hsettled.1, hsettled.2]
      exact w.pending_round.imp_right fun h => by omega

/-- **A watch leaves no gap.**  Whatever the cluster answers and whatever fails, a run ends when the watcher is
told to stop; until then each stream is opened with the version of the last thing that was received since the
last list and carried one, or else with that of the list, and nothing has gone wrong between that list and the
stream; and after a round in which a stream was broken or something failed, the next one asks for the next list,
compares it with all that the watcher has come to know, and tells of what has changed before it opens a stream. -/
theorem run_gapless (timeout : Int) (interval : Float) (script : WatchScript) :
    let w := new timeout interval script
    let rounds := w.runRounds.2
    w.run.1.stopped = true ∧ w.run.2 = WatchSight.events rounds.flatten ∧
    w.run.1.adapter = knownAfter rounds.flatten ∧
    (∀ past v t, past ++ [.did (.stream v t)] <+: rounds.flatten → ResumesFrom past v) ∧
    ∀ before sights next after, rounds = before ++ sights :: next :: after →
      (∃ x ∈ sights, x.IsLoss) → Relists script (before ++ [sights]).flatten next := by
  intro w rounds
  have hgapless : Gapless [] := fun past v timeout hprefix => by simp at hprefix
  obtain ⟨hall, habreast, hfollows, -⟩ := runWithin_kept (w.pending + 1) hgapless (Or.inl rfl : Informed [] w)
    (abreast_new timeout interval script)
  exact ⟨runWithin_stopped (w.pending + 1) (Or.inr (Nat.lt_succ_self _)), rfl, habreast.adapter, hall, hfollows⟩

/-- A pod that counts is listed, the stream breaks, and the pod is not in the next list: this is told of before the
next stream is opened, with the version of that list and not with that of what was received. -/
theorem run_gapless_of_broken_stream :
    let annotations : Table Text Text := Table.empty.put networksKey "net"
    let counted : LivePod := ⟨some ⟨"p", some "ns", annotations, none, some "3"⟩, some "Running"⟩
    let other : LivePod := ⟨some ⟨"q", some "ns", .empty, none, some "7"⟩, none⟩
    let script : WatchScript :=
      ⟨[.ok ⟨some "4", [counted]⟩, .ok ⟨some "9", []⟩], [[.pod .modified other, .error], []], []⟩
    let w := new 300 5 script
    let known : PodAdapter := ⟨["ns/p"]⟩
    let creation : PodChange := ⟨"ns/p", .create, some "net", "ns"⟩
    let removal : PodChange := ⟨"ns/p", .delete, none, "ns"⟩
    let first : List WatchSight :=
      [.did .list, .listed .new ⟨some "4", [counted]⟩, telling creation,
        .did (.stream (some "4") 300), .received .modified other, .broken, .did .closeStream]
    let second : List WatchSight :=
      [.did .list, .listed known ⟨some "9", []⟩, telling removal, .did (.stream (some "9") 300)]
    let third : List WatchSight :=
      [.did (.stream (some "9") 300), .did .stopSet, .failed (.other (.crash "script exhausted")), .did (.wait 5)]
    w.runRounds.2 = [first, second, third] ∧
    ResumesFrom (first ++ second) (some "9") ∧ (∃ x ∈ first, x.IsLoss) ∧ Relists script first second ∧
    knownAfter first = known ∧ (known.resync []).1 = [removal] := by
  intro annotations counted other script w known creation removal first second third
  have hlisted : PodAdapter.new.resync [counted] = ([creation], known) := by decide +kernel
  have hreceived : known.convert .modified other = .ok (none, known) := by decide +kernel
  have hgone : known.resync [] = ([removal], .new) := by decide +kernel
  have hrounds : w.runRounds.2 = [first, second, third] := by
    simp [w, script, first, second, third, telling, runRounds, runWithin, new, round, relist, tellAll, tell, stream,
      follow, handle, exhaust, fail, ready, recover, WatchFailure.isExpiry, Progress.settle, Progress.andThen,
      Progress.after, hlisted, hreceived, hgone]
  have hlost : ∃ x ∈ first, x.IsLoss := ⟨.broken, by simp [first], trivial⟩
  obtain ⟨-, -, -, hresume, hrelists⟩ := run_gapless 300 5 script
  have hopened : first ++ second ++ [.did (.stream (some "9") 300)] <+: w.runRounds.2.flatten :=
    ⟨third.tail, by rw [hrounds]; rfl⟩
  have hknown : knownAfter first = known := by simp [knownAfter, first, hear, telling, hlisted, hreceived]
  have hrelisted : Relists script first second := by
    simpa using hrelists [] first second [third] hrounds hlost
  exact ⟨hrounds, hresume _ _ _ hopened, hlost, hrelisted, hknown, congrArg Prod.fst hgone⟩

end PodWatcher

end NetAttach
