/-
  What is published follows the totals.

  A change of a total is published while the store is still locked, so what a listener has heard between two
  operations is up to date, however the operations of several workers are mixed: the changes it was told of a
  label sum up to the total of the label, and if the gauge of the label is published, the last that was said is
  whether the total is positive (`published_follows_totals`).

  Structure:
  1. `sumOf` and `lastSaid`: what a listener knows of a label from what it has heard;
  2. `Publication.Follows`: what was heard and the store agree; kept by a change of a total
     (`Follows.adjust`) and by everything that is silent (`Follows.silent`), hence by each step of a task
     (`Follows.step`), whatever the task.
-/
import NetAttach.Proofs.Usage.Team

namespace NetAttach

/-! ## What a listener knows -/

namespace UsageEvent

/-- The change of a label that is told. -/
def changeOf (l : Text) : UsageEvent → Int
  | add label delta => if label = l then delta else 0
  | _ => 0

/-- What is said of a label. -/
def saysOf (l : Text) : UsageEvent → Option Bool
  | enable label up => if label = l then some up else none
  | _ => none

/-- The sum of all changes of a label. -/
def sumOf (l : Text) (events : List UsageEvent) : Int := (events.map (changeOf l)).sum

/-- What was last said of a label, if anything was. -/
def lastSaid (l : Text) (events : List UsageEvent) : Option Bool := (events.filterMap (saysOf l)).getLast?

theorem sumOf_append (l : Text) (events more : List UsageEvent) :
    sumOf l (events ++ more) = sumOf l events + sumOf l more := by
  rw [sumOf, List.map_append, List.sum_append]
  rfl

theorem lastSaid_append (l : Text) (events more : List UsageEvent) :
    lastSaid l (events ++ more) = (lastSaid l more).or (lastSaid l events) := by
  rw [lastSaid, List.filterMap_append, List.getLast?_append]
  rfl

/-- Something was last said of a label only if it was said. -/
theorem enable_mem_of_lastSaid {l : Text} {events : List UsageEvent} {up : Bool}
    (h : lastSaid l events = some up) : .enable l up ∈ events := by
  obtain ⟨e, he, hsays⟩ := List.mem_filterMap.mp (List.mem_of_getLast? h)
  cases e with
  | enable label value =>
    by_cases hl : label = l
    · subst hl
      obtain rfl : value = up := by simpa [saysOf] using hsays
      exact he
    · simp [saysOf, hl] at hsays
  | request name ns => exact nomatch hsays
  | add label delta => exact nomatch hsays

/-- A listener is told nothing. -/
def Silent (events : List UsageEvent) : Prop := ∀ e ∈ events, ∃ name ns, e = .request name ns

theorem Silent.sumOf {events : List UsageEvent} (h : Silent events) (l : Text) : sumOf l events = 0 := by
  refine List.sum_eq_zero fun x hx => ?_
  obtain ⟨e, he, rfl⟩ := List.mem_map.mp hx
  obtain ⟨name, ns, rfl⟩ := h e he
  rfl

theorem Silent.lastSaid {events : List UsageEvent} (h : Silent events) (l : Text) :
    lastSaid l events = none := by
  cases hs : UsageEvent.lastSaid l events with
  | none => rfl
  | some up =>
    obtain ⟨name, ns, he⟩ := h _ (enable_mem_of_lastSaid hs)
    exact nomatch he

end UsageEvent

/-! ## What was heard and the store -/

namespace Publication

open UsageEvent

theorem covers_iff {p : Publication} {l : Text} :
    p.covers l = true ↔ ∀ labels, p.labels = some labels → l ∈ labels := by
  unfold covers
  cases p.labels with
  | none => simp
  | some labels => simp

/-- What was heard agrees with the totals of the store: of each label the changes sum up to its total, and what was
last said is whether the total is positive; of a label whose gauge is published something was said if a change of
it was told, and of other labels nothing is ever said. -/
structure Follows (p : Publication) (events : List UsageEvent) (s : UsageStore) : Prop where
  sum : ∀ l, sumOf l events = s.total l
  last : ∀ l up, lastSaid l events = some up → up = decide (0 < s.total l)
  said : ∀ l delta, p.covers l → .add l delta ∈ events → (lastSaid l events).isSome
  only : ∀ l up, .enable l up ∈ events → p.covers l

theorem follows_empty (p : Publication) : Follows p [] .empty where
  sum _ := rfl
  last _ _ h := nomatch h
  said _ _ _ h := nomatch h
  only _ _ h := nomatch h

/-- An operation that publishes nothing and changes no total. -/
theorem Follows.silent {p : Publication} {events : List UsageEvent} {s u : UsageStore}
    (h : Follows p events s) {more : List UsageEvent} (hmore : Silent more)
    (htotal : ∀ l, u.total l = s.total l) : Follows p (events ++ more) u := by
  have hlast : ∀ l, lastSaid l (events ++ more) = lastSaid l events := fun l => by
    rw [lastSaid_append, hmore.lastSaid l, Option.none_or]
  refine ⟨fun l => ?_, fun l up hup => ?_, fun l delta hl hmem => ?_, fun l up hmem => ?_⟩
  · rw [sumOf_append, hmore.sumOf l, Int.add_zero, htotal l]
    exact h.sum l
  · rw [htotal l]
    exact h.last l up (hlast l ▸ hup)
  · rw [hlast l]
    rcases List.mem_append.mp hmem with hmem | hmem
    · exact h.said l delta hl hmem
    · obtain ⟨name, ns, he⟩ := hmore _ hmem
      exact nomatch he
  · rcases List.mem_append.mp hmem with hmem | hmem
    · exact h.only l up hmem
    · obtain ⟨name, ns, he⟩ := hmore _ hmem
      exact nomatch he

/-! What is published of one change. -/

theorem sumOf_ofChange {p : Publication} (hp : p.heard) (label l : Text) (delta total : Int) :
    sumOf l (p.ofChange label delta total) = if l = label then delta else 0 := by
  rw [ofChange, if_pos hp]
  split <;> simp [sumOf, changeOf, eq_comm]

theorem lastSaid_ofChange {p : Publication} (hp : p.heard) (label l : Text) (delta total : Int) :
    lastSaid l (p.ofChange label delta total) =
      if l = label ∧ p.covers label then some (decide (0 < total)) else none := by
  rw [ofChange, if_pos hp]
  by_cases hc : p.covers label = true
  · by_cases hl : l = label
    · simp [lastSaid, saysOf, hc, hl]
    · simp [lastSaid, saysOf, hc, hl, Ne.symm hl]
  · simp [lastSaid, saysOf, hc]

theorem add_mem_ofChange {p : Publication} {label l : Text} {delta d total : Int}
    (h : .add l d ∈ p.ofChange label delta total) : l = label := by
  unfold ofChange at h
  split at h
  · split at h <;> simp at h <;> exact h.1
  · exact nomatch h

theorem enable_mem_ofChange {p : Publication} {label l : Text} {delta total : Int} {up : Bool}
    (h : .enable l up ∈ p.ofChange label delta total) : p.covers l := by
  unfold ofChange at h
  split at h
  · split at h
    · rename_i hc
      simp at h
      exact h.1 ▸ hc
    · simp at h
  · exact nomatch h

/-- A total is changed, and the change is published with the new total. -/
theorem Follows.adjust {p : Publication} {events : List UsageEvent} {s : UsageStore}
    (h : Follows p events s) (hp : p.heard) (label : Text) (delta : Int) :
    Follows p (events ++ p.ofChange label delta ((s.adjust label delta).total label))
      (s.adjust label delta) := by
  refine ⟨fun l => ?_, fun l up hup => ?_, fun l d hl hmem => ?_, fun l up hmem => ?_⟩
  · rw [sumOf_append, sumOf_ofChange hp, h.sum l, UsageStore.total_adjust]
  · rw [lastSaid_append, lastSaid_ofChange hp] at hup
    by_cases hl : l = label
    · subst hl
      by_cases hc : p.covers l = true
      · rw [if_pos ⟨rfl, hc⟩, Option.some_or] at hup
        exact (Option.some.inj hup).symm
      · -- nothing is ever said of a label whose gauge is not published
        rw [if_neg fun hlc => hc hlc.2, Option.none_or] at hup
        exact absurd (h.only l up (enable_mem_of_lastSaid hup)) hc
    · rw [if_neg fun hlc => hl hlc.1, Option.none_or] at hup
      rw [UsageStore.total_adjust, if_neg hl, Int.add_zero]
      exact h.last l up hup
  · rw [lastSaid_append, lastSaid_ofChange hp]
    by_cases hlabel : l = label
    · rw [if_pos ⟨hlabel, hlabel ▸ hl⟩, Option.some_or]
      rfl
    · rw [if_neg fun hlc => hlabel hlc.1, Option.none_or]
      rcases List.mem_append.mp hmem with hmem | hmem
      · exact h.said l d hl hmem
      · exact absurd (add_mem_ofChange hmem) hlabel
  · rcases List.mem_append.mp hmem with hmem | hmem
    · exact h.only l up hmem
    · exact enable_mem_ofChange hmem

/-- The first operation of a task, one case for each kind of operation. -/
theorem Follows.step {α : Type} {p : Publication} {events : List UsageEvent} {s : UsageStore}
    (h : Follows p events s) (hp : p.heard) (lookup : Text → Text → Lookup) (t : UsageTask α) :
    Follows p (events ++ (t.step p lookup s).2.2) (t.step p lookup s).2.1 := by
  have hquiet : Silent [] := fun e he => nomatch he
  cases t with
  | done a => exact h.silent hquiet fun _ => rfl
  | fail f => exact h.silent hquiet fun _ => rfl
  | remembered key next => exact h.silent hquiet fun _ => rfl
  | forget key next => exact h.silent hquiet fun l => UsageStore.total_forget s key l
  | remember key combination next =>
    exact h.silent hquiet fun l => UsageStore.total_remember s key combination l
  | adjust label delta next => exact h.adjust hp label delta
  | request name ns next =>
    refine h.silent (fun e he => ?_) fun _ => rfl
    exact ⟨name, ns, List.mem_singleton.mp he⟩

end Publication

/-! ## What several workers publish -/

namespace UsageTeam

open UsageEvent

/-- **What is published follows the totals.**  Any number of workers make any calls on a store in which nothing
is tracked, and their operations are mixed in any way, with whatever the cluster answers to each.  Between two
operations the changes that were told of a label sum up to its total; what was last said of a label whose gauge
is published is whether its total is positive; something was said of such a label if a change of it was told; and
nothing was ever said of a label that is not among those whose gauges are published. -/
theorem published_follows_totals [Nesting] (labels : Option (List Text)) {ι : Type} [DecidableEq ι]
    (calls : ι → List UsageCall) (moves : List (ι × (Text → Text → Lookup))) :
    let p : Publication := ⟨true, labels⟩
    let t := (start p .empty calls).run p moves
    (∀ l, sumOf l t.events = t.store.total l) ∧
    (∀ l up, p.covers l → lastSaid l t.events = some up → (up = true ↔ 0 < t.store.total l)) ∧
    (∀ l delta, p.covers l → .add l delta ∈ t.events → ∃ up, .enable l up ∈ t.events) ∧
    (∀ l up, .enable l up ∈ t.events → ∀ covered, labels = some covered → l ∈ covered) := by
  intro p t
  have h : p.Follows t.events t.store :=
    run_induct p (motive := fun t => p.Follows t.events t.store)
      (fun t lookup worker ht => ht.step rfl lookup (t.task worker)) (Publication.follows_empty p) moves
  refine ⟨h.sum, fun l up _ hup => ?_, fun l delta hl hmem => ?_, fun l up hmem => ?_⟩
  · rw [h.last l up hup, decide_eq_true_iff]
  · obtain ⟨up, hup⟩ := Option.isSome_iff_exists.mp (h.said l delta hl hmem)
    exact ⟨up, enable_mem_of_lastSaid hup⟩
  · exact Publication.covers_iff.mp (h.only l up hmem)

end UsageTeam

end NetAttach
