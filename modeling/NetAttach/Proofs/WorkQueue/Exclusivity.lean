/-
  A key has at most one holder.

  Callers share a queue: they add keys in every way there is, ask for keys, let time go by and shut the queue
  down, in any order.  The one rule is that only the holder of a key says that it is done.  `InUse` is the
  shared queue together with the record of who was handed what, and `Reachable` are the states that such
  callers can bring about.

  The invariant is `Kept`: the queue is sound, and the record agrees with the keys that are processing.  Each
  operation keeps it (`Kept.perform`), so every run does, and `exclusive_of_reachable` reads off the result.
-/
import NetAttach.Proofs.WorkQueue.Soundness

namespace NetAttach

/-- A place that callers share, with the keys that each of them was handed and is not done with. -/
structure InUse (κ τ σ : Type) where
  place : Workplace κ τ σ
  held : List (Nat × κ)

/-- What callers do. -/
inductive Operation (κ τ : Type) where
  | add (key : κ)
  | addAfter (key : κ) (delay : τ)
  | addRateLimited (key : κ)
  | forget (key : κ)
  /-- Ask for a key and stand back if there is none, so that others can come before the next look. -/
  | look (caller : Nat) (deadline : Option τ)
  /-- Ask for a key and wait for it while nobody else does anything. -/
  | get (caller : Nat) (timeout : Option τ)
  | done (caller : Nat) (key : κ)
  | shutDown
  | advance (d : τ)

namespace InUse

variable {κ τ σ : Type}

/-- Hand the key that was given, if one was, to the caller who asked. -/
def hand (s : InUse κ τ σ) (caller : Nat) (given : Option κ) (queue : WorkQueue κ τ) (now : τ) :
    InUse κ τ σ :=
  { place := { s.place with queue, now }
    held := given.toList.map (fun key => (caller, key)) ++ s.held }

theorem mem_held_hand (s : InUse κ τ σ) (caller : Nat) (given : Option κ) (queue : WorkQueue κ τ)
    (now : τ) (i : Nat) (k : κ) :
    (i, k) ∈ (s.hand caller given queue now).held ↔
      (i, k) ∈ s.held ∨ i = caller ∧ given = some k := by
  cases given with
  | none => simp [hand]
  | some key =>
    simp only [hand, Option.toList_some, List.map_cons, List.map_nil, List.mem_append,
      List.mem_singleton, Prod.mk.injEq, Option.some.injEq]
    constructor
    · rintro (⟨hi, hk⟩ | hm)
      · exact Or.inr ⟨hi, hk.symm⟩
      · exact Or.inl hm
    · rintro (hm | ⟨hi, hk⟩)
      · exact Or.inr hm
      · exact Or.inl ⟨hi, hk.symm⟩

/-- The queue is sound, and what is processing is what callers hold. -/
structure Kept (s : InUse κ τ σ) : Prop where
  sound : s.place.queue.Sound
  heldBy : s.place.queue.HeldBy fun caller key => (caller, key) ∈ s.held

variable [DecidableEq κ]

theorem Kept.hand {s : InUse κ τ σ} (h : Kept s) (caller : Nat) {given : Option κ}
    {queue : WorkQueue κ τ} (hg : s.place.queue.Given given queue) (now : τ) :
    Kept (s.hand caller given queue now) :=
  ⟨hg.sound, (hg.heldBy h.heldBy caller).2.of_iff (mem_held_hand s caller given queue now)⟩

variable [Add τ] [Sub τ] [Zero τ] [LE τ] [DecidableLE τ] [LT τ] [DecidableLT τ]

/-- The state after an operation. -/
def perform (s : InUse κ τ σ) : Operation κ τ → InUse κ τ σ
  | .add key => { s with place := s.place.add key }
  | .addAfter key delay => { s with place := s.place.addAfter key delay }
  | .addRateLimited key => { s with place := s.place.addRateLimited key }
  | .forget key => { s with place := s.place.forget key }
  | .look caller deadline =>
    let (l, queue) := s.place.queue.look deadline s.place.now
    s.hand caller l.key? queue s.place.now
  | .get caller timeout =>
    let (h, queue, now) := s.place.queue.get s.place.now timeout
    s.hand caller h.key? queue now
  | .done caller key =>
    { place := s.place.done key, held := s.held.filter fun p => p ≠ (caller, key) }
  | .shutDown => { s with place := s.place.shutDown }
  | .advance d => { s with place := s.place.advance d }

/-- Only the holder of a key may say that it is done. -/
def Allowed (s : InUse κ τ σ) : Operation κ τ → Prop
  | .done caller key => (caller, key) ∈ s.held
  | _ => True

instance (s : InUse κ τ σ) : (op : Operation κ τ) → Decidable (s.Allowed op)
  | .done caller key => inferInstanceAs (Decidable ((caller, key) ∈ s.held))
  | .add _ | .addAfter _ _ | .addRateLimited _ | .forget _ | .look _ _ | .get _ _ | .shutDown
  | .advance _ => isTrue trivial

/-- The states that callers can bring about who start with an empty queue and keep to the rule. -/
inductive Reachable (start : Workplace κ τ σ) : InUse κ τ σ → Prop where
  | start : Reachable start ⟨{ start with queue := .empty }, []⟩
  | next {s : InUse κ τ σ} (op : Operation κ τ) :
    Reachable start s → s.Allowed op → Reachable start (s.perform op)

/-! ## The invariant -/

/-- Every operation keeps the invariant. -/
theorem Kept.perform {s : InUse κ τ σ} (h : Kept s) (op : Operation κ τ) (ha : s.Allowed op) :
    Kept (s.perform op) := by
  cases op with
  | add key => exact ⟨h.sound.add key, h.heldBy.congr (WorkQueue.processing_add _ key)⟩
  | addAfter key delay =>
    exact ⟨h.sound.addAfter _ key delay, h.heldBy.congr (WorkQueue.processing_addAfter _ _ key delay)⟩
  | addRateLimited key =>
    exact ⟨h.sound.addAfter _ key _, h.heldBy.congr (WorkQueue.processing_addAfter _ _ key _)⟩
  | forget key => exact ⟨h.sound, h.heldBy⟩
  | look caller deadline => exact h.hand caller (h.sound.look_given deadline s.place.now) _
  | get caller timeout => exact h.hand caller (h.sound.get_given s.place.now timeout) _
  | done caller key =>
    have hkey : key ∈ s.place.queue.processing := (h.heldBy.mem_processing key).mpr ⟨caller, ha⟩
    refine ⟨h.sound.done hkey, ?_⟩
    refine (h.heldBy.done h.sound).of_iff fun i k => ?_
    -- nobody but the caller holds the key, so taking it from the caller is taking it from all
    simp only [InUse.perform, List.mem_filter, decide_eq_true_eq, ne_eq, Prod.mk.injEq]
    constructor
    · rintro ⟨hi, hne⟩
      exact ⟨hi, fun hk => hne ⟨h.heldBy.unique i caller key (hk ▸ hi) ha, hk⟩⟩
    · rintro ⟨hi, hne⟩
      exact ⟨hi, fun he => hne he.2⟩
  | shutDown => exact ⟨h.sound.shutDown, h.heldBy.congr rfl⟩
  | advance d => exact ⟨h.sound, h.heldBy⟩

theorem Reachable.kept {start : Workplace κ τ σ} {s : InUse κ τ σ} (h : Reachable start s) :
    Kept s := by
  induction h with
  | start => exact ⟨WorkQueue.sound_empty, fun k => by simp [WorkQueue.empty], by simp⟩
  | next op _ ha ih => exact ih.perform op ha

/-! ## The result -/

/-- **A key has at most one holder.**  Whatever callers do, as long as only holders are done with keys: no key
is ready twice, a key is ready exactly when it is dirty and not processing, and a key that a caller is given,
at once or after waiting, is held by no other. -/
theorem exclusive_of_reachable {start : Workplace κ τ σ} {s : InUse κ τ σ} (h : Reachable start s) :
    s.place.queue.ready.Nodup ∧
    (∀ key, key ∈ s.place.queue.ready ↔
      key ∈ s.place.queue.dirty ∧ key ∉ s.place.queue.processing) ∧
    (∀ deadline key, (s.place.queue.look deadline s.place.now).1 = .answer (.key key) →
      ∀ caller, (caller, key) ∉ s.held) ∧
    (∀ timeout key, (s.place.take timeout).1 = .key key → ∀ caller, (caller, key) ∉ s.held) := by
  have hk := h.kept
  refine ⟨hk.sound.ready_nodup, hk.sound.mem_ready, ?_, ?_⟩
  · intro deadline key hl
    have hg := hk.sound.look_given deadline s.place.now
    exact (hg.heldBy hk.heldBy 0).1 key (by rw [hl]; rfl)
  · intro timeout key ht
    have hg := hk.sound.get_given s.place.now timeout
    have hk' : (s.place.queue.get s.place.now timeout).1 = .key key := ht
    exact (hg.heldBy hk.heldBy 0).1 key (by rw [hk']; rfl)

/-- Two callers were handed 1 and 2, 2 was done and added again, and 1 became dirty once more: the next caller
gets 2, and 1 stays with its holder. -/
theorem exclusive_of_two_callers :
    let s := ([.add 1, .look 0 none, .add 2, .look 1 none, .done 1 2, .add 2, .add 1].foldl
      InUse.perform ⟨.new 1 10 0 (), []⟩ : InUse Nat Nat Unit)
    s.held = [(0, 1)] ∧ (s.place.take none).1 = .key 2 ∧ ∀ caller, (caller, 2) ∉ s.held := by
  intro s
  have h₀ : Reachable (.new 1 10 0 ()) (⟨.new 1 10 0 (), []⟩ : InUse Nat Nat Unit) := .start
  have h₂ := ((h₀.next (.add 1) trivial).next (.look 0 none) trivial).next (.add 2) trivial
  have h₄ := (h₂.next (.look 1 none) trivial).next (.done 1 2) (by decide)
  have h : Reachable (.new 1 10 0 ()) s := (h₄.next (.add 2) trivial).next (.add 1) trivial
  exact ⟨by decide, by decide, (exclusive_of_reachable h).2.2.2 none 2 (by decide)⟩

end InUse

end NetAttach
