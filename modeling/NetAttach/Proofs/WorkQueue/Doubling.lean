/-
  How long a key has to wait.

  Times are exact here.  The first wait of a key is `base`, and every further failure doubles it, up to `limit`.  What
  counts is how often the key has failed since it was last forgotten; other keys do not matter, whatever happens to
  them in between.

  The limit does not come from the doubling alone: after `mostDoublings` failures it is taken at once, as if the doubled
  base had to have reached it by then.  A small base has not, and its key then waits longer than it should.

  Structure:
  1. `BackoffCall` and `Backoff.run`, what is asked of a backoff one call after another;
  2. `recentFailures`, read off the calls, is what the backoff holds against a key (`count_run`);
  3. `wait_eq_formula_iff`, how long the next wait is, and for which base and limit it is as long as it should be.
-/
import Mathlib
import NetAttach.WorkQueue.Backoff

namespace NetAttach

/-- One call: a key has failed, or nothing is held against it any more. -/
inductive BackoffCall (κ : Type) where
  | fail (key : κ)
  | forget (key : κ)
deriving DecidableEq

/-- How often `key` has failed since the last call that forgot it. -/
def recentFailures {κ : Type} [DecidableEq κ] (key : κ) (calls : List (BackoffCall κ)) : Nat :=
  (calls.reverse.takeWhile fun call => call ≠ .forget key).count (.fail key)

namespace Backoff

variable {κ τ : Type} [DecidableEq κ]

section Calls

variable [Add τ] [LT τ] [DecidableLT τ]

/-- The backoff after one call. -/
def step (b : Backoff κ τ) : BackoffCall κ → Backoff κ τ
  | .fail key => (b.fail key).2
  | .forget key => b.forget key

/-- The backoff after some calls, the first of them first. -/
def run (b : Backoff κ τ) (calls : List (BackoffCall κ)) : Backoff κ τ := calls.foldl step b

theorem run_snoc (b : Backoff κ τ) (calls : List (BackoffCall κ)) (call : BackoffCall κ) :
    b.run (calls ++ [call]) = (b.run calls).step call :=
  List.foldl_append

/-- Calls are about failures alone. -/
theorem delay_run (b : Backoff κ τ) (calls : List (BackoffCall κ)) (n : Nat) :
    (b.run calls).delay n = b.delay n := by
  induction calls using List.reverseRecOn with
  | nil => rfl
  | append_singleton calls call ih =>
    rw [run_snoc, ← ih]
    cases call <;> rfl

end Calls

/-! ## How often a key has failed -/

theorem recentFailures_snoc (key : κ) (calls : List (BackoffCall κ)) (call : BackoffCall κ) :
    recentFailures key (calls ++ [call]) =
      if call = .forget key then 0
      else if call = .fail key then recentFailures key calls + 1 else recentFailures key calls := by
  unfold recentFailures
  rw [List.reverse_append, List.reverse_singleton, List.singleton_append, List.takeWhile_cons]
  by_cases hforget : call = .forget key
  · rw [if_neg (by simpa using hforget), if_pos hforget, List.count_nil]
  · rw [if_pos (by simpa using hforget), if_neg hforget, List.count_cons]
    by_cases hfail : call = .fail key
    · rw [if_pos (by simpa using hfail), if_pos hfail]
    · rw [if_neg (by simpa using hfail), if_neg hfail, Nat.add_zero]

/-- What is held against a key can be read off the calls. -/
theorem count_run [Add τ] [LT τ] [DecidableLT τ] (base limit : τ) (calls : List (BackoffCall κ)) (key : κ) :
    ((new base limit).run calls).count key = recentFailures key calls := by
  induction calls using List.reverseRecOn with
  | nil => rfl
  | append_singleton calls call ih =>
    rw [run_snoc, recentFailures_snoc]
    cases call with
    | forget k =>
      have hforget : (BackoffCall.forget k = .forget key) ↔ key = k :=
        ⟨fun h => (BackoffCall.forget.inj h).symm, fun h => congrArg BackoffCall.forget h.symm⟩
      rw [step, count_forget, ih, if_neg (show ¬BackoffCall.forget k = .fail key from (nomatch ·))]
      simp only [hforget]
    | fail k =>
      have hfail : (BackoffCall.fail k = .fail key) ↔ key = k :=
        ⟨fun h => (BackoffCall.fail.inj h).symm, fun h => congrArg BackoffCall.fail h.symm⟩
      rw [step, count_fail, if_neg (show ¬BackoffCall.fail k = .forget key from (nomatch ·))]
      simp only [hfail]
      by_cases hk : key = k
      · subst hk
        rw [if_pos rfl, if_pos rfl, ih]
      · rw [if_neg hk, if_neg hk, ih]

/-! ## How long it waits -/

theorem doubled_eq [Semiring τ] (x : τ) (n : Nat) : doubled x n = x * 2 ^ n := by
  induction n with
  | zero => rw [doubled, pow_zero, mul_one]
  | succ n ih => rw [doubled, ih, pow_succ, ← mul_assoc, mul_two]

theorem earlier_eq_min [LinearOrder τ] (a b : τ) : earlier a b = min a b := by
  unfold earlier
  by_cases h : b < a
  · rw [if_pos h, min_eq_right h.le]
  · rw [if_neg h, min_eq_left (not_lt.mp h)]

theorem recentFailures_replicate (key : κ) (n : Nat) :
    recentFailures key (List.replicate n (.fail key)) = n := by
  induction n with
  | zero => rfl
  | succ n ih => rw [List.replicate_succ', recentFailures_snoc, if_neg (nomatch ·), if_pos rfl, ih]

section Exact

variable [Semiring τ] [LinearOrder τ]

omit [DecidableEq κ] in
/-- A key that has failed `n` times in a row waits so long when it fails again. -/
theorem delay_eq (b : Backoff κ τ) (n : Nat) :
    b.delay n = if n ≤ mostDoublings then min (b.base * 2 ^ n) b.limit else b.limit := by
  unfold delay
  by_cases h : n ≤ mostDoublings
  · rw [if_neg (not_lt.mpr h), if_pos h, doubled_eq, earlier_eq_min]
  · rw [if_pos (not_le.mp h), if_neg h]

theorem wait_run (base limit : τ) (calls : List (BackoffCall κ)) (key : κ) :
    (((new base limit).run calls).fail key).1 = (new base limit : Backoff κ τ).delay (recentFailures key calls) := by
  show ((new base limit).run calls).delay (((new base limit).run calls).count key) = _
  rw [delay_run, count_run]

/-- **Waits double up to the limit, if the limit is reached in time.**  After any calls on any keys, a key that fails
for the `n + 1`st time since it was last forgotten waits `base * 2 ^ n`, at most `limit`, as long as `n` is at most 62;
from then on it waits `limit`.  So it always waits as long as the formula says exactly when `base * 2 ^ 63` is at
least `limit`. -/
theorem wait_eq_formula_iff [IsStrictOrderedRing τ] {base : τ} (hbase : 0 ≤ base) (limit : τ) (key : κ) :
    let wait := fun calls => (((new base limit).run calls).fail key).1
    let formula := fun calls => min (base * 2 ^ recentFailures key calls) limit
    (∀ calls, wait calls = if recentFailures key calls ≤ 62 then formula calls else limit) ∧
    ((∀ calls, wait calls = formula calls) ↔ limit ≤ base * 2 ^ 63) := by
  intro wait formula
  have hwait : ∀ calls, wait calls = if recentFailures key calls ≤ 62 then formula calls else limit :=
    fun calls => (wait_run base limit calls key).trans (delay_eq _ _)
  refine ⟨hwait, fun hall => ?_, fun hreached calls => ?_⟩
  · -- the 64th failure in a row is the first one for which nothing is doubled
    have hfailed : recentFailures key (List.replicate 63 (.fail key)) = 63 := recentFailures_replicate key 63
    have hlimit := hwait (List.replicate 63 (.fail key))
    rw [hfailed, if_neg (by decide)] at hlimit
    have hformula := hall (List.replicate 63 (.fail key))
    rw [hlimit] at hformula
    have hmin : limit = min (base * 2 ^ 63) limit := by
      rw [← hfailed]
      exact hformula
    exact min_eq_right_iff.mp hmin.symm
  · rw [hwait]
    by_cases hfew : recentFailures key calls ≤ 62
    · rw [if_pos hfew]
    · have hmany : 63 ≤ recentFailures key calls := Nat.lt_of_not_le hfew
      have hpower : (2 : τ) ^ 63 ≤ 2 ^ recentFailures key calls := pow_le_pow_right₀ one_le_two hmany
      have hmore : base * 2 ^ 63 ≤ base * 2 ^ recentFailures key calls := mul_le_mul_of_nonneg_left hpower hbase
      rw [if_neg hfew]
      exact (min_eq_right (hreached.trans hmore)).symm

end Exact

/-- Without a base no key should ever wait, but one that fails for the 64th time in a row waits for the limit. -/
theorem not_wait_eq_formula_of_base_zero :
    let calls : List (BackoffCall Nat) := List.replicate 63 (.fail 7)
    let start : Backoff Nat Rat := .new 0 1000
    recentFailures 7 calls = 63 ∧ ((start.run calls).fail 7).1 = 1000 ∧
      min (0 * 2 ^ recentFailures 7 calls) (1000 : Rat) = 0 ∧
      ¬∀ calls, ((start.run calls).fail 7).1 = min (0 * 2 ^ recentFailures 7 calls) 1000 := by
  intro calls start
  have hfailed : recentFailures 7 calls = 63 := recentFailures_replicate 7 63
  obtain ⟨hwait, hiff⟩ := @wait_eq_formula_iff Nat Rat _ _ _ _ 0 (le_refl 0) 1000 7
  refine ⟨hfailed, ?_, ?_, fun hall => ?_⟩
  · have hlimit := hwait calls
    rw [hfailed, if_neg (by decide)] at hlimit
    exact hlimit
  · rw [zero_mul]
    exact min_eq_left (by norm_num)
  · have hreached : (1000 : Rat) ≤ 0 * 2 ^ 63 := hiff.mp hall
    rw [zero_mul] at hreached
    exact absurd hreached (by norm_num)

end Backoff

end NetAttach
