/-
  Waiting longer after each failure.

  The first wait for a key is `base`, every further one is twice as long as the one before, and none is longer
  than `limit`.  Times are of any type with the arithmetic that this takes: doubles when the program runs,
  and exact numbers where it is reasoned about.
-/
import NetAttach.Table

namespace NetAttach

/-- The earlier of two times; the first of two that are equal. -/
def earlier {τ : Type} [LT τ] [DecidableLT τ] (a b : τ) : τ := if b < a then b else a

/-- The later of two times; the first of two that are equal. -/
def later {τ : Type} [LT τ] [DecidableLT τ] (a b : τ) : τ := if a < b then b else a

/-- How often keys have failed, and how long to wait for them. -/
structure Backoff (κ τ : Type) where
  base : τ
  limit : τ
  failures : Table κ Nat

namespace Backoff

variable {κ τ : Type} [DecidableEq κ]

/-- No key has failed yet. -/
def new (base limit : τ) : Backoff κ τ := ⟨base, limit, .empty⟩

/-- How often `key` has failed. -/
def count (b : Backoff κ τ) (key : κ) : Nat := b.failures.getD key 0

/-- Nothing is held against `key` any more. -/
def forget (b : Backoff κ τ) (key : κ) : Backoff κ τ := { b with failures := b.failures.erase key }

/-- `x` doubled `n` times. -/
def doubled [Add τ] (x : τ) : Nat → τ
  | 0 => x
  | n + 1 =>
    let half := doubled x n
    half + half

/-- After more failures than this the wait is the limit, without doubling. -/
def mostDoublings : Nat := 62

/-- How long to wait after `n` earlier failures. -/
def delay [Add τ] [LT τ] [DecidableLT τ] (b : Backoff κ τ) (n : Nat) : τ :=
  if mostDoublings < n then b.limit else earlier (doubled b.base n) b.limit

/-- `key` has failed: how long to wait for it now. -/
def fail [Add τ] [LT τ] [DecidableLT τ] (b : Backoff κ τ) (key : κ) : τ × Backoff κ τ :=
  (b.delay (b.count key), { b with failures := b.failures.put key (b.count key + 1) })

/-! ## What is held against a key -/

theorem count_forget (b : Backoff κ τ) (key k : κ) :
    (b.forget key).count k = if k = key then 0 else b.count k := by
  simp only [count, forget, Table.getD, Table.get?_erase]
  split <;> rfl

theorem count_fail [Add τ] [LT τ] [DecidableLT τ] (b : Backoff κ τ) (key k : κ) :
    (b.fail key).2.count k = if k = key then b.count key + 1 else b.count k := by
  simp only [fail, count, Table.getD, Table.get?_put]
  split <;> rfl

example : ((Backoff.new 3 10 : Backoff Nat Nat).delay 1, (Backoff.new 3 10 : Backoff Nat Nat).delay 2) =
    (6, 10) := by decide

end Backoff

end NetAttach
