/-
  What is remembered about the use of networks.

  For each tracked pod the store keeps the combination of plugin types it was counted with, and for each
  label a total.  Every operation below happens under one lock: several workers may share a store, and what
  they do to it is a sequence of these operations in some order.
-/
import NetAttach.Table
import NetAttach.Text.CodePoint

namespace NetAttach

/-- Combinations by the key of the pod, and totals by label. -/
structure UsageStore where
  combinations : Table Text Text
  totals : Table Text Int

namespace UsageStore

/-- The store in which nothing is tracked. -/
def empty : UsageStore := ⟨.empty, .empty⟩

instance : Inhabited UsageStore := ⟨empty⟩

/-- The combination that `key` was counted with, if it is tracked. -/
def remembered (s : UsageStore) (key : Text) : Option Text := s.combinations.get? key

/-- Track `key` with a combination. -/
def remember (s : UsageStore) (key combination : Text) : UsageStore :=
  { s with combinations := s.combinations.put key combination }

/-- Stop tracking `key`. -/
def forget (s : UsageStore) (key : Text) : UsageStore :=
  { s with combinations := s.combinations.erase key }

/-- The total of a label; a label that was never counted has none, which is zero. -/
def total (s : UsageStore) (label : Text) : Int := s.totals.getD label 0

/-- Add to the total of a label. -/
def adjust (s : UsageStore) (label : Text) (delta : Int) : UsageStore :=
  { s with totals := s.totals.put label (s.total label + delta) }

/-! ## What an operation changes -/

theorem remembered_remember (s : UsageStore) (key combination k : Text) :
    (s.remember key combination).remembered k = if k = key then some combination else s.remembered k :=
  Table.get?_put _ _ _ _

theorem remembered_forget (s : UsageStore) (key k : Text) :
    (s.forget key).remembered k = if k = key then none else s.remembered k :=
  Table.get?_erase _ _ _

@[simp] theorem remembered_adjust (s : UsageStore) (label k : Text) (delta : Int) :
    (s.adjust label delta).remembered k = s.remembered k := rfl

theorem total_adjust (s : UsageStore) (label l : Text) (delta : Int) :
    (s.adjust label delta).total l = s.total l + if l = label then delta else 0 := by
  simp only [adjust, total, Table.getD, Table.get?_put]
  by_cases h : l = label
  · simp [h]
  · simp [h]

@[simp] theorem total_remember (s : UsageStore) (key combination l : Text) :
    (s.remember key combination).total l = s.total l := rfl

@[simp] theorem total_forget (s : UsageStore) (key l : Text) : (s.forget key).total l = s.total l := rfl

end UsageStore

end NetAttach
