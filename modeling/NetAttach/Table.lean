/-
  Tables: finite maps kept as a list of entries, no two of which have the same key.

  A new key goes to the end and a key that is there keeps its place, so the entries come in the order in
  which their keys were first entered.  What an operation does is said by what can then be looked up:
  `get?_put` and `get?_erase` below.
-/

namespace NetAttach

/-- A finite map, in the order in which its keys were entered. -/
structure Table (κ α : Type) where
  entries : List (κ × α)
  distinct : (entries.map (·.1)).Nodup

namespace Table

variable {κ α : Type} [DecidableEq κ]

/-- The table without entries. -/
def empty : Table κ α := ⟨[], List.nodup_nil⟩

instance : Inhabited (Table κ α) := ⟨empty⟩

/-- The keys, in order of entry. -/
def keys (t : Table κ α) : List κ := t.entries.map (·.1)

/-- The number of entries. -/
def size (t : Table κ α) : Nat := t.entries.length

/-- The value of `key` in a list of entries. -/
def findEntry (key : κ) : List (κ × α) → Option α
  | [] => none
  | e :: rest => if e.1 = key then some e.2 else findEntry key rest

/-- The value at `key`. -/
def get? (t : Table κ α) (key : κ) : Option α := findEntry key t.entries

/-- The value at `key`, or `other`. -/
def getD (t : Table κ α) (key : κ) (other : α) : α := (t.get? key).getD other

/-- There is a value at `key`. -/
def has (t : Table κ α) (key : κ) : Bool := (t.get? key).isSome

/-- Replace the value of `key` in a list of entries, or add an entry at the end. -/
def putEntry (key : κ) (a : α) : List (κ × α) → List (κ × α)
  | [] => [(key, a)]
  | e :: rest => if e.1 = key then (key, a) :: rest else e :: putEntry key a rest

theorem mem_keys_putEntry {key k : κ} {a : α} {es : List (κ × α)} :
    k ∈ (putEntry key a es).map (·.1) ↔ k = key ∨ k ∈ es.map (·.1) := by
  induction es with
  | nil => simp [putEntry]
  | cons e rest ih =>
    by_cases h : e.1 = key
    · simp only [putEntry, h, if_true, List.map_cons, List.mem_cons]
      constructor
      · rintro (rfl | h') <;> simp_all
      · rintro (rfl | rfl | h') <;> simp_all
    · simp only [putEntry, h, if_false, List.map_cons, List.mem_cons, ih]
      constructor <;> rintro (h' | h' | h') <;> simp_all

theorem nodup_putEntry (key : κ) (a : α) {es : List (κ × α)} (h : (es.map (·.1)).Nodup) :
    ((putEntry key a es).map (·.1)).Nodup := by
  induction es with
  | nil => simp [putEntry]
  | cons e rest ih =>
    simp only [List.map_cons, List.nodup_cons] at h
    by_cases hk : e.1 = key
    · simp only [putEntry, hk, if_true, List.map_cons, List.nodup_cons]
      exact ⟨hk ▸ h.1, h.2⟩
    · simp only [putEntry, hk, if_false, List.map_cons, List.nodup_cons]
      exact ⟨fun hm => (mem_keys_putEntry.mp hm).elim hk h.1, ih h.2⟩

/-- Set the value at `key`. -/
def put (t : Table κ α) (key : κ) (a : α) : Table κ α :=
  ⟨putEntry key a t.entries, nodup_putEntry key a t.distinct⟩

/-- Remove `key` and its value. -/
def erase (t : Table κ α) (key : κ) : Table κ α :=
  ⟨t.entries.filter fun e => e.1 ≠ key, by
    have h := List.filter_sublist (p := fun e : κ × α => decide (e.1 ≠ key)) (l := t.entries)
    exact (h.map _).nodup t.distinct⟩

/-- The table that results from setting one key after another. -/
def ofList (pairs : List (κ × α)) : Table κ α :=
  pairs.foldl (fun t p => t.put p.1 p.2) empty

/-! ## What can be looked up after an operation -/

@[simp] theorem get?_empty (key : κ) : (empty : Table κ α).get? key = none := rfl

theorem findEntry_putEntry (key k : κ) (a : α) (es : List (κ × α)) :
    findEntry k (putEntry key a es) = if k = key then some a else findEntry k es := by
  induction es with
  | nil =>
    by_cases h : k = key
    · simp [putEntry, findEntry, h]
    · simp [putEntry, findEntry, h, Ne.symm h]
  | cons e rest ih =>
    by_cases hk : e.1 = key
    · by_cases h : k = key
      · simp [putEntry, findEntry, hk, h]
      · simp [putEntry, findEntry, hk, h, Ne.symm h]
    · by_cases h : e.1 = k
      · simp [putEntry, findEntry, h, show ¬k = key from h ▸ hk]
      · simp [putEntry, findEntry, hk, h, ih]

theorem get?_put (t : Table κ α) (key k : κ) (a : α) :
    (t.put key a).get? k = if k = key then some a else t.get? k :=
  findEntry_putEntry key k a t.entries

theorem findEntry_filter (key k : κ) (es : List (κ × α)) :
    findEntry k (es.filter fun e => e.1 ≠ key) = if k = key then none else findEntry k es := by
  induction es with
  | nil => simp [findEntry]
  | cons e rest ih =>
    by_cases hk : e.1 = key
    · by_cases h : k = key
      · rw [List.filter_cons_of_neg (by simp [hk]), ih, if_pos h, if_pos h]
      · rw [List.filter_cons_of_neg (by simp [hk]), ih, if_neg h, if_neg h, findEntry,
          if_neg (fun he : e.1 = k => h (he.symm.trans hk))]
    · rw [List.filter_cons_of_pos (by simp [hk]), findEntry, findEntry, ih]
      by_cases h : e.1 = k
      · rw [if_pos h, if_pos h, if_neg (fun he => hk (h.trans he))]
      · rw [if_neg h, if_neg h]

theorem get?_erase (t : Table κ α) (key k : κ) :
    (t.erase key).get? k = if k = key then none else t.get? k :=
  findEntry_filter key k t.entries

theorem findEntry_eq_none {key : κ} {es : List (κ × α)} :
    findEntry key es = none ↔ ∀ e ∈ es, e.1 ≠ key := by
  induction es with
  | nil => simp [findEntry]
  | cons e rest ih =>
    by_cases hk : e.1 = key
    · simp [findEntry, hk]
    · simp [findEntry, hk, ih]

/-- There is nothing to remove. -/
theorem erase_of_get?_eq_none {t : Table κ α} {key : κ} (h : t.get? key = none) : t.erase key = t := by
  have hes : t.entries.filter (fun e => e.1 ≠ key) = t.entries :=
    List.filter_eq_self.mpr fun e he => decide_eq_true (findEntry_eq_none.mp h e he)
  cases t
  simpa [erase] using hes

@[simp] theorem get?_put_self (t : Table κ α) (key : κ) (a : α) :
    (t.put key a).get? key = some a := by simp [get?_put]

@[simp] theorem get?_erase_self (t : Table κ α) (key : κ) : (t.erase key).get? key = none := by
  simp [get?_erase]

end Table

end NetAttach
