/-
  Decoded data: what a JSON or YAML document holds.

  A value is a scalar or a collection: a list, a mapping, a pair or a set.  A mapping is a list of entries in
  the order in which its keys were first met, and its keys are scalars, so "a list cannot be a key" is a matter
  of types.  JSON has no pairs and no sets.

  A collection in a YAML document can hold itself.  Such a collection has a name (`loop`), and where it is met
  inside itself only its name stands (`again`).  Who takes the parts of a collection (`asList?`, `asMapping?`)
  gets whole values, in which every name is explained.
-/
import NetAttach.Scalar

namespace NetAttach

/-- The collections that can hold themselves. -/
inductive Shape where
  | list
  | mapping
  | pair
deriving DecidableEq

/-- Data of any shape. -/
inductive Value where
  | scalar (s : Scalar)
  | list (items : List Value)
  | mapping (entries : List (Scalar × Value))
  | pair (first second : Value)
  | set (members : List Scalar)
  /-- A collection that holds itself, under a name that stands for it inside. -/
  | loop (name : Nat) (v : Value)
  /-- A collection around this place, by its name. -/
  | again (name : Nat) (shape : Shape)

/-- The entries of a mapping, in the order of their keys' first appearance. -/
abbrev Entries := List (Scalar × Value)

namespace Value

@[match_pattern] abbrev null : Value := .scalar .null
@[match_pattern] abbrev bool (b : Bool) : Value := .scalar (.bool b)
@[match_pattern] abbrev int (n : Int) : Value := .scalar (.int n)
@[match_pattern] abbrev float (x : Float) : Value := .scalar (.float x)
@[match_pattern] abbrev text (t : Text) : Value := .scalar (.text t)

instance : Inhabited Value := ⟨.null⟩

/-! ## Equality of values can be decided -/

mutual

/-- Decide whether two values are equal. -/
def decideEq : (a b : Value) → Decidable (a = b)
  | .scalar s, b =>
    match b with
    | .scalar t => if h : s = t then isTrue (by rw [h]) else isFalse (by simp [h])
    | .list _ | .mapping _ | .pair _ _ | .set _ | .loop _ _ | .again _ _ => isFalse nofun
  | .list xs, b =>
    match b with
    | .list ys =>
      match decideEqItems xs ys with
      | isTrue h => isTrue (by rw [h])
      | isFalse h => isFalse (by simp [h])
    | .scalar _ | .mapping _ | .pair _ _ | .set _ | .loop _ _ | .again _ _ => isFalse nofun
  | .mapping xs, b =>
    match b with
    | .mapping ys =>
      match decideEqEntries xs ys with
      | isTrue h => isTrue (by rw [h])
      | isFalse h => isFalse (by simp [h])
    | .scalar _ | .list _ | .pair _ _ | .set _ | .loop _ _ | .again _ _ => isFalse nofun
  | .pair x y, b =>
    match b with
    | .pair z w =>
      match decideEq x z, decideEq y w with
      | isTrue h, isTrue k => isTrue (by rw [h, k])
      | isFalse h, _ => isFalse (by simp [h])
      | _, isFalse k => isFalse (by simp [k])
    | .scalar _ | .list _ | .mapping _ | .set _ | .loop _ _ | .again _ _ => isFalse nofun
  | .set xs, b =>
    match b with
    | .set ys => if h : xs = ys then isTrue (by rw [h]) else isFalse (by simp [h])
    | .scalar _ | .list _ | .mapping _ | .pair _ _ | .loop _ _ | .again _ _ => isFalse nofun
  | .loop m x, b =>
    match b with
    | .loop n y =>
      if h : m = n then
        match decideEq x y with
        | isTrue k => isTrue (by rw [h, k])
        | isFalse k => isFalse (by simp [k])
      else isFalse (by simp [h])
    | .scalar _ | .list _ | .mapping _ | .pair _ _ | .set _ | .again _ _ => isFalse nofun
  | .again m s, b =>
    match b with
    | .again n t => if h : m = n ∧ s = t then isTrue (by rw [h.1, h.2]) else isFalse (by simpa using h)
    | .scalar _ | .list _ | .mapping _ | .pair _ _ | .set _ | .loop _ _ => isFalse nofun

/-- Decide whether two lists of values are equal. -/
def decideEqItems : (xs ys : List Value) → Decidable (xs = ys)
  | [], [] => isTrue rfl
  | x :: xs, y :: ys =>
    match decideEq x y, decideEqItems xs ys with
    | isTrue h, isTrue k => isTrue (by rw [h, k])
    | isFalse h, _ => isFalse (by simp [h])
    | _, isFalse k => isFalse (by simp [k])
  | [], _ :: _ => isFalse nofun
  | _ :: _, [] => isFalse nofun

/-- Decide whether two lists of entries are equal. -/
def decideEqEntries : (xs ys : List (Scalar × Value)) → Decidable (xs = ys)
  | [], [] => isTrue rfl
  | (s, x) :: xs, (t, y) :: ys =>
    if h : s = t then
      match decideEq x y, decideEqEntries xs ys with
      | isTrue i, isTrue k => isTrue (by rw [h, i, k])
      | isFalse i, _ => isFalse (by simp [i])
      | _, isFalse k => isFalse (by simp [k])
    else isFalse (by simp [h])
  | [], _ :: _ => isFalse nofun
  | _ :: _, [] => isFalse nofun

end

instance : DecidableEq Value := decideEq

/-! ## Collections that hold themselves -/

mutual

/-- Put the collection `whole` in every place that goes by its name. -/
def explain (name : Nat) (whole : Value) : Value → Value
  | .scalar s => .scalar s
  | .list items => .list (explainItems name whole items)
  | .mapping entries => .mapping (explainEntries name whole entries)
  | .pair first second => .pair (explain name whole first) (explain name whole second)
  | .set members => .set members
  | .loop other v => if other = name then .loop other v else .loop other (explain name whole v)
  | .again other shape => if other = name then whole else .again other shape

/-- Put `whole` in its places in a list of values. -/
def explainItems (name : Nat) (whole : Value) : List Value → List Value
  | [] => []
  | v :: rest => explain name whole v :: explainItems name whole rest

/-- Put `whole` in its places in a list of entries. -/
def explainEntries (name : Nat) (whole : Value) : List (Scalar × Value) → List (Scalar × Value)
  | [] => []
  | (k, v) :: rest => (k, explain name whole v) :: explainEntries name whole rest

end

/-- A collection with whole values in it. -/
def opened : Value → Value
  | .loop name v => explain name (.loop name v) v
  | v => v

end Value

/-! ## Mappings -/

namespace Entries

/-- The value at a textual key. -/
def get? (entries : Entries) (key : Text) : Option Value :=
  (entries.find? fun e => e.1 = .text key).map (·.2)

/-- The value at a textual key; null when there is none. -/
def field (entries : Entries) (key : Text) : Value := (entries.get? key).getD .null

/-- Set the value at `key`.  A key that is there keeps its place. -/
def put (entries : Entries) (key : Scalar) (v : Value) : Entries :=
  match entries with
  | [] => [(key, v)]
  | e :: rest => if e.1.same key then (e.1, v) :: rest else e :: put rest key v

/-- The mapping that results from setting one key after another. -/
def ofList (pairs : List (Scalar × Value)) : Entries :=
  pairs.foldl (fun entries p => entries.put p.1 p.2) []

theorem get?_cons (e : Scalar × Value) (entries : Entries) (field : Text) :
    get? (e :: entries) field = if e.1 = .text field then some e.2 else entries.get? field := by
  unfold get?
  rw [List.find?_cons]
  split <;> simp_all

theorem get?_put (entries : Entries) (key field : Text) (v : Value) :
    (entries.put (.text key) v).get? field = if key = field then some v else entries.get? field := by
  induction entries with
  | nil =>
    rw [put, get?_cons]
    simp only [Scalar.text.injEq]
  | cons e entries ih =>
    by_cases hsame : e.1 = .text key
    · rw [put, if_pos (Scalar.same_text_iff.mpr hsame), get?_cons, get?_cons, hsame]
      simp only [Scalar.text.injEq]
      split <;> rfl
    · rw [put, if_neg (mt Scalar.same_text_iff.mp hsame), get?_cons, get?_cons, ih]
      by_cases hfield : key = field
      · simp only [if_neg (hfield ▸ hsame), if_pos hfield]
      · simp only [if_neg hfield]

theorem field_put (entries : Entries) (key field : Text) (v : Value) :
    (entries.put (.text key) v).field field = if key = field then v else entries.field field := by
  unfold Entries.field
  rw [get?_put]
  split <;> rfl

end Entries

namespace Value

/-- A value counts as true unless it is a false scalar or has no parts. -/
def truth : Value → Bool
  | .scalar s => s.truth
  | .list items => !items.isEmpty
  | .mapping entries => !entries.isEmpty
  | .set members => !members.isEmpty
  | .pair _ _ | .loop _ _ | .again _ _ => true

/-- The text that the value is, if it is one. -/
def asText? : Value → Option Text
  | .text t => some t
  | _ => none

/-- The entries of the mapping that the value is, if it is one. -/
def asMapping? (v : Value) : Option Entries :=
  match v.opened with
  | .mapping entries => some entries
  | _ => none

/-- The items of the list that the value is, if it is one. -/
def asList? (v : Value) : Option (List Value) :=
  match v.opened with
  | .list items => some items
  | _ => none

/-- The value is null. -/
def isNull : Value → Bool
  | .null => true
  | _ => false

/-- The value itself if it counts as true, else `other`. -/
def orElse (v other : Value) : Value := if v.truth then v else other

/-- The name of a value's type in messages. -/
def typeName : Value → Text
  | .scalar s => s.typeName
  | .list _ => "list"
  | .mapping _ => "dict"
  | .pair _ _ => "tuple"
  | .set _ => "set"
  | .loop _ v => v.typeName
  | .again _ shape =>
    match shape with
    | .list => "list"
    | .mapping => "dict"
    | .pair => "tuple"

/-! ## Copies -/

mutual

/-- How many calls, one inside another, a copy of a value takes.  The copy of a collection calls for the copies of
its parts.  Only data of a JSON text are copied, so the other collections do not matter. -/
def copyCalls : Value → Nat
  | .list [] | .mapping [] => 3
  | .list (v :: rest) => 2 + copyCallsOfItems (v :: rest)
  | .mapping (e :: rest) => 2 + copyCallsOfEntries (e :: rest)
  | .scalar _ | .pair _ _ | .set _ | .loop _ _ | .again _ _ => 2

/-- The most calls that any of the values takes. -/
def copyCallsOfItems : List Value → Nat
  | [] => 0
  | v :: rest => max (copyCalls v) (copyCallsOfItems rest)

/-- The most calls that any of the entries takes; a key takes no more than any value. -/
def copyCallsOfEntries : List (Scalar × Value) → Nat
  | [] => 0
  | (_, v) :: rest => max (copyCalls v) (copyCallsOfEntries rest)

end

/-! ## Depth -/

mutual

/-- How many collections are around each other in a value. -/
def depth : Value → Nat
  | .scalar _ | .again _ _ => 0
  | .list items => 1 + depthOfItems items
  | .mapping entries => 1 + depthOfEntries entries
  | .pair first second => 1 + max (depth first) (depth second)
  | .set _ => 1
  | .loop _ v => depth v

/-- How many are around each other in any of the values. -/
def depthOfItems : List Value → Nat
  | [] => 0
  | v :: rest => max (depth v) (depthOfItems rest)

/-- How many are around each other in any of the entries. -/
def depthOfEntries : List (Scalar × Value) → Nat
  | [] => 0
  | (_, v) :: rest => max (depth v) (depthOfEntries rest)

end

/-! ## Texts -/

/-- The text of a list with the given parts. -/
def listText (parts : List Text) : Text := "[" ++ Text.join ", " parts ++ "]"

/-- The text of a mapping or a set with the given parts. -/
def bracedText (parts : List Text) : Text := "\x7b" ++ Text.join ", " parts ++ "\x7d"

/-- The text of a pair. -/
def pairText (first second : Text) : Text := "(" ++ first ++ ", " ++ second ++ ")"

/-- What stands for a collection of the given shape inside itself. -/
def dots : Shape → Text
  | .list => "[...]"
  | .mapping => "\x7b...\x7d"
  | .pair => "(...)"

/-- The shape of a collection that holds itself. -/
def shape : Value → Shape
  | .mapping _ => .mapping
  | .pair _ _ => .pair
  | _ => .list

/-- Why a value has no text. -/
inductive Untold where
  /-- It holds an integer that is too long. -/
  | longInteger
  /-- It is nested deeper than there is room for. -/
  | tooDeep
deriving DecidableEq

/-- A text that is absent only for an integer that is too long. -/
def told (text? : Option Text) : Except Untold Text := text?.elim (.error .longInteger) .ok

mutual

/-- The text of a value as a part of the collections in `around`; `room` is how many calls, one inside another, are left
for it and its parts. -/
def quotedIn : (room : Nat) → (around : List Nat) → Value → Except Untold Text
  | 0, _, _ => .error .tooDeep
  | _ + 1, _, .scalar s => told s.quoted?
  | room + 1, around, .list items => (quotedItems room around items).map listText
  | room + 1, around, .mapping entries => (quotedEntries room around entries).map bracedText
  | room + 1, around, .pair first second =>
    match quotedIn room around first with
    | .error e => .error e
    | .ok a => (quotedIn room around second).map (pairText a)
  | _ + 1, _, .set [] => .ok "set()"
  | room + 1, _, .set (s :: rest) =>
    -- a set is written as the list of its members
    if room < 2 then .error .tooDeep else ((s :: rest).mapM fun s => told s.quoted?).map bracedText
  | room + 1, around, .loop name v =>
    if around.contains name then .ok (dots v.shape) else quotedIn (room + 1) (name :: around) v
  | _ + 1, _, .again _ shape => .ok (dots shape)

/-- The texts of the values in a list. -/
def quotedItems : (room : Nat) → (around : List Nat) → List Value → Except Untold (List Text)
  | _, _, [] => .ok []
  | room, around, v :: rest =>
    match quotedIn room around v with
    | .error e => .error e
    | .ok t => (quotedItems room around rest).map fun ts => t :: ts

/-- The texts of the entries of a mapping. -/
def quotedEntries : (room : Nat) → (around : List Nat) → List (Scalar × Value) → Except Untold (List Text)
  | _, _, [] => .ok []
  | 0, _, _ :: _ => .error .tooDeep
  | room + 1, around, (k, v) :: rest =>
    match told k.quoted?, quotedIn (room + 1) around v with
    | .error e, _ => .error e
    | .ok _, .error e => .error e
    | .ok key, .ok t => (quotedEntries (room + 1) around rest).map fun ts => (key ++ ": " ++ t) :: ts

end

/-- The text of a value on its own: a scalar is written as it is. -/
def shown (room : Nat) : Value → Except Untold Text
  | .scalar s => told s.shown?
  | v => v.quotedIn room []

example : copyCalls (.mapping [(.text "k", .list [.int 1, .list []])]) = 7 := by decide +kernel
example : (Value.shown 3 (.list [.int 1, .text "a"])).toOption = some "[1, 'a']" := by decide +kernel
example : (Value.shown 2 (.list [.list [.text "a"]])).toOption = none := by decide +kernel
example : (Value.shown 3 (.mapping [(.text "k", .float 1.5)])).toOption = some "\x7b'k': 1.5\x7d" := by
  decide +kernel
example : (Value.shown 3 (.pair (.text "k") (.set []))).toOption = some "('k', set())" := by decide +kernel
example : (Value.shown 3 (.loop 0 (.list [.again 0 .list]))).toOption = some "[[...]]" := by decide +kernel
example : (Value.asList? (.loop 0 (.list [.loop 1 (.mapping [(.text "k", .again 0 .list)])]))).map
    (·.map fun v => (Value.shown 4 v).toOption) = some [some ("\x7b'k': [\x7b...\x7d]\x7d" : Text)] := by
  decide +kernel

end Value

end NetAttach
