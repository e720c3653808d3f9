/-
  Counting a pod when something is wrong with it.

  Little is needed to count a pod.  An attachment that is missing, cannot be looked up or has a configuration that
  cannot be used contributes nothing, and neither does an annotation that is turned down.  Three things are in the way
  (`Hindrance`): an annotation that cannot even be turned down, a configuration that is nested too deep, and a request
  for an attachment that crashes.  The failure then comes behind the removal of what the pod was counted for, so the pod
  is no longer tracked (`add_tracks_iff`).

  Structure:
  1. `contribution_cases`: what a reference contributes, unless it is in the way (`Blocks`);
  2. `collected_cases`: what references contribute, up to the first that is in the way (`StopsAt`);
  3. `resolved_cases`: what an annotation comes to, unless there is a hindrance, of which there is only one;
  4. the main statement.
-/
import NetAttach.Proofs.Cni.Depth
import NetAttach.Proofs.Selection.Failing
import NetAttach.Proofs.Usage.Effect

namespace NetAttach.UsageTracker

open Selection UsageStore

section Room

variable [Nesting]

/-! ## What is resolved -/

/-- An attachment has plugin types, if only none, unless its configuration is nested too deep. -/
theorem attachmentTypes_cases (a : Attachment) :
    (∃ d, Cni.Overdeep a.config d ∧ attachmentTypes a = .error (.tooDeep d)) ∨
      (∀ d, ¬Cni.Overdeep a.config d) ∧ ∃ types, attachmentTypes a = .ok types := by
  unfold attachmentTypes
  rcases Cni.classify_cases a.config a.name with
    ⟨d, hd, hclassify⟩ | ⟨hdeep, ⟨e, reason, herror, hreason, -⟩ | ⟨types, hok, -, -⟩⟩
  · rw [hclassify]
    exact Or.inl ⟨d, hd, rfl⟩
  · rw [herror]
    exact Or.inr ⟨hdeep, [], congrArg (Except.map fun _ => []) hreason⟩
  · rw [hok]
    exact Or.inr ⟨hdeep, _, rfl⟩

/-- The reference is in the way: the configuration of the attachment that is found for it is nested too deep, or the
request for it crashes. -/
inductive Blocks (lookup : Text → Text → Lookup) (r : Reference) : Failure → Prop
  | tooDeep {a : Attachment} {d : Descent} (h : lookup r.name r.ns = .found a) (hdeep : Cni.Overdeep a.config d) :
      Blocks lookup r (.tooDeep d)
  | crashed {f : Failure} (h : lookup r.name r.ns = .crashed f) : Blocks lookup r f

/-- None of the references is in the way. -/
def Clear (lookup : Text → Text → Lookup) (references : List Reference) : Prop :=
  ∀ r ∈ references, ∀ f, ¬Blocks lookup r f

/-- The first of the references that is in the way is so for `f`. -/
inductive StopsAt (lookup : Text → Text → Lookup) : List Reference → Failure → Prop
  | here {r : Reference} {rest : List Reference} {f : Failure} (h : Blocks lookup r f) : StopsAt lookup (r :: rest) f
  | later {r : Reference} {rest : List Reference} {f : Failure} (hr : ∀ g, ¬Blocks lookup r g)
      (h : StopsAt lookup rest f) : StopsAt lookup (r :: rest) f

/-- What is in the way of counting a pod: its annotation is unreadable, or one of its references is in the way. -/
inductive Hindrance (lookup : Text → Text → Lookup) (selection ns : Text) (f : Failure) : Prop
  | unreadable (h : Unreadable selection f) : Hindrance lookup selection ns f
  | reference {references : List Reference} (hparse : parse selection ns = .ok references)
      (h : StopsAt lookup references f) : Hindrance lookup selection ns f

variable {lookup : Text → Text → Lookup}

theorem Blocks.unique {r : Reference} {f g : Failure} (h : Blocks lookup r f) (h' : Blocks lookup r g) : f = g := by
  cases h with
  | tooDeep ha hd =>
    cases h' with
    | tooDeep hb he =>
      obtain rfl := Lookup.found.inj (ha.symm.trans hb)
      rw [hd.unique he]
    | crashed h' => exact nomatch ha.symm.trans h'
  | crashed h =>
    cases h' with
    | tooDeep ha _ => exact nomatch h.symm.trans ha
    | crashed h' => exact Lookup.crashed.inj (h.symm.trans h')

theorem StopsAt.unique {references : List Reference} {f g : Failure} (h : StopsAt lookup references f)
    (h' : StopsAt lookup references g) : f = g := by
  induction h with
  | here h =>
    cases h' with
    | here h' => exact h.unique h'
    | later hr _ => exact absurd h (hr _)
  | later hr _ ih =>
    cases h' with
    | here h' => exact absurd h' (hr _)
    | later _ h' => exact ih h'

theorem StopsAt.exists_mem {references : List Reference} {f : Failure} (h : StopsAt lookup references f) :
    ∃ r ∈ references, Blocks lookup r f := by
  induction h with
  | here h => exact ⟨_, List.mem_cons_self, h⟩
  | later _ _ ih =>
    obtain ⟨r, hr, hf⟩ := ih
    exact ⟨r, List.mem_cons_of_mem _ hr, hf⟩

theorem Hindrance.unique {selection ns : Text} {f g : Failure} (h : Hindrance lookup selection ns f)
    (h' : Hindrance lookup selection ns g) : f = g := by
  -- an annotation that is unreadable has no references
  have hno : ∀ {f references}, Unreadable selection f → parse selection ns ≠ .ok references := by
    intro f references hf hparse
    obtain ⟨e, he, -⟩ := (parse_fails_iff ns).mpr hf
    exact nomatch hparse.symm.trans he
  cases h with
  | unreadable h =>
    cases h' with
    | unreadable h' => exact h.unique h'
    | reference hparse _ => exact absurd hparse (hno h)
  | reference hparse h =>
    cases h' with
    | unreadable h' => exact absurd hparse (hno h')
    | reference hother h' =>
      obtain rfl := Except.ok.inj (hparse.symm.trans hother)
      exact h.unique h'

theorem contribution_cases (lookup : Text → Text → Lookup) (r : Reference) :
    (∃ f, Blocks lookup r f ∧ contribution (lookup r.name r.ns) = .error f) ∨
      (∀ f, ¬Blocks lookup r f) ∧ ∃ more, contribution (lookup r.name r.ns) = .ok more := by
  cases hanswer : lookup r.name r.ns with
  | found a =>
    rcases attachmentTypes_cases a with ⟨d, hd, htypes⟩ | ⟨hdeep, htypes⟩
    · exact Or.inl ⟨_, .tooDeep hanswer hd, htypes⟩
    · refine Or.inr ⟨fun f hf => ?_, htypes⟩
      cases hf with
      | tooDeep h hd =>
        obtain rfl := Lookup.found.inj (hanswer.symm.trans h)
        exact hdeep _ hd
      | crashed h => exact nomatch hanswer.symm.trans h
  | crashed f => exact Or.inl ⟨f, .crashed hanswer, rfl⟩
  | absent | failed e =>
    refine Or.inr ⟨fun f hf => ?_, [], rfl⟩
    cases hf with
    | tooDeep h _ | crashed h => exact nomatch hanswer.symm.trans h

theorem collected_cases (lookup : Text → Text → Lookup) (types : List Text) (references : List Reference) :
    (∃ f, StopsAt lookup references f ∧ collected lookup types references = .error f) ∨
      Clear lookup references ∧ ∃ all, collected lookup types references = .ok all := by
  induction references generalizing types with
  | nil => exact Or.inr ⟨fun _ h => (nomatch h), types, rfl⟩
  | cons r rest ih =>
    unfold collected
    rcases contribution_cases lookup r with ⟨f, hf, hcontribution⟩ | ⟨hr, more, hcontribution⟩
    · rw [hcontribution]
      exact Or.inl ⟨f, .here hf, rfl⟩
    · rw [hcontribution]
      rcases ih (Text.distinctInOrder (types ++ more)) with ⟨f, hf, hrest⟩ | ⟨hclear, hrest⟩
      · exact Or.inl ⟨f, .later hr hf, hrest⟩
      · exact Or.inr ⟨List.forall_mem_cons.mpr ⟨hr, hclear⟩, hrest⟩

/-- Either there are types, none for an annotation that is turned down, or there is a hindrance. -/
theorem resolved_cases (lookup : Text → Text → Lookup) (selection ns : Text) :
    (∃ f, Hindrance lookup selection ns f ∧ resolved lookup selection ns = .error f) ∨
      (∀ f, ¬Hindrance lookup selection ns f) ∧ ∃ types, resolved lookup selection ns = .ok types ∧
        ∀ e, parse selection ns = .error e → types = [] := by
  unfold resolved
  cases hparse : parse selection ns with
  | ok references =>
    rcases collected_cases lookup [] references with ⟨f, hf, hcollected⟩ | ⟨hclear, types, hcollected⟩
    · exact Or.inl ⟨f, .reference hparse hf, hcollected⟩
    · refine Or.inr ⟨fun f hf => ?_, types, hcollected, fun _ he => (nomatch he)⟩
      cases hf with
      | unreadable h =>
        obtain ⟨e, he, -⟩ := (parse_fails_iff ns).mpr h
        exact nomatch hparse.symm.trans he
      | reference hsame h =>
        obtain rfl := Except.ok.inj (hparse.symm.trans hsame)
        obtain ⟨r, hr, hf⟩ := h.exists_mem
        exact hclear r hr f hf
  | error e =>
    simp only
    cases hreason : e.reason with
    | ok reason =>
      refine Or.inr ⟨fun f hf => ?_, [], rfl, fun _ _ => rfl⟩
      cases hf with
      | unreadable h =>
        obtain ⟨other, he, hfails⟩ := (parse_fails_iff ns).mpr h
        obtain rfl := Except.error.inj (hparse.symm.trans he)
        exact nomatch hreason.symm.trans hfails
      | reference h _ => exact nomatch hparse.symm.trans h
    | error f => exact Or.inl ⟨f, .unreadable ((parse_fails_iff ns).mp ⟨e, hparse, hreason⟩), rfl⟩

/-! ## What becomes of the pod -/

/-- **Tracking degrades unless there is a hindrance.**  With a cluster that finds an attachment of any kind, finds none
or cannot say, a pod is counted and tracked, with the empty combination if its annotation cannot be read, exactly when
its annotation holds no integer that is too long and is not nested too deep, and none of its references leads to a
configuration that is nested too deep; a cluster that crashes is a hindrance as well.  Otherwise counting fails; the pod
has then been removed from the store, and nothing else has changed there.  The annotations that are in the way
themselves have more than 4300 digits in a row, or more brackets than there is room for. -/
theorem add_tracks_iff (p : Publication) (lookup : Text → Text → Lookup) (key selection ns : Text) (s : UsageStore) :
    let added := (add key selection ns).run p lookup s
    ((∃ combination, added.result = .ok combination ∧ added.store.remembered key = some combination ∧
        ∀ e, parse selection ns = .error e → combination = []) ↔
      ¬∃ f, Hindrance lookup selection ns f) ∧
    (∀ f, Hindrance lookup selection ns f →
      added.result = .error f ∧ added.store = s.uncounted key ∧ added.store.remembered key = none) ∧
    ∀ f, Unreadable selection f → (∃ n, f = .longInteger n ∧ Json.LongRun selection n) ∨
      ∃ c, f = .tooDeep (.reading c) ∧ Nesting.selection < Json.brackets selection := by
  intro added
  obtain ⟨_, hadd⟩ := run_add p lookup key selection ns s
  have hresult : added.result = (resolved lookup selection ns).map combine := congrArg UsageOutcome.result hadd
  have hstore : added.store = (s.uncounted key).counted key (resolved lookup selection ns) :=
    congrArg UsageOutcome.store hadd
  -- the removal comes first, so that the store is the one without the pod in both cases
  rcases resolved_cases lookup selection ns with ⟨f, hf, hr⟩ | ⟨hno, types, hr, hnone⟩
  · rw [hr] at hresult hstore
    have hgone : added.store.remembered key = none := by
      rw [hstore]
      exact (remembered_uncounted s key key).trans (if_pos rfl)
    refine ⟨⟨?_, fun h => absurd ⟨f, hf⟩ h⟩, fun g hg => ?_, fun _ => Unreadable.crowded⟩
    · rintro ⟨combination, hok, -, -⟩
      exact nomatch hresult.symm.trans hok
    · obtain rfl := hf.unique hg
      exact ⟨hresult, hstore, hgone⟩
  · rw [hr] at hresult hstore
    refine ⟨⟨fun _ => not_exists.mpr hno, fun _ => ⟨combine types, hresult, ?_, ?_⟩⟩, fun f hf => absurd hf (hno f),
      fun _ => Unreadable.crowded⟩
    · rw [hstore, remembered_counted_ok, if_pos rfl]
    · intro e he
      rw [hnone e he]
      rfl

end Room

/-- A pod that was counted for its one plugin type is forgotten when its annotation becomes a list that holds
such an integer. -/
theorem not_add_tracks_of_long_integer :
    let lookup : Text → Text → Lookup := fun name ns => .found ⟨name, ns, "\x7b\"type\":\"bridge\"\x7d"⟩
    let before := ((add "ns/p" "n" "ns").run ⟨false, none⟩ lookup .empty).store
    let added := (add "ns/p" (Json.bracketed 4300) "ns").run ⟨false, none⟩ lookup before
    before.remembered "ns/p" = some "bridge" ∧ added.store.remembered "ns/p" = none ∧
      ¬∃ combination, added.result = .ok combination := by
  intro lookup before added
  have hbefore : before.remembered "ns/p" = some "bridge" := by decide +kernel
  have hlong : Hindrance lookup (Json.bracketed 4300) "ns" (.longInteger 4301) :=
    .unreadable (unreadable_bracketed (Nat.le_refl 4300))
  obtain ⟨-, hfails, -⟩ := add_tracks_iff ⟨false, none⟩ lookup "ns/p" (Json.bracketed 4300) "ns" before
  obtain ⟨hresult, -, hgone⟩ := hfails _ hlong
  refine ⟨hbefore, hgone, ?_⟩
  rintro ⟨combination, hok⟩
  exact nomatch hresult.symm.trans hok

end NetAttach.UsageTracker
