/-
  Each reference counts for itself.

  A reference resolves if an attachment is found for it whose configuration can be used (`ResolvesTo`).  The plugin
  types of an annotation are those that its references resolve to, taken together (`mem_collected`): a reference that
  does not resolve adds none, and it is not in the way of the references before or behind it.  The exception is a
  reference to an attachment with a configuration or a name that is nested too deep, for then nothing is resolved.

  The types are kept in increasing order, so they depend only on which references there are.  A pod is therefore counted
  alike for an annotation of the short form and for one with the same items in another order, with items repeated, or
  without some of those that do not resolve (`resolved_eq_of_keeps`).
-/
import NetAttach.Proofs.Selection.Items
import NetAttach.Proofs.Usage.Degrading
import NetAttach.Proofs.Usage.Recovery

namespace NetAttach

/-! ## What answers of the cluster mean -/

namespace Lookup

variable [Nesting]

/-- Asking a cluster that answers by namespace and name. -/
def through (answer : Text → Text → ApiAnswer) (name ns : Text) : Lookup := .ofAnswer (answer ns name)

/-- So is a cluster asked of which some answers are known. -/
theorem lookup_eq_through (c : ClusterAnswers) :
    c.lookup = through fun ns name => c.getD (ns, name) (.status statusAbsent none) := rfl

theorem ofAnswer_object (v : Value) :
    (∃ a, Attachment.ofValue v = .ok a ∧ ofAnswer (.object v) = .found a) ∨
      (Attachment.ofValue v = .error .tooDeep ∧ ofAnswer (.object v) = .crashed (.tooDeep .showing)) ∨
      ∃ e, Attachment.ofValue v = .error e ∧ e ≠ .tooDeep ∧ ofAnswer (.object v) = .failed (.malformed e) := by
  cases hread : Attachment.ofValue v with
  | ok a => exact Or.inl ⟨a, rfl, by simp only [ofAnswer, hread]⟩
  | error e =>
    cases e with
    | tooDeep => exact Or.inr (Or.inl ⟨rfl, by simp only [ofAnswer, hread]⟩)
    | _ => exact Or.inr (Or.inr ⟨_, rfl, (nomatch ·), by simp only [ofAnswer, hread]⟩)

theorem ofAnswer_eq_found {answer : ApiAnswer} {a : Attachment} :
    ofAnswer answer = .found a ↔ ∃ v, answer = .object v ∧ Attachment.ofValue v = .ok a := by
  cases answer with
  | object v => rcases ofAnswer_object v with ⟨b, hv, h⟩ | ⟨hv, h⟩ | ⟨e, hv, -, h⟩ <;> simp [hv, h]
  | status code reason =>
    simp only [ofAnswer]
    split <;> simp
  | transport text => simp [ofAnswer]
  | crash text => simp [ofAnswer]

theorem ofAnswer_eq_absent {answer : ApiAnswer} :
    ofAnswer answer = .absent ↔ ∃ reason, answer = .status statusAbsent reason := by
  cases answer with
  | object v => rcases ofAnswer_object v with ⟨b, hv, h⟩ | ⟨hv, h⟩ | ⟨e, hv, -, h⟩ <;> simp [h]
  | status code reason =>
    simp only [ofAnswer]
    split <;> simp_all
  | transport text => simp [ofAnswer]
  | crash text => simp [ofAnswer]

/-- Asking fails only in ways that are said of the attachment, unless the cluster crashes or the object in the answer
has a name that is nested too deep. -/
theorem ofAnswer_eq_crashed {answer : ApiAnswer} (hanswer : ∀ text, answer ≠ .crash text) {f : Failure} :
    ofAnswer answer = .crashed f ↔
      ∃ v, answer = .object v ∧ Attachment.ofValue v = .error .tooDeep ∧ f = .tooDeep .showing := by
  cases answer with
  | object v =>
    rcases ofAnswer_object v with ⟨b, hv, h⟩ | ⟨hv, h⟩ | ⟨e, hv, hne, h⟩
    · simp [hv, h]
    · simp [hv, h, eq_comm]
    · simp [hv, h, hne]
  | status code reason =>
    simp only [ofAnswer]
    split <;> simp
  | transport text => simp [ofAnswer]
  | crash text => exact absurd rfl (hanswer text)

end Lookup

namespace UsageTracker

open Selection UsageEvent

/-! ## What references contribute -/

/-- An attachment is found for the reference, and `all` are the types of its configuration. -/
def ResolvesTo [Nesting] (lookup : Text → Text → Lookup) (r : Reference) (all : List Scalar) : Prop :=
  ∃ a, lookup r.name r.ns = .found a ∧ Cni.classify a.config a.name = .ok all

theorem ResolvesTo.text [Nesting] {lookup : Text → Text → Lookup} {r : Reference} {all : List Scalar}
    (h : ResolvesTo lookup r all) {x : Scalar} (hx : x ∈ all) : ∃ t : Text, x = .text t := by
  obtain ⟨a, -, hclassify⟩ := h
  rcases Cni.classify_cases a.config a.name with
    ⟨d, -, hdeep⟩ | ⟨-, ⟨e, reason, herror, -, -⟩ | ⟨types, hok, hset, -⟩⟩
  · exact nomatch hdeep.symm.trans hclassify
  · exact nomatch herror.symm.trans hclassify
  · obtain rfl : types = all := Except.ok.inj (hok.symm.trans hclassify)
    obtain ⟨t, -, ht⟩ := hset.named x hx
    exact ⟨t, ht⟩

theorem mem_attachmentTypes [Nesting] {a : Attachment} {types : List Text} (h : attachmentTypes a = .ok types)
    {t : Text} :
    t ∈ types ↔ ∃ all, Cni.classify a.config a.name = .ok all ∧ .text t ∈ all := by
  unfold attachmentTypes at h
  rcases Cni.classify_cases a.config a.name with
    ⟨d, -, hdeep⟩ | ⟨-, ⟨e, reason, herror, -, -⟩ | ⟨all, hok, hset, -⟩⟩
  · rw [hdeep] at h
    exact nomatch h
  · rw [herror] at h
    obtain rfl := eq_nil_of_excused h
    simp [herror]
  · rw [hok] at h
    obtain rfl := Except.ok.inj h
    have hkept : ∀ x ∈ all, (if x.truth then (Value.scalar x).asText? else none) = some t ↔ x = .text t := by
      intro x hx
      obtain ⟨u, hne, rfl⟩ := hset.named x hx
      have htruth : (Scalar.text u).truth = true := by simpa [Scalar.truth] using hne
      rw [if_pos htruth, Scalar.text.injEq]
      exact Option.some_inj
    rw [List.mem_filterMap]
    constructor
    · rintro ⟨x, hx, ht⟩
      exact ⟨all, hok, (hkept x hx).mp ht ▸ hx⟩
    · rintro ⟨other, hother, ht⟩
      obtain rfl : all = other := Except.ok.inj (hok.symm.trans hother)
      exact ⟨.text t, ht, (hkept _ ht).mpr rfl⟩

section References

variable [Nesting] {lookup : Text → Text → Lookup}

/-- A reference contributes the types that it resolves to, if it does. -/
theorem mem_contribution {r : Reference} {more : List Text} (h : contribution (lookup r.name r.ns) = .ok more)
    {t : Text} : t ∈ more ↔ ∃ all, ResolvesTo lookup r all ∧ .text t ∈ all := by
  unfold ResolvesTo
  cases hanswer : lookup r.name r.ns with
  | found a =>
    rw [hanswer] at h
    rw [mem_attachmentTypes h]
    simp
  | absent =>
    rw [hanswer] at h
    obtain rfl : [] = more := Except.ok.inj h
    simp
  | failed e =>
    rw [hanswer] at h
    obtain rfl : [] = more := Except.ok.inj h
    simp
  | crashed f =>
    rw [hanswer] at h
    exact nomatch h

/-- The types that are collected are those of the references, besides those that were there before. -/
theorem mem_collected {types : List Text} {references : List Reference} {all : List Text}
    (h : collected lookup types references = .ok all) {t : Text} :
    t ∈ all ↔ t ∈ types ∨ ∃ r ∈ references, ∃ more, ResolvesTo lookup r more ∧ .text t ∈ more := by
  induction references generalizing types with
  | nil =>
    obtain rfl : types = all := Except.ok.inj h
    simp
  | cons r rest ih =>
    unfold collected at h
    cases hmore : contribution (lookup r.name r.ns) with
    | error f =>
      rw [hmore] at h
      cases h
    | ok more =>
      rw [hmore] at h
      rw [ih h, Text.mem_distinctInOrder, List.mem_append, mem_contribution hmore, or_assoc, List.exists_mem_cons_iff]

/-- The types of an annotation are those of the references that resolve, taken together, and there are types if none of
the references is in the way. -/
theorem resolved_union (lookup : Text → Text → Lookup) {raw ns : Text} {references : List Reference}
    (hraw : parse raw ns = .ok references) :
    ((∃ types, resolved lookup raw ns = .ok types) ↔ Clear lookup references) ∧
      ∀ types, resolved lookup raw ns = .ok types → types.Pairwise (· < ·) ∧
        ∀ t, t ∈ types ↔ ∃ r ∈ references, ∃ all, ResolvesTo lookup r all ∧ .text t ∈ all := by
  have hresolved : resolved lookup raw ns = collected lookup [] references := by rw [resolved, hraw]
  constructor
  · rw [hresolved]
    rcases collected_cases lookup [] references with ⟨f, hf, hcollected⟩ | ⟨hclear, all, hcollected⟩
    · obtain ⟨r, hr, hblocks⟩ := hf.exists_mem
      rw [hcollected]
      exact ⟨fun ⟨_, h⟩ => (nomatch h), fun h => absurd hblocks (h r hr f)⟩
    · exact iff_of_true ⟨all, hcollected⟩ hclear
  · intro types htypes
    refine ⟨pairwise_resolved lookup htypes, fun t => ?_⟩
    rw [mem_collected (hresolved ▸ htypes), or_iff_right List.not_mem_nil]

end References

/-! ## Counting a pod for other references -/

/-- Counting a pod for one annotation comes to the same as counting it for the other: the result, what listeners are
told, in the same order, and the store. -/
def CountedAlike [Nesting] (p : Publication) (lookup : Text → Text → Lookup) (ns selection other : Text) : Prop :=
  ∀ (key : Text) (s : UsageStore),
    ((add key other ns).run p lookup s).result = ((add key selection ns).run p lookup s).result ∧
    told ((add key other ns).run p lookup s).events = told ((add key selection ns).run p lookup s).events ∧
    ((add key other ns).run p lookup s).store = ((add key selection ns).run p lookup s).store

theorem countedAlike_of_resolved [Nesting] (p : Publication) {lookup : Text → Text → Lookup} {ns selection other : Text}
    (h : resolved lookup other ns = resolved lookup selection ns) : CountedAlike p lookup ns selection other := by
  intro key s
  obtain ⟨_, hother⟩ := run_add p lookup key other ns s
  obtain ⟨_, hadd⟩ := run_add p lookup key selection ns s
  refine ⟨?_, ?_, ?_⟩
  · rw [hother, hadd, h]
  · simp only [run_add_eq, UsageOutcome.after, told_append, told_count, h]
  · rw [hother, hadd, h]

/-- All references of `rest` are among `references`, and no other of these resolves. -/
structure Keeps [Nesting] (lookup : Text → Text → Lookup) (references rest : List Reference) : Prop where
  subset : rest ⊆ references
  resolving : ∀ r ∈ references, r ∉ rest → ∀ all, ¬ResolvesTo lookup r all

/-- In increasing order, types are determined by which ones they are. -/
theorem resolved_eq_of_keeps [Nesting] {lookup : Text → Text → Lookup} {raw other ns : Text}
    {references rest : List Reference} (hraw : parse raw ns = .ok references) (hother : parse other ns = .ok rest)
    (hclear : Clear lookup references) (hkeeps : Keeps lookup references rest) :
    resolved lookup other ns = resolved lookup raw ns := by
  obtain ⟨hexists, hunion⟩ := resolved_union lookup hraw
  obtain ⟨hexistsLeft, hunionLeft⟩ := resolved_union lookup hother
  obtain ⟨types, htypes⟩ := hexists.mpr hclear
  obtain ⟨left, hleft⟩ := hexistsLeft.mpr fun r hr => hclear r (hkeeps.subset hr)
  obtain ⟨hincreasing, hmem⟩ := hunion types htypes
  obtain ⟨hleftIncreasing, hleftMem⟩ := hunionLeft left hleft
  rw [htypes, hleft]
  refine congrArg Except.ok (hleftIncreasing.eq_of_mem_iff hincreasing fun t => ?_)
  rw [hmem, hleftMem]
  constructor
  · rintro ⟨r, hr, all, hall⟩
    exact ⟨r, hkeeps.subset hr, all, hall⟩
  · rintro ⟨r, hr, all, hresolves, ht⟩
    by_cases hrest : r ∈ rest
    · exact ⟨r, hrest, all, hresolves, ht⟩
    · exact absurd hresolves (hkeeps.resolving r hr hrest all)

/-- Some items of an annotation, in whatever order, keep the references that resolve if the items left out do not. -/
theorem keeps_of_items [Nesting] {lookup : Text → Text → Lookup} {raw ns : Text} (hshort : isJson raw = false)
    {references rest : List Reference} (hraw : parse raw ns = .ok references) {items : List Text}
    (hitems : items ⊆ raw.splitOn Selection.comma) (hrest : ∀ r, r ∈ rest ↔ ∃ item ∈ items, parse item ns = .ok [r])
    (hleft : ∀ item ∈ raw.splitOn Selection.comma, item ∉ items → ∀ r, parse item ns = .ok [r] →
      ∀ all, ¬ResolvesTo lookup r all) : Keeps lookup references rest where
  subset r hr := by
    obtain ⟨item, hitem, hread⟩ := (hrest r).mp hr
    exact (mem_iff_of_parse hshort hraw).mpr ⟨item, hitems hitem, hread⟩
  resolving r hr hgone := by
    obtain ⟨item, hitem, hread⟩ := (mem_iff_of_parse hshort hraw).mp hr
    exact hleft item hitem (fun hmem => hgone ((hrest r).mpr ⟨item, hmem, hread⟩)) r hread

/-- **Each reference counts for itself, unless one leads to something that is nested too deep.**  With a cluster that
answers in any way but to crash, asking for an attachment finds the one in the answer, finds none, which is so for the
status 404 and for nothing else, or fails, unless there is a name in the answer that is nested too deep.  The types of
an annotation that is read can be told exactly when none of its references leads to such a name or to a configuration
that is nested too deep; they are then those of the references that resolve, taken together.  And a pod is counted alike
for any other annotation with the same references, but for some that do not resolve; so it is for any items of the short
form, at least one, in any order and as often as one likes, if those left out do not resolve. -/
theorem types_eq_union_of_references [Nesting] (p : Publication) {answer : Text → Text → ApiAnswer}
    (hanswer : ∀ ns name text, answer ns name ≠ .crash text) (ns : Text) :
    let lookup := Lookup.through answer
    (∀ name ns,
      (lookup name ns = .absent ↔ ∃ reason, answer ns name = .status 404 reason) ∧
      (∀ a, lookup name ns = .found a ↔ ∃ v, answer ns name = .object v ∧ Attachment.ofValue v = .ok a) ∧
      (∀ f, lookup name ns = .crashed f ↔
        ∃ v, answer ns name = .object v ∧ Attachment.ofValue v = .error .tooDeep ∧ f = .tooDeep .showing) ∧
      (lookup name ns = .absent ∨ (∃ a, lookup name ns = .found a) ∨ (∃ e, lookup name ns = .failed e) ∨
        ∃ f, lookup name ns = .crashed f)) ∧
    (∀ r f, Blocks lookup r f → ∃ d, f = .tooDeep d) ∧
    (∀ raw references, parse raw ns = .ok references → ∀ s,
      ((∃ types, ((resolve raw ns).run p lookup s).result = .ok types) ↔ Clear lookup references) ∧
      ∀ types, ((resolve raw ns).run p lookup s).result = .ok types → types.Pairwise (· < ·) ∧
        ∀ x, x ∈ types.map Scalar.text ↔ ∃ r ∈ references, ∃ all, ResolvesTo lookup r all ∧ x ∈ all) ∧
    (∀ raw other references rest, parse raw ns = .ok references → parse other ns = .ok rest →
      Clear lookup references → Keeps lookup references rest → CountedAlike p lookup ns raw other) ∧
    ∀ raw references, isJson raw = false → parse raw ns = .ok references → Clear lookup references →
      ∀ items, items ≠ [] → items ⊆ raw.splitOn Selection.comma →
        (∀ item ∈ raw.splitOn Selection.comma, item ∉ items → ∀ r, parse item ns = .ok [r] →
          ∀ all, ¬ResolvesTo lookup r all) →
        (∃ rest, parse (Text.join "," items) ns = .ok rest) ∧
          CountedAlike p lookup ns raw (Text.join "," items) := by
  intro lookup
  have hcrashed : ∀ {name ns f}, lookup name ns = .crashed f ↔
      ∃ v, answer ns name = .object v ∧ Attachment.ofValue v = .error .tooDeep ∧ f = .tooDeep .showing :=
    Lookup.ofAnswer_eq_crashed (hanswer _ _)
  refine ⟨fun name ns =>
    ⟨Lookup.ofAnswer_eq_absent, fun _ => Lookup.ofAnswer_eq_found, fun _ => hcrashed, ?_⟩, ?_, ?_, ?_, ?_⟩
  · cases lookup name ns with
    | found a => exact Or.inr (Or.inl ⟨a, rfl⟩)
    | absent => exact Or.inl rfl
    | failed e => exact Or.inr (Or.inr (Or.inl ⟨e, rfl⟩))
    | crashed f => exact Or.inr (Or.inr (Or.inr ⟨f, rfl⟩))
  · intro r f hf
    cases hf with
    | tooDeep _ _ => exact ⟨_, rfl⟩
    | crashed h =>
      obtain ⟨-, -, -, rfl⟩ := hcrashed.mp h
      exact ⟨_, rfl⟩
  · intro raw references hraw s
    obtain ⟨hexists, hunion⟩ := resolved_union lookup hraw
    obtain ⟨_, hrun⟩ := run_resolve p lookup raw ns s
    rw [hrun]
    refine ⟨hexists, fun types htypes => ?_⟩
    obtain ⟨hincreasing, hmem⟩ := hunion types htypes
    refine ⟨hincreasing, fun x => ?_⟩
    rw [List.mem_map]
    constructor
    · rintro ⟨t, ht, rfl⟩
      exact (hmem t).mp ht
    · rintro ⟨r, hr, all, hresolves, hx⟩
      obtain ⟨t, rfl⟩ := hresolves.text hx
      exact ⟨t, (hmem t).mpr ⟨r, hr, all, hresolves, hx⟩, rfl⟩
  · intro raw other references rest hraw hother hclear hkeeps
    exact countedAlike_of_resolved p (resolved_eq_of_keeps hraw hother hclear hkeeps)
  · intro raw references hshort hraw hclear items hne hitems hleft
    obtain ⟨rest, hparse, hrest⟩ := parse_join_of_subset hshort hraw hne hitems
    have hkeeps := keeps_of_items hshort hraw hitems hrest hleft
    exact ⟨⟨rest, hparse⟩, countedAlike_of_resolved p (resolved_eq_of_keeps hraw hparse hclear hkeeps)⟩

/-- Of four items one is for a configuration without a type, and one cannot be looked up.  The others are for a single
plugin and for two of them, and it is enough that they are there. -/
theorem types_eq_union_of_four_items :
    let attached : Text → ApiAnswer := fun config =>
      .object (.mapping [(.text "spec", .mapping [(.text "config", .text config)])])
    let answer : Text → Text → ApiAnswer := fun _ name =>
      if name = "a" then attached "\x7b\"type\": \"bridge\"\x7d"
      else if name = "b" then
        attached "\x7b\"name\": \"b\", \"plugins\": [\x7b\"type\": \"macvlan\"\x7d, \x7b\"type\": \"bridge\"\x7d]\x7d"
      else if name = "c" then attached "\x7b\x7d"
      else .status 500 none
    let lookup := Lookup.through answer
    let raw : Text := "a, c,b,d"
    (∃ references, parse raw "ns" = .ok references ∧
      ∀ x, (∃ r ∈ references, ∃ all, ResolvesTo lookup r all ∧ x ∈ all) ↔ x = .text "bridge" ∨ x = .text "macvlan") ∧
    CountedAlike ⟨true, none⟩ lookup "ns" raw "b,a,b" := by
  intro attached answer lookup raw
  have hanswer : ∀ ns name text, answer ns name ≠ .crash text := by
    intro ns name text
    simp only [answer, attached]
    split_ifs <;> simp
  obtain ⟨-, -, hunion, -, hitems⟩ := types_eq_union_of_references ⟨true, none⟩ hanswer "ns"
  have hraw : parse raw "ns" = .ok [⟨"a", "ns", []⟩, ⟨"c", "ns", []⟩, ⟨"b", "ns", []⟩, ⟨"d", "ns", []⟩] := by
    decide +kernel
  have hresult : ((resolve raw "ns").run ⟨true, none⟩ lookup .empty).result = .ok ["bridge", "macvlan"] := by
    decide +kernel
  have hunusable : ∀ all, ¬ResolvesTo lookup ⟨"c", "ns", []⟩ all := by
    rintro all ⟨a, ha, hclassify⟩
    have hfound : lookup "c" "ns" = .found ⟨[], [], "\x7b\x7d"⟩ := by decide +kernel
    obtain rfl := Lookup.found.inj (hfound.symm.trans ha)
    have hmissing : Cni.classify "\x7b\x7d" [] = .error (.missingType .single) := by decide +kernel
    exact nomatch hmissing.symm.trans hclassify
  have hfailed : ∀ all, ¬ResolvesTo lookup ⟨"d", "ns", []⟩ all := by
    rintro all ⟨a, ha, -⟩
    have hstatus : lookup "d" "ns" = .failed (.status none) := by decide +kernel
    exact nomatch hstatus.symm.trans ha
  obtain ⟨hexists, htold⟩ := hunion raw _ hraw .empty
  have hclear := hexists.mp ⟨_, hresult⟩
  refine ⟨⟨_, hraw, fun x => ?_⟩, ?_⟩
  · rw [← (htold _ hresult).2 x]
    simp
  · refine (hitems raw _ (by decide) hraw hclear ["b", "a", "b"] (by decide) (by decide +kernel) ?_).2
    intro item hitem hleft r hread all
    have hsplit : raw.splitOn Selection.comma = (["a", " c", "b", "d"] : List Text) := by decide +kernel
    have hc : parse " c" "ns" = .ok [⟨"c", "ns", []⟩] := by decide +kernel
    have hd : parse "d" "ns" = .ok [⟨"d", "ns", []⟩] := by decide +kernel
    rw [hsplit] at hitem
    simp only [List.mem_cons, List.not_mem_nil, or_false] at hitem
    rcases hitem with rfl | rfl | rfl | rfl
    · exact absurd (by decide) hleft
    · obtain rfl := List.singleton_injective (Except.ok.inj (hc.symm.trans hread))
      exact hunusable all
    · exact absurd (by decide) hleft
    · obtain rfl := List.singleton_injective (Except.ok.inj (hd.symm.trans hread))
      exact hfailed all

/-- Of two items one is for a single plugin, and one for a plugin that holds 701 lists in each other.  The second does
not resolve, but the pod is counted only if it is left out. -/
theorem not_countedAlike_of_nested_lists :
    let attached : Text → ApiAnswer := fun config =>
      .object (.mapping [(.text "spec", .mapping [(.text "config", .text config)])])
    let answer : Text → Text → ApiAnswer := fun _ name =>
      if name = "a" then attached "\x7b\"type\": \"bridge\"\x7d" else attached (Cni.nestedConfig 700)
    let lookup := Lookup.through answer
    parse "a,b" "ns" = .ok [⟨"a", "ns", []⟩, ⟨"b", "ns", []⟩] ∧ (∀ all, ¬ResolvesTo lookup ⟨"b", "ns", []⟩ all) ∧
      (¬∃ types, ((resolve "a,b" "ns").run ⟨true, none⟩ lookup .empty).result = .ok types) ∧
      ¬CountedAlike ⟨true, none⟩ lookup "ns" "a,b" "a" := by
  intro attached answer lookup
  have hparse : parse "a,b" "ns" = .ok [⟨"a", "ns", []⟩, ⟨"b", "ns", []⟩] := by decide +kernel
  have hfound : lookup "b" "ns" = .found ⟨[], [], Cni.nestedConfig 700⟩ := rfl
  have hdeep : Cni.Overdeep (Cni.nestedConfig 700) .copying := Cni.overdeep_nestedConfig (by decide) (by decide)
  have hblocks : Blocks lookup ⟨"b", "ns", []⟩ (.tooDeep .copying) := .tooDeep hfound hdeep
  have hunresolved : ¬∃ types, resolved lookup "a,b" "ns" = .ok types := fun h =>
    (resolved_union _ hparse).1.mp h ⟨"b", "ns", []⟩ (by simp) _ hblocks
  refine ⟨hparse, ?_, ?_, ?_⟩
  · rintro all ⟨a, ha, hclassify⟩
    obtain rfl := Lookup.found.inj (hfound.symm.trans ha)
    rcases Cni.classify_cases (Cni.nestedConfig 700) [] with ⟨d, -, hfails⟩ | ⟨hno, -⟩
    · exact nomatch hfails.symm.trans hclassify
    · exact hno _ hdeep
  · rintro ⟨types, htypes⟩
    obtain ⟨_, hrun⟩ := run_resolve ⟨true, none⟩ lookup "a,b" "ns" .empty
    simp only [hrun] at htypes
    exact hunresolved ⟨types, htypes⟩
  · intro halike
    obtain ⟨hresult, -, -⟩ := halike "ns/p" .empty
    have halone : ((add "ns/p" "a" "ns").run ⟨true, none⟩ lookup .empty).result = .ok "bridge" := by decide +kernel
    obtain ⟨_, hrun⟩ := run_add ⟨true, none⟩ lookup "ns/p" "a,b" "ns" .empty
    simp only [halone, hrun] at hresult
    obtain ⟨types, htypes, -⟩ := map_eq_ok.mp hresult.symm
    exact hunresolved ⟨types, htypes⟩

end UsageTracker

end NetAttach
