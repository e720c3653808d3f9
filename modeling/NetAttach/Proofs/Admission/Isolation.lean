/-
  Isolation of pods.

  A pod is allowed when its annotation names no namespace, so that all networks it selects are in its own.  The
  decision gets by without looking at the text for that: it reads the references as ones in a namespace that no
  token can spell, and whatever is in another one afterwards was named (`allowed_iff`).  Counting the pod then
  asks for attachments of its own namespace only, and those of others have no influence on what becomes of it.

  The one who decides and the one who counts need not have the same room to read the annotation in (`Nesting`); where
  both can read it, they read the same.

  Structure:
  1. `localNamespace` is no token, so no annotation that can be read names it (`not_names_localNamespace`);
  2. `allowed_iff`: the decision in the words of the annotation;
  3. `ns_of_allowed`: where the references of an allowed annotation are;
  4. the main statement, with what counting a pod asks for from `asksIn_add`.
-/
import NetAttach.Admission.Decision
import NetAttach.Proofs.Json.Depth
import NetAttach.Proofs.Selection.Named
import NetAttach.Proofs.Usage.Footprint

namespace NetAttach

open Selection UsageTracker

/-- The pod with the annotation `raw` is allowed. -/
def AllowsPod [Nesting] (raw : Text) : Prop :=
  ∃ decision, decideIsolation (some raw) = .ok decision ∧ decision.allowed = true

theorem localNamespace_not_token : ¬localNamespace.isToken = true := by decide

/-- No annotation that can be read names the namespace of the decision. -/
theorem not_names_localNamespace [Nesting] {raw ns : Text} {references : List Reference}
    (h : parse raw ns = .ok references) : ¬Names raw localNamespace := by
  intro hnames
  obtain ⟨-, asWritten, hwritten, -⟩ := parse_eq_ok.mp h
  have hne : localNamespace ≠ [] := by decide
  obtain ⟨r, hr, hrns⟩ := (names_iff_of_written hwritten hne).mp hnames
  rcases ns_of_written hwritten r hr with hempty | htoken
  · exact hne (hrns.symm.trans hempty)
  · exact localNamespace_not_token (hrns ▸ htoken)

/-- A reference is in the namespace that it is put into when it names none. -/
theorem inNamespace_ns_eq_iff {r : Reference} {ns : Text} (h : r.ns = ns → r.ns = []) :
    (r.inNamespace ns).ns = ns ↔ r.ns = [] := by
  unfold Reference.inNamespace
  by_cases hempty : r.ns = []
  · rw [if_pos (List.isEmpty_iff.mpr hempty)]
    exact ⟨fun _ => hempty, fun _ => rfl⟩
  · rw [if_neg (mt List.isEmpty_iff.mp hempty)]
    exact ⟨fun hr => h hr, fun hr => absurd hr hempty⟩

/-- The decision, with the annotation as it is written. -/
theorem allowsPod_iff_written [Nesting] {raw : Text} {asWritten : List Reference} (hne : raw ≠ [])
    (h : written raw = .ok asWritten) : AllowsPod raw ↔ ∀ r ∈ asWritten, r.ns = [] := by
  have hparse : parse raw localNamespace = .ok (asWritten.map fun r => r.inNamespace localNamespace) :=
    parse_eq_ok.mpr ⟨hne, asWritten, h, rfl⟩
  -- none of the references names the namespace that they are put into here
  have hlocal : ∀ r ∈ asWritten, (r.inNamespace localNamespace).ns = localNamespace ↔ r.ns = [] := by
    intro r hr
    refine inNamespace_ns_eq_iff fun hrns => (ns_of_written h r hr).resolve_right ?_
    rw [hrns]
    exact localNamespace_not_token
  unfold AllowsPod decideIsolation
  cases raw with
  | nil => exact absurd rfl hne
  | cons c rest =>
    simp only [hparse]
    cases hfind : (asWritten.map fun r => r.inNamespace localNamespace).find? fun r => r.ns ≠ localNamespace with
    | none =>
      refine ⟨fun _ r hr => (hlocal r hr).mp ?_, fun _ => ⟨_, rfl, rfl⟩⟩
      have hsame := List.find?_eq_none.mp hfind _ (List.mem_map_of_mem hr)
      simpa using hsame
    | some found =>
      constructor
      · rintro ⟨decision, hdecision, hallowed⟩
        obtain rfl := Except.ok.inj hdecision
        exact nomatch hallowed
      · intro hall
        obtain ⟨r, hr, rfl⟩ := List.mem_map.mp (List.mem_of_find?_eq_some hfind)
        have hother := List.find?_some hfind
        simp [(hlocal r hr).mpr (hall r hr)] at hother

/-- An annotation that cannot be read is not allowed, unless it is empty. -/
theorem not_allowsPod_of_error [Nesting] {raw : Text} {e : Error} (hne : raw ≠ []) (h : written raw = .error e) :
    ¬AllowsPod raw := by
  have hparse : parse raw localNamespace = .error e := by
    unfold parse
    rw [if_neg (mt List.isEmpty_iff.mp hne)]
    unfold written at h
    rw [h]
    rfl
  rintro ⟨decision, hdecision, hallowed⟩
  unfold decideIsolation at hdecision
  cases raw with
  | nil => exact hne rfl
  | cons c rest =>
    simp only [hparse] at hdecision
    obtain ⟨reason, -, rfl⟩ := map_eq_ok.mp hdecision
    exact nomatch hallowed

/-- A pod is allowed when its annotation is empty, or can be read and names nothing. -/
theorem allowsPod_iff [Nesting] (raw ns : Text) :
    AllowsPod raw ↔
      raw = [] ∨ (∃ references, parse raw ns = .ok references) ∧ ∀ named, Names raw named → named = [] := by
  by_cases hempty : raw = []
  · subst hempty
    exact ⟨fun _ => Or.inl rfl, fun _ => ⟨_, rfl, rfl⟩⟩
  cases h : written raw with
  | error e =>
    refine ⟨fun hallows => absurd hallows (not_allowsPod_of_error hempty h), ?_⟩
    rintro (hnil | ⟨⟨references, hparse⟩, -⟩)
    · exact absurd hnil hempty
    · obtain ⟨-, asWritten, hwritten, -⟩ := parse_eq_ok.mp hparse
      exact nomatch hwritten.symm.trans h
  | ok asWritten =>
    rw [allowsPod_iff_written hempty h]
    constructor
    · intro hall
      refine Or.inr ⟨⟨_, parse_eq_ok.mpr ⟨hempty, asWritten, h, rfl⟩⟩, fun named hnamed => ?_⟩
      by_contra hne
      obtain ⟨r, hr, hrns⟩ := (names_iff_of_written h hne).mp hnamed
      exact hne (hrns.symm.trans (hall r hr))
    · rintro (hnil | ⟨-, hnames⟩) r hr
      · exact absurd hnil hempty
      · by_contra hne
        exact hne (hnames r.ns ((names_iff_of_written h hne).mpr ⟨r, hr, rfl⟩))

/-- What is written in an annotation is the same wherever it can be read. -/
theorem written_unique {here there : Nesting} {raw : Text} {references others : List Reference}
    (h : @written here raw = .ok references) (h' : @written there raw = .ok others) : references = others := by
  unfold written at h h'
  by_cases hlong : isJson raw = true
  · rw [if_pos hlong] at h h'
    obtain ⟨elements, hread, hmap⟩ := @readJson_eq_ok here _ _ h
    obtain ⟨elements', hread', hmap'⟩ := @readJson_eq_ok there _ _ h'
    cases Json.readWithin_unique hread hread'
    exact Except.ok.inj (hmap.symm.trans hmap')
  · rw [if_neg hlong] at h h'
    exact Except.ok.inj (h.symm.trans h')

/-- All references of an allowed annotation are to the namespace of the pod, whoever reads it. -/
theorem ns_of_allowsPod {here there : Nesting} {raw ns : Text} (h : @AllowsPod here raw)
    {references : List Reference} (hparse : @parse there raw ns = .ok references) : ∀ r ∈ references, r.ns = ns := by
  obtain ⟨hne, asWritten, hwritten, rfl⟩ := (@parse_eq_ok there _ _ _).mp hparse
  have hall : ∀ r ∈ asWritten, r.ns = [] := by
    cases hdecided : @written here raw with
    | error e => exact absurd h (@not_allowsPod_of_error here _ _ hne hdecided)
    | ok others =>
      obtain rfl := written_unique hwritten hdecided
      exact (@allowsPod_iff_written here _ _ hne hdecided).mp h
  intro r hr
  obtain ⟨source, hsource, rfl⟩ := List.mem_map.mp hr
  exact (inNamespace_ns_eq_iff fun _ => hall source hsource).mpr (hall source hsource)

/-- **Isolation is sound and exact.**  A pod is allowed exactly when its annotation is empty, or can be read and
names no namespace; an annotation that can be read never names the one that the decision reads it in.  For an
allowed annotation, counting a pod of any namespace, with whatever room there is for it, comes to the same with any two
clusters that agree on this namespace: the same result, the same store and the same events, and no event is a request
for an attachment of another namespace. -/
theorem isolation_sound_and_exact (here there : Nesting) (raw ns : Text) :
    (@AllowsPod here raw ↔
      raw = [] ∨
        (∃ references, @parse here raw ns = .ok references) ∧ ∀ named, @Names here raw named → named = []) ∧
    (∀ references, @parse here raw ns = .ok references → ¬@Names here raw localNamespace) ∧
    (@AllowsPod here raw → ∀ (key : Text) (p : Publication) (s : UsageStore) (lookup other : Text → Text → Lookup),
      (∀ name, lookup name ns = other name ns) →
        (@add there key raw ns).run p lookup s = (@add there key raw ns).run p other s ∧
        ∀ name asked, .request name asked ∈ ((@add there key raw ns).run p lookup s).events → asked = ns) := by
  refine ⟨@allowsPod_iff here raw ns, fun _ => @not_names_localNamespace here _ _ _, ?_⟩
  intro hallows key p s lookup other hagree
  have hasks : (@add there key raw ns).AsksIn ns := @asksIn_add ns there key _ _ fun _ => ns_of_allowsPod hallows
  exact ⟨hasks.run_congr p hagree s, fun _ _ => hasks.ns_of_request p lookup s⟩

/-- An attachment of another namespace does not matter to a pod that selects two networks of its own, one of
them with a slash. -/
theorem isolation_sound_and_exact_of_two_networks :
    let raw : Text := "net-a, /net-b@eth1"
    let lookup : Text → Text → Lookup := fun name ns => .found ⟨name, ns, "\x7b\"type\":\"bridge\"\x7d"⟩
    let other : Text → Text → Lookup := fun name ns => if ns = "ns" then lookup name ns else .absent
    let p : Publication := ⟨true, none⟩
    AllowsPod raw ∧ lookup "net-a" "other" ≠ other "net-a" "other" ∧
      ((add "ns/p" raw "ns").run p lookup .empty).result = .ok "bridge" ∧
      (add "ns/p" raw "ns").run p lookup .empty = (add "ns/p" raw "ns").run p other .empty := by
  intro raw lookup other p
  obtain ⟨-, -, hsame⟩ := isolation_sound_and_exact .usual .usual raw "ns"
  have hallows : AllowsPod raw := ⟨.allow [], by decide +kernel, rfl⟩
  have hagree : ∀ name, lookup name "ns" = other name "ns" := fun _ => rfl
  exact ⟨hallows, by decide +kernel, by decide +kernel, (hsame hallows "ns/p" p .empty lookup other hagree).1⟩

end NetAttach
