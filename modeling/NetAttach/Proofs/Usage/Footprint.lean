/-
  What a task asks the cluster for.

  The attachments a task may ask for are known before it is run: those of one namespace (`UsageTask.AsksIn`).
  A run then asks for no others (`AsksIn.ns_of_request`), so that what becomes of it depends on nothing else that
  the cluster would answer (`AsksIn.run_congr`).

  Counting a pod asks for the attachments that its annotation selects (`asksIn_add`).
-/
import Mathlib
import NetAttach.Usage.Tracker

namespace NetAttach

namespace UsageTask

variable {α β : Type}

/-- Whatever is answered on the way, the task asks for attachments of the namespace `ns` only. -/
def AsksIn (ns : Text) : UsageTask α → Prop
  | done _ | fail _ => True
  | remembered _ next => ∀ answer, AsksIn ns (next answer)
  | forget _ next => ∀ answer, AsksIn ns (next answer)
  | remember _ _ next => AsksIn ns next
  | adjust _ _ next => AsksIn ns next
  | request _ other next => other = ns ∧ ∀ answer, AsksIn ns (next answer)

variable {ns : Text}

theorem AsksIn.bind {t : UsageTask α} (h : t.AsksIn ns) {f : α → UsageTask β} (hf : ∀ a, (f a).AsksIn ns) :
    (t.bind f).AsksIn ns := by
  induction t with
  | done a => exact hf a
  | fail e => trivial
  | remembered k next ih => exact fun answer => ih answer (h answer)
  | forget k next ih => exact fun answer => ih answer (h answer)
  | remember k combination next ih => exact ih h
  | adjust label delta next ih => exact ih h
  | request name other next ih => exact ⟨h.1, fun answer => ih answer (h.2 answer)⟩

theorem AsksIn.adjustAll {next : UsageTask α} (h : next.AsksIn ns) (labels : List Text) (delta : Int) :
    (adjustAll labels delta next).AsksIn ns := by
  induction labels with
  | nil => exact h
  | cons label rest ih => exact ih

/-! ## Runs -/

variable (p : Publication)

/-- What the cluster would answer about other namespaces makes no difference. -/
theorem AsksIn.run_congr {t : UsageTask α} (h : t.AsksIn ns) {lookup other : Text → Text → Lookup}
    (hagree : ∀ name, lookup name ns = other name ns) (s : UsageStore) :
    t.run p lookup s = t.run p other s := by
  induction t generalizing s with
  | done a => rfl
  | fail e => rfl
  | remembered key next ih => exact ih _ (h _) s
  | forget key next ih => exact ih _ (h _) (s.forget key)
  | remember key combination next ih => exact ih h (s.remember key combination)
  | adjust label delta next ih =>
    simp only [run]
    rw [ih h (s.adjust label delta)]
  | request name asked next ih =>
    obtain ⟨rfl, hnext⟩ := h
    simp only [run]
    rw [hagree name, ih _ (hnext _) s]

/-- Publishing asks for nothing. -/
theorem request_notMem_ofChange (label : Text) (delta total : Int) (name other : Text) :
    .request name other ∉ p.ofChange label delta total := by
  unfold Publication.ofChange
  split
  · split <;> simp
  · exact List.not_mem_nil

theorem AsksIn.ns_of_request {t : UsageTask α} (h : t.AsksIn ns) (lookup : Text → Text → Lookup)
    (s : UsageStore) {name other : Text} (hmem : .request name other ∈ (t.run p lookup s).events) :
    other = ns := by
  induction t generalizing s with
  | done a => exact nomatch hmem
  | fail e => exact nomatch hmem
  | remembered key next ih => exact ih _ (h _) s hmem
  | forget key next ih => exact ih _ (h _) (s.forget key) hmem
  | remember key combination next ih => exact ih h (s.remember key combination) hmem
  | adjust label delta next ih =>
    rcases List.mem_append.mp hmem with hnow | hlater
    · exact absurd hnow (request_notMem_ofChange p label delta _ name other)
    · exact ih h (s.adjust label delta) hlater
  | request asked asker next ih =>
    rcases List.mem_append.mp hmem with hnow | hlater
    · have hsame := List.mem_singleton.mp hnow
      injection hsame with hname hns
      exact hns.trans h.1
    · exact ih _ (h.2 _) s hlater

end UsageTask

/-! ## Counting pods -/

namespace UsageTracker

variable {ns : Text}

theorem asksIn_collect [Nesting] (types : List Text) {references : List Reference} (h : ∀ r ∈ references, r.ns = ns) :
    (collect types references).AsksIn ns := by
  induction references generalizing types with
  | nil => trivial
  | cons r rest ih =>
    obtain ⟨hr, hrest⟩ := List.forall_mem_cons.mp h
    refine ⟨hr, fun answer => ?_⟩
    simp only
    cases contribution answer with
    | ok more => exact ih (Text.distinctInOrder (types ++ more)) hrest
    | error f => trivial

theorem asksIn_resolve [Nesting] {selection pod : Text}
    (h : ∀ references, Selection.parse selection pod = .ok references → ∀ r ∈ references, r.ns = ns) :
    (resolve selection pod).AsksIn ns := by
  unfold resolve
  cases hparse : Selection.parse selection pod with
  | ok references => exact asksIn_collect [] (h references hparse)
  | error e =>
    simp only
    cases e.reason <;> trivial

theorem asksIn_delete (key : Text) : (delete key).AsksIn ns := by
  intro answer
  cases answer with
  | none => trivial
  | some combination =>
    have hdone : (UsageTask.done ()).AsksIn ns := trivial
    exact hdone.adjustAll (labels (separate combination) combination) (-1)

theorem asksIn_count [Nesting] (key : Text) {selection pod : Text}
    (h : ∀ references, Selection.parse selection pod = .ok references → ∀ r ∈ references, r.ns = ns) :
    (count key selection pod).AsksIn ns := by
  refine (asksIn_resolve h).bind fun types => ?_
  have hremember : (UsageTask.remember key (combine types) (.done (combine types))).AsksIn ns := trivial
  exact hremember.adjustAll (labels types (combine types)) 1

/-- When all references are to one namespace, nothing is asked for outside of it. -/
theorem asksIn_add [Nesting] (key : Text) {selection pod : Text}
    (h : ∀ references, Selection.parse selection pod = .ok references → ∀ r ∈ references, r.ns = ns) :
    (add key selection pod).AsksIn ns := by
  intro answer
  cases answer with
  | none => exact asksIn_count key h
  | some combination => exact (asksIn_delete key).bind fun _ => asksIn_count key h

end UsageTracker

end NetAttach
