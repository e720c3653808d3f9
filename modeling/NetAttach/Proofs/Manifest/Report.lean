/-
  What is printed about manifests.

  The documents of all files are gone through in order.  One that is an attachment or a pod is answered with one
  line, which says what an endpoint would have decided on it; the others are passed over.

  It is not so that every document can be answered.  The name that a line begins with is looked for in the metadata
  before anything else is asked of the document, and metadata that are neither a mapping nor count as false end the
  run, whatever the document is.  So does an attachment or a pod on which there is no decision, or whose name is nested
  too deep to be written.  The run stumbles over such a document (`Stumbles`), and of those behind it nothing is said.

  Structure:
  1. `Value.Short`: values whose integers can be written have a text, unless they are nested too deep;
  2. `ofDocument_cases`: what becomes of one document, by its kind and its metadata;
  3. `Reported`: what is to be printed for a row of documents, one constructor for each thing that can become of the
     first of them; reports on files are of this form (`reported_report`);
  4. what is read off such a report (`report_answers`).
-/
import NetAttach.Manifest.Verdict
import NetAttach.Proofs.Admission.Endpoint

namespace NetAttach

/-! ## Values that can be written -/

/-- An integer has no more digits than can be written. -/
def Scalar.IsShort : Scalar → Prop
  | int n => (Text.ofNat n.natAbs).length ≤ integerDigitLimit
  | _ => True

namespace Scalar

theorem IsShort.exists_shown {s : Scalar} (h : s.IsShort) : ∃ t, Value.told s.shown? = .ok t := by
  cases s with
  | int n =>
    have hshown : Scalar.shown? (.int n) = _ := if_neg (Nat.not_lt.mpr h)
    exact ⟨_, by rw [hshown]; rfl⟩
  | _ => exact ⟨_, rfl⟩

theorem IsShort.exists_quoted {s : Scalar} (h : s.IsShort) : ∃ t, Value.told s.quoted? = .ok t := by
  cases s with
  | text t | moment m => exact ⟨_, rfl⟩
  | _ => exact h.exists_shown

end Scalar

namespace Value

/-- All integers in a value can be written. -/
inductive Short : Value → Prop where
  | scalar {s : Scalar} : s.IsShort → Short (.scalar s)
  | list {items : List Value} : (∀ v ∈ items, Short v) → Short (.list items)
  | mapping {entries : Entries} :
    (∀ e ∈ entries, e.1.IsShort) → (∀ e ∈ entries, Short e.2) → Short (.mapping entries)
  | pair {first second : Value} : Short first → Short second → Short (.pair first second)
  | set {members : List Scalar} : (∀ s ∈ members, s.IsShort) → Short (.set members)
  | loop {name : Nat} {v : Value} : Short v → Short (.loop name v)
  | again {name : Nat} {shape : Shape} : Short (.again name shape)

theorem explainItems_eq_map (name : Nat) (whole : Value) (items : List Value) :
    explainItems name whole items = items.map (explain name whole) := by
  induction items with
  | nil => rfl
  | cons v rest ih => rw [explainItems, ih, List.map_cons]

theorem explainEntries_eq_map (name : Nat) (whole : Value) (entries : Entries) :
    explainEntries name whole entries = entries.map fun e => (e.1, explain name whole e.2) := by
  induction entries with
  | nil => rfl
  | cons e rest ih => rw [explainEntries, ih, List.map_cons]

theorem Short.explain {whole v : Value} (hwhole : whole.Short) (h : v.Short) (name : Nat) :
    (explain name whole v).Short := by
  induction h with
  | scalar hs => exact .scalar hs
  | @list items _ ih =>
    rw [Value.explain, explainItems_eq_map]
    exact .list (List.forall_mem_map.mpr ih)
  | @mapping entries hkeys _ ih =>
    rw [Value.explain, explainEntries_eq_map]
    exact .mapping (List.forall_mem_map.mpr hkeys) (List.forall_mem_map.mpr ih)
  | pair _ _ ihfirst ihsecond => exact .pair ihfirst ihsecond
  | set hs => exact .set hs
  | @loop other v hv ih =>
    rw [Value.explain]
    split
    · exact .loop hv
    · exact .loop ih
  | again =>
    rw [Value.explain]
    split
    · exact hwhole
    · exact .again

/-- The entries of a mapping, those of one that holds itself included. -/
theorem Short.of_asMapping? {v : Value} (h : v.Short) {entries : Entries} (hv : v.asMapping? = some entries) :
    ∀ e ∈ entries, Short e.2 := by
  -- opening a value that holds itself puts the whole in place of what refers to it, and the whole is short
  have hopened : v.opened.Short := by
    cases h with
    | loop hloop => exact (Short.loop hloop).explain hloop _
    | scalar hs => exact .scalar hs
    | list hitems => exact .list hitems
    | mapping hkeys hvalues => exact .mapping hkeys hvalues
    | pair hfirst hsecond => exact .pair hfirst hsecond
    | set hs => exact .set hs
    | again => exact .again
  unfold asMapping? at hv
  split at hv
  · rename_i entries' heq
    obtain rfl := Option.some.inj hv
    rw [heq] at hopened
    cases hopened with
    | mapping _ hvalues => exact hvalues
  · exact nomatch hv

theorem Short.of_get? {entries : Entries} (h : ∀ e ∈ entries, Short e.2) {key : Text} {v : Value}
    (hv : entries.get? key = some v) : v.Short := by
  obtain ⟨e, he, rfl⟩ := Option.map_eq_some_iff.mp hv
  exact h e (List.mem_of_find?_eq_some he)

theorem Short.field {entries : Entries} (h : ∀ e ∈ entries, Short e.2) (key : Text) :
    (Entries.field entries key).Short := by
  unfold Entries.field
  cases hv : Entries.get? entries key with
  | none => exact .scalar trivial
  | some v => exact .of_get? h hv

/-- There is something, or else it is nested too deep for it. -/
def OrTooDeep {α : Type} (r : Except Untold α) : Prop := (∃ a, r = .ok a) ∨ r = .error .tooDeep

theorem OrTooDeep.map {α β : Type} {r : Except Untold α} (h : OrTooDeep r) (f : α → β) : OrTooDeep (r.map f) := by
  rcases h with ⟨a, rfl⟩ | rfl
  · exact Or.inl ⟨f a, rfl⟩
  · exact Or.inr rfl

theorem orTooDeep_quotedItems {room : Nat} {around : List Nat} {items : List Value}
    (h : ∀ v ∈ items, OrTooDeep (quotedIn room around v)) : OrTooDeep (quotedItems room around items) := by
  induction items with
  | nil => exact Or.inl ⟨[], by rw [quotedItems]⟩
  | cons v rest ih =>
    rw [quotedItems]
    rcases h v List.mem_cons_self with ⟨t, ht⟩ | hv
    · rw [ht]
      exact (ih fun w hw => h w (List.mem_cons_of_mem v hw)).map _
    · rw [hv]
      exact Or.inr rfl

theorem orTooDeep_quotedEntries {room : Nat} {around : List Nat} {entries : Entries}
    (hkeys : ∀ e ∈ entries, e.1.IsShort) (h : ∀ e ∈ entries, OrTooDeep (quotedIn room around e.2)) :
    OrTooDeep (quotedEntries room around entries) := by
  induction entries with
  | nil => exact Or.inl ⟨[], by rw [quotedEntries]⟩
  | cons e rest ih =>
    cases room with
    | zero => exact Or.inr (by rw [quotedEntries])
    | succ room =>
      obtain ⟨key, hkey⟩ := (hkeys e List.mem_cons_self).exists_quoted
      rw [quotedEntries, hkey]
      rcases h e List.mem_cons_self with ⟨t, ht⟩ | he
      · rw [ht]
        exact (ih (fun f hf => hkeys f (List.mem_cons_of_mem e hf)) fun f hf => h f (List.mem_cons_of_mem e hf)).map _
      · rw [he]
        exact Or.inr rfl

theorem exists_quotedMembers {members : List Scalar} (h : ∀ s ∈ members, s.IsShort) :
    ∃ ts, members.mapM (fun s => told s.quoted?) = .ok ts := by
  induction members with
  | nil => exact ⟨[], rfl⟩
  | cons s rest ih =>
    obtain ⟨t, ht⟩ := (h s List.mem_cons_self).exists_quoted
    obtain ⟨ts, hts⟩ := ih fun r hr => h r (List.mem_cons_of_mem s hr)
    exact ⟨t :: ts, by rw [List.mapM_cons, ht, hts]; rfl⟩

/-- By induction on the value; what stands around it only matters for the collections that hold themselves. -/
theorem Short.orTooDeep_quotedIn {v : Value} (h : v.Short) (room : Nat) (around : List Nat) :
    OrTooDeep (v.quotedIn room around) := by
  induction h generalizing room around with
  | scalar hs =>
    cases room with
    | zero => exact Or.inr (by rw [quotedIn])
    | succ room =>
      rw [quotedIn]
      exact Or.inl hs.exists_quoted
  | list _ ih =>
    cases room with
    | zero => exact Or.inr (by rw [quotedIn])
    | succ room =>
      rw [quotedIn]
      exact (orTooDeep_quotedItems fun v hv => ih v hv room around).map _
  | mapping hkeys _ ih =>
    cases room with
    | zero => exact Or.inr (by rw [quotedIn])
    | succ room =>
      rw [quotedIn]
      exact (orTooDeep_quotedEntries hkeys fun e he => ih e he room around).map _
  | pair _ _ ihfirst ihsecond =>
    cases room with
    | zero => exact Or.inr (by rw [quotedIn])
    | succ room =>
      rw [quotedIn]
      rcases ihfirst room around with ⟨a, ha⟩ | hfirst
      · rw [ha]
        exact (ihsecond room around).map _
      · rw [hfirst]
        exact Or.inr rfl
  | @set members hs =>
    cases room with
    | zero => exact Or.inr (by rw [quotedIn])
    | succ room =>
      cases members with
      | nil => exact Or.inl ⟨_, by rw [quotedIn]⟩
      | cons s rest =>
        rw [quotedIn]
        split
        · exact Or.inr rfl
        · obtain ⟨ts, hts⟩ := exists_quotedMembers hs
          exact Or.inl ⟨_, by rw [hts]; rfl⟩
  | @loop name v _ ih =>
    cases room with
    | zero => exact Or.inr (by rw [quotedIn])
    | succ room =>
      rw [quotedIn]
      split
      · exact Or.inl ⟨_, rfl⟩
      · exact ih _ _
  | again =>
    cases room with
    | zero => exact Or.inr (by rw [quotedIn])
    | succ room => exact Or.inl ⟨_, by rw [quotedIn]⟩

theorem Short.orTooDeep_shown {v : Value} (h : v.Short) (room : Nat) : OrTooDeep (v.shown room) := by
  cases h with
  | scalar hs => exact Or.inl hs.exists_shown
  | list hitems => exact (Short.list hitems).orTooDeep_quotedIn room []
  | mapping hkeys hvalues => exact (Short.mapping hkeys hvalues).orTooDeep_quotedIn room []
  | pair hfirst hsecond => exact (Short.pair hfirst hsecond).orTooDeep_quotedIn room []
  | set hs => exact (Short.set hs).orTooDeep_quotedIn room []
  | loop hv => exact (Short.loop hv).orTooDeep_quotedIn room []
  | again => exact Short.again.orTooDeep_quotedIn room []

end Value

/-! ## One document -/

namespace Verdict

/-- The endpoint that decides on documents of this kind, if one does. -/
def endpoint? (document : Value) : Option Endpoint :=
  document.asMapping?.bind fun entries =>
    if Entries.field entries "kind" = .text "NetworkAttachmentDefinition" then some .validate
    else if Entries.field entries "kind" = .text "Pod" then some .isolate
    else none

/-- The document has metadata that are no mapping, and do not count as false either. -/
def HasOddMetadata (document : Value) : Prop :=
  ∃ entries, document.asMapping? = some entries ∧ (Entries.field entries "metadata").truth = true ∧
    (Entries.field entries "metadata").asMapping? = none

/-- The document cannot be answered: its metadata are odd, or the endpoint for its kind fails, or its name is nested too
deep to be written. -/
inductive Stumbles [Nesting] (document : Value) : Prop
  | metadata (h : HasOddMetadata document) : Stumbles document
  | endpoint {e : Endpoint} {f : Failure} (h : endpoint? document = some e) (hfails : e.Fails document f) :
      Stumbles document
  | label {e : Endpoint} {entries : Entries} {name : Value} (h : endpoint? document = some e)
      (hentries : document.asMapping? = some entries) (hname : nameOf entries = .ok name)
      (hdeep : name.shown Nesting.label = .error .tooDeep) : Stumbles document

section Documents

variable {document : Value} {entries : Entries}

/-- The name is there and its integers can be written, unless the metadata are odd. -/
theorem nameOf_cases (h : document.asMapping? = some entries) (hshort : document.Short) :
    (HasOddMetadata document ∧ ∃ f, nameOf entries = .error f) ∨
      ¬HasOddMetadata document ∧ ∃ name, nameOf entries = .ok name ∧ name.Short := by
  have hodd : HasOddMetadata document ↔ (Entries.field entries "metadata").truth = true ∧
      (Entries.field entries "metadata").asMapping? = none := by
    constructor
    · rintro ⟨others, hothers, hmetadata⟩
      obtain rfl := Option.some.inj (h.symm.trans hothers)
      exact hmetadata
    · exact fun hmetadata => ⟨entries, h, hmetadata⟩
  have hmetadata : (Entries.field entries "metadata").Short := .field (hshort.of_asMapping? h) _
  rw [hodd]
  unfold nameOf Value.orElse
  cases htruth : (Entries.field entries "metadata").truth with
  | false => exact Or.inr ⟨fun hno => (nomatch hno.1), .text unnamed, rfl, .scalar trivial⟩
  | true =>
    rw [if_pos rfl]
    cases hfields : (Entries.field entries "metadata").asMapping? with
    | none =>
      refine Or.inl ⟨⟨rfl, rfl⟩, .notMapping (Entries.field entries "metadata").typeName, ?_⟩
      simp only [hfields]
    | some fields =>
      refine Or.inr ⟨fun hno => (nomatch hno.2), (Entries.get? fields "name").getD (.text unnamed), ?_⟩
      simp only [hfields, true_and]
      cases hname : Entries.get? fields "name" with
      | none => exact .scalar trivial
      | some name => exact .of_get? (hmetadata.of_asMapping? hfields) hname

variable [Nesting]

theorem reviewer?_eq (h : document.asMapping? = some entries) :
    (reviewer? (Entries.field entries "kind")).map (·.2) = (endpoint? document).map Endpoint.decide := by
  unfold reviewer? endpoint?
  rw [h, Option.bind_some]
  simp only [show Attachment.kind = "NetworkAttachmentDefinition" from rfl, show SubmittedPod.kind = "Pod" from rfl]
  split
  · rfl
  · split <;> rfl

theorem ofDocument_of_failure (h : document.asMapping? = some entries) {f : Failure}
    (hname : nameOf entries = .error f) :
    ofDocument document = .error f := by
  simp only [ofDocument, h, hname]
  rfl

/-- With a name, the kind of the document says what becomes of it. -/
theorem ofDocument_of_name (h : document.asMapping? = some entries) {name : Value} (hname : nameOf entries = .ok name)
    (hshort : name.Short) :
    (endpoint? document = none ∧ ofDocument document = .ok none) ∨
      ∃ e kind, endpoint? document = some e ∧
        ((name.shown Nesting.label = .error .tooDeep ∧ ∃ f, ofDocument document = .error f) ∨
          ∃ t, name.shown Nesting.label = .ok t ∧ ofDocument document =
            (e.decide document).map fun decision => some ⟨kind ++ "/" ++ t, decision.allowed, decision.message⟩) := by
  have hreviewer := reviewer?_eq h
  cases hkind : reviewer? (Entries.field entries "kind") with
  | none =>
    rw [hkind] at hreviewer
    refine Or.inl ⟨Option.map_eq_none_iff.mp hreviewer.symm, ?_⟩
    simp only [ofDocument, h, hname, hkind]
    rfl
  | some p =>
    obtain ⟨kind, review⟩ := p
    rw [hkind] at hreviewer
    obtain ⟨e, he, hdecide⟩ := Option.map_eq_some_iff.mp hreviewer.symm
    obtain rfl : e.decide = review := hdecide
    refine Or.inr ⟨e, kind, he, ?_⟩
    simp only [ofDocument, h, hname, hkind, bind, Except.bind]
    rcases hshort.orTooDeep_shown Nesting.label with ⟨t, ht⟩ | hdeep
    · refine Or.inr ⟨t, ht, ?_⟩
      cases e.decide document with
      | error f => rfl
      | ok decision => simp only [ht]; rfl
    · refine Or.inl ⟨hdeep, ?_⟩
      cases e.decide document with
      | error f => exact ⟨f, rfl⟩
      | ok decision => exact ⟨_, by simp only [hdeep]; rfl⟩

/-- What becomes of a document: the run stumbles over it, or passes it over, or answers it with what the endpoint for
its kind decides. -/
theorem ofDocument_cases (hshort : document.Short) :
    (Stumbles document ∧ ∃ f, ofDocument document = .error f) ∨
    ¬Stumbles document ∧
      ((endpoint? document = none ∧ ofDocument document = .ok none) ∨
        ∃ e decision v, endpoint? document = some e ∧ e.decide document = .ok decision ∧
          ofDocument document = .ok (some v) ∧ v.allowed = decision.allowed ∧ v.message = decision.message) := by
  -- the metadata are looked at first, also in a document that is of no account
  cases hentries : document.asMapping? with
  | none =>
    have hkind : endpoint? document = none := by rw [endpoint?, hentries, Option.bind_none]
    refine Or.inr ⟨fun hstumbles => ?_, Or.inl ⟨hkind, by simp only [ofDocument, hentries]; rfl⟩⟩
    cases hstumbles with
    | metadata h =>
      obtain ⟨entries, h, -⟩ := h
      exact nomatch hentries.symm.trans h
    | endpoint h _ | label h _ _ _ => exact nomatch hkind.symm.trans h
  | some entries =>
    rcases nameOf_cases hentries hshort with ⟨hodd, f, hname⟩ | ⟨hplain, name, hname, hnameShort⟩
    · exact Or.inl ⟨.metadata hodd, f, ofDocument_of_failure hentries hname⟩
    · rcases ofDocument_of_name hentries hname hnameShort with
        ⟨hkind, hpassed⟩ | ⟨e, kind, hkind, ⟨hdeep, f, hfailed⟩ | ⟨t, ht, hanswered⟩⟩
      · refine Or.inr ⟨fun hstumbles => ?_, Or.inl ⟨hkind, hpassed⟩⟩
        cases hstumbles with
        | metadata h => exact hplain h
        | endpoint h _ | label h _ _ _ => exact nomatch hkind.symm.trans h
      · exact Or.inl ⟨.label hkind hentries hname hdeep, f, hfailed⟩
      · rcases e.decide_cases document with ⟨decision, hdecide, -, hfine⟩ | ⟨f, hdecide, hfails⟩
        · refine Or.inr ⟨fun hstumbles => ?_,
            Or.inr ⟨e, decision, _, hkind, hdecide, by rw [hanswered, hdecide]; rfl, rfl, rfl⟩⟩
          cases hstumbles with
          | metadata h => exact hplain h
          | endpoint h hfails =>
            obtain rfl := Option.some.inj (hkind.symm.trans h)
            exact hfine _ hfails
          | label _ hother hothername hdeep =>
            obtain rfl := Option.some.inj (hentries.symm.trans hother)
            obtain rfl := Except.ok.inj (hname.symm.trans hothername)
            exact nomatch ht.symm.trans hdeep
        · exact Or.inl ⟨.endpoint hkind hfails, f, by rw [hanswered, hdecide]; rfl⟩

end Documents

end Verdict

/-! ## Rows of documents -/

namespace Manifest

open Verdict (endpoint? Stumbles ofDocument_cases)

/-- A document with the path of its file and its number there. -/
structure Numbered where
  path : PathName
  index : Nat
  document : Value

/-- Documents of one file, the first of which has number `index`. -/
def numberedFrom (path : PathName) (index : Nat) (documents : List Value) : List Numbered :=
  (documents.zipIdx index).map fun p => ⟨path, p.2, p.1⟩

/-- The documents of all files, in order. -/
def numbered (files : List File) : List Numbered :=
  files.flatMap fun f => numberedFrom f.path 0 f.documents

namespace Numbered

/-- The endpoint for the kind of the document decides that it is not allowed. -/
def Denied [Nesting] (d : Numbered) : Prop :=
  ∃ e decision, endpoint? d.document = some e ∧ e.decide d.document = .ok decision ∧ decision.allowed = false

/-- What is printed for a document: nothing, or one line with its place and the verdict of the endpoint. -/
inductive Printed [Nesting] (d : Numbered) : List (Text × Verdict) → Prop where
  | passed : endpoint? d.document = none → Printed d []
  | answered {e : Endpoint} {decision : Decision} {v : Verdict} : endpoint? d.document = some e →
    e.decide d.document = .ok decision → v.allowed = decision.allowed → v.message = decision.message →
    Printed d [(v.line d.path d.index, v)]

theorem Printed.denied_iff [Nesting] {d : Numbered} {printed : List (Text × Verdict)} (h : d.Printed printed) :
    (∃ p ∈ printed, p.2.allowed = false) ↔ d.Denied := by
  cases h with
  | passed hkind =>
    constructor
    · rintro ⟨p, hp, -⟩
      exact absurd hp List.not_mem_nil
    · rintro ⟨e, decision, h, -⟩
      exact nomatch hkind.symm.trans h
  | @answered e decision v hkind hdecide hallowed hmessage =>
    constructor
    · rintro ⟨p, hp, hdenied⟩
      rw [List.mem_singleton.mp hp, hallowed] at hdenied
      exact ⟨e, decision, hkind, hdecide, hdenied⟩
    · rintro ⟨other, otherDecision, h, hother, hdenied⟩
      obtain rfl := Option.some.inj (hkind.symm.trans h)
      obtain rfl := Except.ok.inj (hdecide.symm.trans hother)
      exact ⟨_, List.mem_singleton_self _, hallowed.trans hdenied⟩

end Numbered

/-- `Reported docs r`: every document is printed as it should be, up to the first one that makes the run stumble. -/
inductive Reported [Nesting] : List Numbered → Report → Prop where
  | nil : Reported [] ⟨[], none⟩
  | stumble {d : Numbered} {rest : List Numbered} {f : Failure} :
    Stumbles d.document → Reported (d :: rest) ⟨[], some (.failure f)⟩
  | next {d : Numbered} {rest : List Numbered} {printed : List (Text × Verdict)} {r : Report} :
    ¬Stumbles d.document → d.Printed printed → Reported rest r →
    Reported (d :: rest) ⟨printed ++ r.verdicts, r.fault⟩

theorem reported_reportFrom [Nesting] (path : PathName) (index : Nat) (documents : List Value)
    (h : ∀ document ∈ documents, document.Short) :
    Reported (numberedFrom path index documents) (reportFrom path none index documents) := by
  induction documents generalizing index with
  | nil => exact .nil
  | cons document rest ih =>
    have hrest := ih (index + 1) fun other hother => h other (List.mem_cons_of_mem document hother)
    have hnumbered : numberedFrom path index (document :: rest) =
        ⟨path, index, document⟩ :: numberedFrom path (index + 1) rest := by
      rw [numberedFrom, List.zipIdx_cons, List.map_cons]
      rfl
    rw [hnumbered, reportFrom]
    rcases ofDocument_cases (h document List.mem_cons_self) with
      ⟨hstumbles, f, hdocument⟩ | ⟨hfine, ⟨hkind, hdocument⟩ | ⟨e, decision, v, hkind, hdecide, hdocument, hv⟩⟩
    · rw [hdocument]
      exact .stumble hstumbles
    · rw [hdocument]
      exact .next hfine (.passed hkind) hrest
    · rw [hdocument]
      exact .next hfine (.answered hkind hdecide hv.1 hv.2) hrest

theorem Reported.append [Nesting] {docs others : List Numbered} {r s : Report} (h : Reported docs r)
    (h' : Reported others s) : Reported (docs ++ others) (r.append s) := by
  induction h with
  | nil => exact h'
  | stumble hstumbles => exact .stumble hstumbles
  | @next d rest printed r hfine hprinted _ ih =>
    have happend : Report.append ⟨printed ++ r.verdicts, r.fault⟩ s =
        ⟨printed ++ (r.append s).verdicts, (r.append s).fault⟩ := by
      unfold Report.append
      cases hfault : r.fault with
      | none => simp only [List.append_assoc]
      | some fault => simp only [hfault]
    rw [happend]
    exact .next hfine hprinted ih

theorem reported_report [Nesting] (files : List File) (hread : ∀ f ∈ files, f.fault = none)
    (hshort : ∀ f ∈ files, ∀ document ∈ f.documents, document.Short) : Reported (numbered files) (report files) := by
  induction files with
  | nil => exact .nil
  | cons f rest ih =>
    have hfile : Reported (numberedFrom f.path 0 f.documents) f.report := by
      rw [File.report, hread f List.mem_cons_self]
      exact reported_reportFrom f.path 0 f.documents (hshort f List.mem_cons_self)
    have hrest := ih (fun g hg => hread g (List.mem_cons_of_mem f hg))
      fun g hg => hshort g (List.mem_cons_of_mem f hg)
    exact hfile.append hrest

/-! ## What is read off a report -/

/-- The documents in front of the first one that makes the run stumble are printed, and the others are not. -/
theorem Reported.split [Nesting] {docs : List Numbered} {r : Report} (h : Reported docs r) :
    ∃ done rest printed, docs = done ++ rest ∧ (∀ d ∈ done, ¬Stumbles d.document) ∧
      ((rest = [] ∧ r.fault = none) ∨ ∃ d others f, rest = d :: others ∧ Stumbles d.document ∧
        r.fault = some (.failure f)) ∧
      List.Forall₂ Numbered.Printed done printed ∧ r.verdicts = printed.flatten := by
  induction h with
  | nil => exact ⟨[], [], [], rfl, fun _ h => absurd h List.not_mem_nil, Or.inl ⟨rfl, rfl⟩, .nil, rfl⟩
  | @stumble d rest f hstumbles =>
    exact ⟨[], d :: rest, [], rfl, fun _ h => absurd h List.not_mem_nil,
      Or.inr ⟨d, rest, f, rfl, hstumbles, rfl⟩, .nil, rfl⟩
  | @next d rest lines r hfine hprinted _ ih =>
    obtain ⟨done, others, printed, rfl, hdone, hend, hall, hverdicts⟩ := ih
    refine ⟨d :: done, others, lines :: printed, rfl, ?_, hend, .cons hprinted hall, ?_⟩
    · exact List.forall_mem_cons.mpr ⟨hfine, hdone⟩
    · rw [List.flatten_cons, ← hverdicts]

/-- What is printed holds a denial when one of the documents is denied. -/
theorem denied_of_printed [Nesting] {docs : List Numbered} {printed : List (List (Text × Verdict))}
    (h : List.Forall₂ Numbered.Printed docs printed) :
    (∃ p ∈ printed.flatten, p.2.allowed = false) ↔ ∃ d ∈ docs, d.Denied := by
  induction h with
  | nil => simp
  | @cons d lines docs printed hd _ ih =>
    rw [List.flatten_cons, List.exists_mem_cons_iff, ← ih, ← hd.denied_iff]
    simp only [List.mem_append, or_and_right, exists_or]

theorem exitCode_cases (r : Report) :
    (r.exitCode = 1 ∧ ∃ p ∈ r.verdicts, p.2.allowed = false) ∨
      r.exitCode = 0 ∧ ¬∃ p ∈ r.verdicts, p.2.allowed = false := by
  have hany : (r.verdicts.any fun p => !p.2.allowed) = true ↔ ∃ p ∈ r.verdicts, p.2.allowed = false := by
    simp only [List.any_eq_true, Bool.not_eq_true']
  unfold Report.exitCode
  split
  · rename_i h
    exact Or.inl ⟨rfl, hany.mp h⟩
  · rename_i h
    exact Or.inr ⟨rfl, mt hany.mpr h⟩

/-- **Every document is answered unless the run stumbles over one.**  For all files whose documents could be read, with
integers that can be written: the run comes to its end exactly when no document has odd metadata, or is one that the
endpoint for its kind fails on, or has a name that is nested too deep to be written.  In any case it prints, in order,
what is to be printed for each document in front of the first one of these: for an attachment or a pod one line with the
path, the number among all documents of the file and what the endpoint decides, and nothing for another document.  A run
that comes to its end returns 1 when one of the documents is denied, and 0 otherwise. -/
theorem report_answers [Nesting] {files : List File} (hread : ∀ f ∈ files, f.fault = none)
    (hshort : ∀ f ∈ files, ∀ document ∈ f.documents, document.Short) :
    ((report files).fault = none ↔ ∀ d ∈ numbered files, ¬Stumbles d.document) ∧
    (∃ done rest printed, numbered files = done ++ rest ∧ (∀ d ∈ done, ¬Stumbles d.document) ∧
      (∀ d, rest.head? = some d → Stumbles d.document) ∧ List.Forall₂ Numbered.Printed done printed ∧
      (report files).verdicts = printed.flatten) ∧
    ((report files).fault = none →
      ((∃ d ∈ numbered files, d.Denied) → (report files).exitCode = 1) ∧
      ((¬∃ d ∈ numbered files, d.Denied) → (report files).exitCode = 0)) := by
  obtain ⟨done, rest, printed, hdocs, hdone, hend, hprinted, hverdicts⟩ := (reported_report files hread hshort).split
  rcases hend with ⟨rfl, hfault⟩ | ⟨d, others, f, rfl, hstumbles, hfault⟩
  · -- there is no such document
    rw [List.append_nil] at hdocs
    have hdenied : (∃ p ∈ (report files).verdicts, p.2.allowed = false) ↔ ∃ d ∈ done, d.Denied := by
      rw [hverdicts, denied_of_printed hprinted]
    rw [hdocs, ← hdenied]
    refine ⟨iff_of_true hfault hdone,
      ⟨done, [], printed, (List.append_nil done).symm, hdone, fun _ hd => (nomatch hd), hprinted, hverdicts⟩,
      fun _ => ?_⟩
    rcases exitCode_cases (report files) with ⟨hcode, hsome⟩ | ⟨hcode, hnone⟩
    · exact ⟨fun _ => hcode, fun h => absurd hsome h⟩
    · exact ⟨fun h => absurd h hnone, fun _ => hcode⟩
  · have hmem : d ∈ numbered files := hdocs ▸ List.mem_append_right done List.mem_cons_self
    have hsome : ¬(report files).fault = none := by
      rw [hfault]
      exact (nomatch ·)
    refine ⟨iff_of_false hsome fun hall => hall d hmem hstumbles,
      ⟨done, d :: others, printed, hdocs, hdone, ?_, hprinted, hverdicts⟩, fun h => absurd h hsome⟩
    intro other hother
    obtain rfl := Option.some.inj hother
    exact hstumbles

/-- A document of no account, whose metadata are a text. -/
def oddDocument : Value := .mapping [(.text "kind", .text "ConfigMap"), (.text "metadata", .text "x")]

/-- A pod that selects nothing. -/
def plainPod : Value := .mapping [(.text "kind", .text "Pod"), (.text "metadata", .mapping [(.text "name", .text "p")])]

/-- A document that is none of the two kinds ends the run, and the pod behind it, which would have been allowed, is
not answered. -/
theorem report_stumbles_over_text_metadata :
    let files : List File := [⟨.ofText "a.yaml", [oddDocument, plainPod], none⟩]
    (∀ f ∈ files, ∀ document ∈ f.documents, document.Short) ∧ endpoint? oddDocument = none ∧
    endpoint? plainPod = some .isolate ∧ reviewPod plainPod = .ok (.allow []) ∧
    (report files).fault ≠ none ∧ (report files).lines = [] := by
  intro files
  have hodd : oddDocument.Short :=
    .mapping (List.forall_mem_cons.mpr ⟨trivial, List.forall_mem_singleton.mpr trivial⟩)
      (List.forall_mem_cons.mpr ⟨.scalar trivial, List.forall_mem_singleton.mpr (.scalar trivial)⟩)
  have hmetadata : (Value.mapping [(.text "name", .text "p")]).Short :=
    .mapping (List.forall_mem_singleton.mpr trivial) (List.forall_mem_singleton.mpr (.scalar trivial))
  have hpod : plainPod.Short :=
    .mapping (List.forall_mem_cons.mpr ⟨trivial, List.forall_mem_singleton.mpr trivial⟩)
      (List.forall_mem_cons.mpr ⟨.scalar trivial, List.forall_mem_singleton.mpr hmetadata⟩)
  have hshort : ∀ f ∈ files, ∀ document ∈ f.documents, document.Short :=
    List.forall_mem_singleton.mpr (List.forall_mem_cons.mpr ⟨hodd, List.forall_mem_singleton.mpr hpod⟩)
  have hstumbles : Stumbles oddDocument := .metadata ⟨_, rfl, rfl, rfl⟩
  refine ⟨hshort, rfl, rfl, rfl, fun hfault => ?_, rfl⟩
  have hread : ∀ f ∈ files, f.fault = none := fun f hf => by rw [List.mem_singleton.mp hf]
  exact (report_answers hread hshort).1.mp hfault ⟨.ofText "a.yaml", 0, oddDocument⟩ List.mem_cons_self hstumbles

end Manifest

end NetAttach
