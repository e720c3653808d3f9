/-
  Which command lines are read, and as what.

  Where no operand is wanted, what is read is a row of flags: each is spelled by its name or by a beginning of it that
  is no beginning of another name, and its value is the next word or stands behind an equals sign.  `Spells` says this
  without telling words apart first, and a command line is read exactly when it spells something, and as that
  (`read_eq_ok_iff`, `Spells.unique`).

  Structure:
  1. `Means`, `IsOperand`: the flag that a word means, and the words that a flag takes for its value;
  2. `Spells`: a row of flags;
  3. what a word is told to be (`wordOf_eq_flag`, `wordOf_eq_operand`);
  4. what is done with the words, by induction on it (`spells_of_act`).
-/
import NetAttach.CommandLine.Arguments
import NetAttach.Proofs.Text.Parts

namespace NetAttach.CommandLine

/-- Names of flags that can be told apart: none begins another or holds an equals sign, and one with a single dash
is of one letter and calls for help. -/
structure WellNamed (flags : List Flag) : Prop where
  apart : flags.Pairwise fun f g => ¬f.name <+: g.name ∧ ¬g.name <+: f.name
  plain : ∀ f ∈ flags, (CodePoint.ofChar '=') ∉ f.name
  short : ∀ f ∈ flags, Text.ofString "--" <+: f.name ∨ f.action = .help ∧ f.name.length = 2

section Grammar

variable (flags : List Flag)

/-- A text with both dashes means the flag whose name alone begins with it. -/
def Means (start : Text) (f : Flag) : Prop :=
  f ∈ flags ∧ Text.ofString "--" <+: start ∧ ∀ g ∈ flags, start <+: g.name ↔ g = f

/-- A word that is no flag: there is no dash in front, or nothing behind it, or it may mean no flag and is a negative
number or holds a space. -/
def IsOperand (t : Text) : Prop :=
  t.head? ≠ some (CodePoint.ofChar '-') ∨ t = "-" ∨
    candidates flags t = [] ∧ (isNegativeNumber t = true ∨ CodePoint.ofChar ' ' ∈ t)

/-- The words spell a row of flags, each with its value if it has one.  Two dashes are no value. -/
inductive Spells : List Text → List (Text × Option Text) → Prop
  | nil : Spells [] []
  | switch {t f words said} : Means flags t f → t ≠ "--" → f.action = .switch → Spells words said →
      Spells (t :: words) ((f.name, none) :: said)
  | next {t v f accepts words said} : Means flags t f → t ≠ "--" → f.action = .take accepts → IsOperand flags v →
      accepts v = true → Spells words said → Spells (t :: v :: words) ((f.name, some v) :: said)
  | attached {start v : Text} {f accepts words said} : Means flags start f → f.action = .take accepts → v ≠ "--" →
      accepts v = true → Spells words said →
      Spells ((start ++ CodePoint.ofChar '=' :: v) :: words) ((f.name, some v) :: said)
  | bare {start f accepts words said} : Means flags start f → f.action = .take accepts → Spells words said →
      Spells ((start ++ CodePoint.ofChar '=' :: Text.ofString "--") :: words) ((f.name, none) :: said)

end Grammar

section Words

variable {flags : List Flag}

/-! ## Flags by name -/

theorem prefix_iff {t : Text} : Text.ofString "--" <+: t ↔ t.take 2 = Text.ofString "--" :=
  List.prefix_iff_eq_take.trans eq_comm

/-- With both dashes, a text begins with a dash and something behind it. -/
theorem exists_of_dashes {t : Text} (h : Text.ofString "--" <+: t) :
    ∃ rest, t = CodePoint.ofChar '-' :: CodePoint.ofChar '-' :: rest := by
  obtain ⟨rest, rfl⟩ := h
  exact ⟨rest, rfl⟩

theorem means_of_filter {start : Text} {f : Flag} (hdashes : Text.ofString "--" <+: start)
    (h : flags.filter (fun g => start.isPrefixOf g.name) = [f]) : Means flags start f := by
  have hmem (g : Flag) : g ∈ flags ∧ start <+: g.name ↔ g = f := by
    rw [← List.mem_singleton, ← h, List.mem_filter, List.isPrefixOf_iff_prefix]
  refine ⟨((hmem f).mpr rfl).1, hdashes, fun g hg => ⟨fun hbegins => (hmem g).mp ⟨hg, hbegins⟩, ?_⟩⟩
  exact fun hgf => ((hmem g).mpr hgf).2

namespace WellNamed

variable (hflags : WellNamed flags) {f g : Flag}

include hflags

theorem eq_of_begins (hf : f ∈ flags) (hg : g ∈ flags) (h : f.name <+: g.name) : f = g := by
  by_contra hne
  have hsymm : Std.Symm fun f g : Flag => ¬f.name <+: g.name ∧ ¬g.name <+: f.name := ⟨fun _ _ => And.symm⟩
  exact (hflags.apart.forall hf hg hne).1 h

theorem means_name (hf : f ∈ flags) (hdashes : Text.ofString "--" <+: f.name) : Means flags f.name f := by
  refine ⟨hf, hdashes, fun g hg => ⟨fun h => (hflags.eq_of_begins hf hg h).symm, ?_⟩⟩
  rintro rfl
  exact List.prefix_refl _

theorem dashes_of_action (hf : f ∈ flags) (haction : f.action ≠ .help) : Text.ofString "--" <+: f.name :=
  (hflags.short f hf).resolve_right fun h => haction h.1

/-- There is nothing to cut off a name. -/
theorem cutFirst_of_name {t : Text} (hf : f ∈ flags) (hname : f.name = t) :
    Text.cutFirst (CodePoint.ofChar '=') t = (t, none) :=
  Text.cutFirst_eq_none.mpr ⟨rfl, hname ▸ hflags.plain f hf⟩

/-- What begins a name holds no equals sign. -/
theorem plain_of_means {start : Text} (h : Means flags start f) : CodePoint.ofChar '=' ∉ start :=
  fun hmem => hflags.plain f h.1 (((h.2.2 f h.1).mpr rfl).subset hmem)

theorem filter_of_means {start : Text} (h : Means flags start f) :
    flags.filter (fun g => start.isPrefixOf g.name) = [f] := by
  obtain ⟨hf, -, honly⟩ := h
  obtain ⟨before, after, hsplit⟩ := List.append_of_mem hf
  have hbegins : start <+: f.name := (honly f hf).mpr rfl
  have hapart := hsplit ▸ hflags.apart
  obtain ⟨-, hafter, hbefore⟩ := List.pairwise_append.mp hapart
  have hnone {g : Flag} (hg : g ∈ flags) (hne : ¬f.name <+: g.name) : start.isPrefixOf g.name = false := by
    refine Bool.eq_false_iff.mpr fun hprefix => hne ?_
    rw [(honly g hg).mp (List.isPrefixOf_iff_prefix.mp hprefix)]
  rw [hsplit, List.filter_append, List.filter_cons, if_pos (List.isPrefixOf_iff_prefix.mpr hbegins)]
  rw [List.filter_eq_nil_iff.mpr, List.filter_eq_nil_iff.mpr, List.nil_append]
  · intro g hg
    rw [hnone (hsplit ▸ List.mem_append_right _ (List.mem_cons_of_mem _ hg))
      ((List.pairwise_cons.mp hafter).1 g hg).1]
    exact Bool.false_ne_true
  · intro g hg
    rw [hnone (hsplit ▸ List.mem_append_left _ hg) (hbefore g hg f List.mem_cons_self).2]
    exact Bool.false_ne_true

end WellNamed

/-! ## What a word is -/

theorem begins_of_cutFirst {sep : CodePoint} {t start : Text} {value : Option Text}
    (h : Text.cutFirst sep t = (start, value)) : start <+: t := by
  cases value with
  | none => exact (Text.cutFirst_eq_none.mp h).1 ▸ List.prefix_refl _
  | some v => exact (Text.cutFirst_eq_some.mp h).1 ▸ List.prefix_append ..

/-- No equals sign stands among the dashes, so they are in front of the first one when they are in front at all. -/
theorem dashes_cutFirst {t start : Text} {value : Option Text}
    (h : Text.cutFirst (CodePoint.ofChar '=') t = (start, value)) (hdashes : Text.ofString "--" <+: t) :
    Text.ofString "--" <+: start := by
  obtain ⟨rest, rfl⟩ := exists_of_dashes hdashes
  rw [Text.cutFirst, if_neg (by decide), Text.cutFirst, if_neg (by decide)] at h
  obtain ⟨rfl, -⟩ := Prod.mk.inj h
  exact List.prefix_append (Text.ofString "--") _

theorem named_of_find {t : Text} {f : Flag} (h : flags.find? (fun g => g.name = t) = some f) :
    f ∈ flags ∧ f.name = t := by
  have hname := List.find?_some h
  exact ⟨List.mem_of_find?_eq_some h, of_decide_eq_true hname⟩

theorem named_of_find_start {value : Option Text} {start : Text} {f : Flag}
    (h : flags.find? (fun g => value.isSome && g.name = start) = some f) : f ∈ flags ∧ f.name = start := by
  have hname := List.find?_some h
  exact ⟨List.mem_of_find?_eq_some h, of_decide_eq_true (Bool.and_eq_true_iff.mp hname).2⟩

/-- What need not be looked up among the flags. -/
theorem front_iff {t : Text} : (t.head? ≠ some (CodePoint.ofChar '-') || t.length = 1) = true ↔
    t.head? ≠ some (CodePoint.ofChar '-') ∨ t = "-" := by
  rw [Bool.or_eq_true_iff, decide_eq_true_iff, decide_eq_true_iff]
  refine or_congr_right' fun hhead => ?_
  obtain ⟨rest, rfl⟩ := List.head?_eq_some_iff.mp (not_not.mp hhead)
  rw [List.length_cons, Nat.add_eq_right, List.length_eq_zero_iff]
  exact ⟨fun h => h ▸ rfl, fun h => (List.cons.inj h).2⟩

section Telling

variable (hflags : WellNamed flags) {t : Text} {f : Flag}

include hflags

/-- A word that no flag is found for by a beginning is not the name of one either. -/
theorem not_named_of_candidates {start : Text} {value : Option Text} (h : candidates flags t = [])
    (hcut : Text.cutFirst (CodePoint.ofChar '=') t = (start, value)) (hf : f ∈ flags) (hname : f.name <+: t)
    (hstart : start <+: f.name) : False := by
  unfold candidates at h
  split at h
  · rw [hcut] at h
    have hfilter := List.filter_eq_nil_iff.mp (List.map_eq_nil_iff.mp h) f hf
    exact hfilter (List.isPrefixOf_iff_prefix.mpr hstart)
  · rename_i hsingle
    have hfilter := List.filter_eq_nil_iff.mp (List.map_eq_nil_iff.mp h) f hf
    rcases hflags.short f hf with hdashes | ⟨-, hlength⟩
    · exact hsingle (prefix_iff.mp (hdashes.trans hname))
    · refine hfilter (decide_eq_true ?_)
      rw [List.prefix_iff_eq_take.mp hname, hlength]

theorem candidates_of_means {start : Text} {value : Option Text}
    (hcut : Text.cutFirst (CodePoint.ofChar '=') t = (start, value)) (h : Means flags start f) :
    candidates flags t = [(f, attachedValue value)] := by
  rw [candidates, if_pos (prefix_iff.mp (h.2.1.trans (begins_of_cutFirst hcut))), hcut]
  dsimp only
  rw [hflags.filter_of_means h]
  rfl

theorem means_of_candidates {start : Text} {value : Option Text} {attached : Attached}
    (hcut : Text.cutFirst (CodePoint.ofChar '=') t = (start, value)) (haction : f.action ≠ .help)
    (h : candidates flags t = [(f, attached)]) : attached = attachedValue value ∧ Means flags start f := by
  unfold candidates at h
  split at h
  · rename_i hdashes
    simp only [hcut, List.map_eq_singleton_iff] at h
    obtain ⟨g, hfilter, hpair⟩ := h
    obtain ⟨rfl, rfl⟩ := Prod.mk.inj hpair
    exact ⟨rfl, means_of_filter (dashes_cutFirst hcut (prefix_iff.mpr hdashes)) hfilter⟩
  · -- a name with a single dash belongs to a call for help
    rename_i hsingle
    obtain ⟨g, hfilter, hpair⟩ := List.map_eq_singleton_iff.mp h
    obtain ⟨rfl, -⟩ := Prod.mk.inj hpair
    obtain ⟨hg, hname⟩ := List.mem_filter.mp (hfilter ▸ List.mem_singleton_self g)
    have hdashes := hflags.dashes_of_action hg haction
    rw [of_decide_eq_true hname] at hdashes
    exact absurd (prefix_iff.mp (hdashes.trans (List.take_prefix 2 t))) hsingle

theorem wordOf_of_means {start : Text} {value : Option Text}
    (hcut : Text.cutFirst (CodePoint.ofChar '=') t = (start, value)) (h : Means flags start f) :
    wordOf flags t = some (.flag f (attachedValue value)) := by
  have hdashes : Text.ofString "--" <+: t := h.2.1.trans (begins_of_cutFirst hcut)
  obtain ⟨rest, hrest⟩ := exists_of_dashes hdashes
  unfold wordOf
  rw [if_neg (by simp [hrest])]
  simp only [hcut]
  split
  · -- the word is a full name, and holds no equals sign
    rename_i g hfind
    obtain ⟨hg, hname⟩ := named_of_find hfind
    obtain rfl : g = f := (h.2.2 g hg).mp (hname ▸ begins_of_cutFirst hcut)
    obtain ⟨-, rfl⟩ := Prod.mk.inj (hcut.symm.trans (hflags.cutFirst_of_name hg hname))
    rfl
  · rename_i g _ hfind
    obtain ⟨hg, hname⟩ := named_of_find_start hfind
    obtain rfl : g = f := (h.2.2 g hg).mp (hname ▸ List.prefix_refl _)
    rfl
  · rw [candidates_of_means hflags hcut h]

/-- The flags that do not call for help are told by what stands before the first equals sign of their word. -/
theorem wordOf_eq_flag {attached : Attached} (haction : f.action ≠ .help) :
    wordOf flags t = some (.flag f attached) ↔
      ∃ start value, Text.cutFirst (CodePoint.ofChar '=') t = (start, value) ∧ attached = attachedValue value ∧
        Means flags start f := by
  constructor
  · intro h
    rcases hcut : Text.cutFirst (CodePoint.ofChar '=') t with ⟨start, value⟩
    unfold wordOf at h
    split at h
    · exact nomatch Option.some.inj h
    · simp only [hcut] at h
      split at h
      · rename_i g hfind
        obtain ⟨rfl, rfl⟩ := Word.flag.inj (Option.some.inj h)
        obtain ⟨hg, hname⟩ := named_of_find hfind
        have hmeans := hflags.means_name hg (hflags.dashes_of_action hg haction)
        obtain ⟨rfl, rfl⟩ := Prod.mk.inj (hcut.symm.trans (hflags.cutFirst_of_name hg hname))
        exact ⟨_, _, rfl, rfl, hname ▸ hmeans⟩
      · rename_i g _ hfind
        obtain ⟨rfl, rfl⟩ := Word.flag.inj (Option.some.inj h)
        obtain ⟨hg, hname⟩ := named_of_find_start hfind
        have hmeans := hflags.means_name hg (hflags.dashes_of_action hg haction)
        exact ⟨_, _, rfl, rfl, hname ▸ hmeans⟩
      · split at h
        · rename_i g attached hcandidates
          obtain ⟨rfl, rfl⟩ := Word.flag.inj (Option.some.inj h)
          exact ⟨start, value, rfl, means_of_candidates hflags hcut haction hcandidates⟩
        · split at h <;> exact nomatch Option.some.inj h
        · exact nomatch h
  · rintro ⟨start, value, hcut, rfl, hmeans⟩
    exact wordOf_of_means hflags hcut hmeans

/-- The words that a flag takes for its value are told by what they are among all flags. -/
theorem wordOf_eq_operand {v : Text} : wordOf flags t = some (.operand v) ↔ t = v ∧ IsOperand flags t := by
  unfold wordOf IsOperand
  rw [← or_assoc, ← front_iff]
  split
  · rename_i hfront
    rw [Option.some.injEq, Word.operand.injEq, and_iff_left (Or.inl hfront)]
  · rename_i hfront
    rw [or_iff_right hfront]
    rcases hcut : Text.cutFirst (CodePoint.ofChar '=') t with ⟨start, value⟩
    dsimp only
    split
    · rename_i f hfind
      obtain ⟨hf, hname⟩ := named_of_find hfind
      refine iff_of_false (fun h => nomatch Option.some.inj h) fun ⟨_, hcandidates, _⟩ => ?_
      exact not_named_of_candidates hflags hcandidates hcut hf (hname ▸ List.prefix_refl _)
        (hname ▸ begins_of_cutFirst hcut)
    · rename_i f _ hfind
      obtain ⟨hf, hname⟩ := named_of_find_start hfind
      refine iff_of_false (fun h => nomatch Option.some.inj h) fun ⟨_, hcandidates, _⟩ => ?_
      exact not_named_of_candidates hflags hcandidates hcut hf (hname ▸ begins_of_cutFirst hcut)
        (hname ▸ List.prefix_refl _)
    · split
      · rename_i hcandidates
        exact iff_of_false (fun h => nomatch Option.some.inj h) fun ⟨_, hnone, _⟩ =>
          nomatch hcandidates.symm.trans hnone
      · rename_i hcandidates
        rw [and_iff_right hcandidates, ← List.contains_iff_mem, ← Bool.or_eq_true_iff]
        split
        · rename_i hshape
          rw [Option.some.injEq, Word.operand.injEq, and_iff_left hshape]
        · rename_i hshape
          exact iff_of_false (fun h => nomatch Option.some.inj h) fun ⟨_, h⟩ => hshape h
      · rename_i hsome
        exact iff_of_false (fun h => nomatch h) fun ⟨_, hnone, _⟩ => hsome hnone

end Telling

theorem wordsOf_eq_nil {words : List Text} (h : wordsOf flags words = some []) : words = [] := by
  cases words with
  | nil => rfl
  | cons t rest =>
    unfold wordsOf at h
    split at h
    · exact nomatch Option.some.inj h
    · split at h
      · exact nomatch Option.some.inj h
      · exact nomatch h

/-- The first word and the others. -/
theorem wordsOf_eq_cons {words : List Text} {w : Word} {ws : List Word} (h : wordsOf flags words = some (w :: ws))
    (hw : w ≠ .separator) :
    ∃ t rest, words = t :: rest ∧ t ≠ "--" ∧ wordOf flags t = some w ∧ wordsOf flags rest = some ws := by
  cases words with
  | nil => exact nomatch Option.some.inj h
  | cons t rest =>
    unfold wordsOf at h
    split at h
    · exact absurd (List.cons.inj (Option.some.inj h)).1.symm hw
    · rename_i hdashes
      split at h
      · rename_i hfirst hrest
        obtain ⟨rfl, rfl⟩ := List.cons.inj (Option.some.inj h)
        exact ⟨t, rest, rfl, hdashes, hfirst, hrest⟩
      · exact nomatch h

theorem wordsOf_cons {t : Text} {rest : List Text} {w : Word} {ws : List Word} (ht : t ≠ "--")
    (hw : wordOf flags t = some w) (hws : wordsOf flags rest = some ws) :
    wordsOf flags (t :: rest) = some (w :: ws) := by
  rw [wordsOf, if_neg ht, hw, hws]

end Words

/-! ## Acting on words -/

theorem attachedValue_eq_nothing {value : Option Text} (h : attachedValue value = .nothing) : value = none := by
  cases value with
  | none => rfl
  | some v => exact nomatch h

theorem attachedValue_eq_value {value : Option Text} {v : Text} (h : attachedValue value = .value v) :
    value = some v := by
  cases value with
  | none => exact nomatch h
  | some w => exact congrArg some (Attached.value.inj h)

theorem attachedValue_ne_letters {value : Option Text} {ls : Text} : attachedValue value ≠ .letters ls := by
  cases value <;> exact (nomatch ·)

section Acting

variable {flags : List Flag} {p q : Progress} {ws : List Word} {words : List Text}

theorem addFlag_eq (hrow : p.row = .past) (name : Text) (value : Option Text) :
    p.addFlag name value = { p with given := p.given ++ [(name, value)] } := by
  rw [Progress.addFlag, Progress.endRow, hrow]
  rfl

theorem addOperand_stray (hrow : p.row = .past) (t : Text) : (p.addOperand t).stray = true := by
  rw [Progress.addOperand, if_pos hrow]

/-- A word that belongs to nothing is not forgotten. -/
theorem stray_of_act (h : act p ws = .ok q) (hstray : p.stray = true) : q.stray = true := by
  fun_induction act p ws with
  | case1 =>
    obtain rfl := Except.ok.inj h
    exact hstray
  | case2 p t rest ih =>
    refine ih h ?_
    unfold Progress.addOperand
    split
    · rfl
    · exact hstray
  | case3 p rest ih =>
    refine ih h ?_
    split
    · rfl
    · exact hstray
  | case4 p rest ih => exact ih h rfl
  | case8 _ _ _ _ ih | case10 _ _ _ _ _ _ _ ih | case13 _ _ _ _ _ ih | case14 _ _ _ _ _ _ _ _ ih
  | case16 _ _ _ _ _ ih | case17 _ _ _ _ _ _ _ _ ih => exact ih h hstray
  | _ => exact nomatch h

/-- What is found when a flag is followed by others. -/
theorem addFlag_append (hrow : p.row = .past) (name : Text) (value : Option Text) (said : List (Text × Option Text)) :
    { p.addFlag name value with given := (p.addFlag name value).given ++ said } =
      { p with given := p.given ++ (name, value) :: said } := by
  rw [addFlag_eq hrow, List.append_assoc, List.singleton_append]

theorem row_addFlag (hrow : p.row = .past) (name : Text) (value : Option Text) :
    (p.addFlag name value).row = .past := by
  rw [addFlag_eq hrow, hrow]

/-- Where no operand is wanted, these words come to these flags and to nothing else. -/
def Adds (ws : List Word) (said : List (Text × Option Text)) : Prop :=
  ∀ p : Progress, p.row = .past → act p ws = .ok { p with given := p.given ++ said }

theorem adds_nil : Adds [] [] := fun p _ => by rw [act, List.append_nil]

theorem Adds.flag {others : List Word} {said : List (Text × Option Text)} {name : Text} {value : Option Text}
    (h : Adds ws said) (hact : ∀ p, act p others = act (p.addFlag name value) ws) :
    Adds others ((name, value) :: said) := fun p hrow => by
  rw [hact, h _ (row_addFlag hrow ..), addFlag_append hrow]

theorem IsOperand.ne_dashes {v : Text} (h : IsOperand flags v) : v ≠ "--" := by
  rintro rfl
  rcases h with hfront | hdash | ⟨-, hnegative | hspace⟩
  · exact hfront rfl
  · exact absurd hdash (by decide)
  · exact absurd hnegative (by decide)
  · exact absurd hspace (by decide)

theorem ne_dashes_of_equals (start v : Text) : start ++ CodePoint.ofChar '=' :: v ≠ "--" := by
  intro h
  have hmem : CodePoint.ofChar '=' ∈ Text.ofString "--" := h ▸ List.mem_append_right start List.mem_cons_self
  exact absurd hmem (by decide)

section Reading

variable (hflags : WellNamed flags)

include hflags

theorem wordOf_of_name {t : Text} {f : Flag} (h : Means flags t f) : wordOf flags t = some (.flag f .nothing) :=
  wordOf_of_means hflags (Text.cutFirst_eq_none.mpr ⟨rfl, hflags.plain_of_means h⟩) h

theorem wordOf_of_value {start : Text} {f : Flag} (h : Means flags start f) (v : Text) :
    wordOf flags (start ++ CodePoint.ofChar '=' :: v) = some (.flag f (.value v)) :=
  wordOf_of_means hflags (Text.cutFirst_eq_some.mpr ⟨rfl, hflags.plain_of_means h⟩) h

/-- The word of a flag with nothing attached is what means the flag. -/
theorem means_of_nothing {t : Text} {f : Flag} (haction : f.action ≠ .help)
    (h : wordOf flags t = some (.flag f .nothing)) : Means flags t f := by
  obtain ⟨start, value, hcut, hattached, hmeans⟩ := (wordOf_eq_flag hflags haction).mp h
  obtain rfl := attachedValue_eq_nothing hattached.symm
  rwa [(Text.cutFirst_eq_none.mp hcut).1]

theorem means_of_value {t v : Text} {f : Flag} (haction : f.action ≠ .help)
    (h : wordOf flags t = some (.flag f (.value v))) :
    ∃ start, t = start ++ CodePoint.ofChar '=' :: v ∧ Means flags start f := by
  obtain ⟨start, value, hcut, hattached, hmeans⟩ := (wordOf_eq_flag hflags haction).mp h
  obtain rfl := attachedValue_eq_value hattached.symm
  exact ⟨start, (Text.cutFirst_eq_some.mp hcut).1, hmeans⟩

theorem not_letters {t ls : Text} {f : Flag} (haction : f.action ≠ .help) :
    wordOf flags t ≠ some (.flag f (.letters ls)) := by
  intro h
  obtain ⟨_, _, _, hattached, _⟩ := (wordOf_eq_flag hflags haction).mp h
  exact attachedValue_ne_letters hattached.symm

/-- When no operand is wanted and none turns up, what was acted on is a row of flags. -/
theorem spells_of_act (h : act p ws = .ok q) (hrow : p.row = .past) (hstray : q.stray = false)
    (hwords : wordsOf flags words = some ws) :
    ∃ said, Spells flags words said ∧ q = { p with given := p.given ++ said } := by
  -- a stray word would show in the end
  have hkept {p' : Progress} {ws' : List Word} (h : act p' ws' = .ok q) : p'.stray ≠ true := fun hstray' =>
    Bool.false_ne_true (hstray.symm.trans (stray_of_act h hstray'))
  fun_induction act p ws generalizing words with
  | case1 p =>
    obtain rfl := Except.ok.inj h
    obtain rfl := wordsOf_eq_nil hwords
    exact ⟨[], .nil, by rw [List.append_nil]⟩
  | case2 p t rest ih => exact absurd (addOperand_stray hrow t) (hkept h)
  | case3 p rest ih =>
    rw [if_pos (by rw [hrow]; rfl)] at h
    exact absurd rfl (hkept h)
  | case4 p rest ih => exact absurd rfl (hkept h)
  | case8 p f rest haction ih =>
    -- a switch
    obtain ⟨t, words, rfl, ht, hw, hrest⟩ := wordsOf_eq_cons hwords (nomatch ·)
    obtain ⟨said, hsaid, rfl⟩ := ih h (row_addFlag hrow ..) hrest
    have hmeans := means_of_nothing hflags (by rw [haction]; exact (nomatch ·)) hw
    exact ⟨_, .switch hmeans ht haction hsaid, addFlag_append hrow ..⟩
  | case10 p f accepts haction v rest haccepts ih =>
    -- a flag and the next word
    obtain ⟨t, words, rfl, ht, hw, hrest⟩ := wordsOf_eq_cons hwords (nomatch ·)
    obtain ⟨u, words, rfl, -, hu, hbehind⟩ := wordsOf_eq_cons hrest (nomatch ·)
    obtain ⟨rfl, hoperand⟩ := (wordOf_eq_operand hflags).mp hu
    obtain ⟨said, hsaid, rfl⟩ := ih h (row_addFlag hrow ..) hbehind
    have hmeans := means_of_nothing hflags (by rw [haction]; exact (nomatch ·)) hw
    exact ⟨_, .next hmeans ht haction hoperand haccepts hsaid, addFlag_append hrow ..⟩
  | case13 p f rest accepts haction ih =>
    -- two dashes behind an equals sign
    obtain ⟨t, words, rfl, -, hw, hrest⟩ := wordsOf_eq_cons hwords (nomatch ·)
    obtain ⟨said, hsaid, rfl⟩ := ih h (row_addFlag hrow ..) hrest
    obtain ⟨start, rfl, hmeans⟩ := means_of_value hflags (by rw [haction]; exact (nomatch ·)) hw
    exact ⟨_, .bare hmeans haction hsaid, addFlag_append hrow ..⟩
  | case14 p f rest accepts v haction hv haccepts ih =>
    -- a value behind an equals sign
    obtain ⟨t, words, rfl, -, hw, hrest⟩ := wordsOf_eq_cons hwords (nomatch ·)
    obtain ⟨said, hsaid, rfl⟩ := ih h (row_addFlag hrow ..) hrest
    obtain ⟨start, rfl, hmeans⟩ := means_of_value hflags (by rw [haction]; exact (nomatch ·)) hw
    exact ⟨_, .attached hmeans haction hv haccepts hsaid, addFlag_append hrow ..⟩
  | case16 p f rest accepts haction | case17 p f rest accepts ls haction =>
    -- letters stand only behind a single dash
    obtain ⟨t, words, rfl, -, hw, -⟩ := wordsOf_eq_cons hwords (nomatch ·)
    exact absurd hw (not_letters hflags (by rw [haction]; exact (nomatch ·)))
  | _ => exact nomatch h

/-- A row of flags is acted on to its end. -/
theorem act_of_spells {said : List (Text × Option Text)} (h : Spells flags words said) :
    ∃ ws, wordsOf flags words = some ws ∧ Adds ws said := by
  induction h with
  | nil => exact ⟨[], rfl, adds_nil⟩
  | @switch t f words said hmeans ht haction _ ih =>
    obtain ⟨ws, hws, hadds⟩ := ih
    refine ⟨_, wordsOf_cons ht (wordOf_of_name hflags hmeans) hws, hadds.flag fun p => ?_⟩
    conv_lhs => unfold act
    simp only [haction]
  | @next t v f accepts words said hmeans ht haction hv haccepts _ ih =>
    obtain ⟨ws, hws, hadds⟩ := ih
    have hwords := wordsOf_cons hv.ne_dashes ((wordOf_eq_operand hflags).mpr ⟨rfl, hv⟩) hws
    refine ⟨_, wordsOf_cons ht (wordOf_of_name hflags hmeans) hwords, hadds.flag fun p => ?_⟩
    conv_lhs => unfold act
    simp only [haction, if_pos haccepts]
  | @attached start v f accepts words said hmeans haction hv haccepts _ ih =>
    obtain ⟨ws, hws, hadds⟩ := ih
    have hword := wordOf_of_value hflags hmeans v
    refine ⟨_, wordsOf_cons (ne_dashes_of_equals start v) hword hws, hadds.flag fun p => ?_⟩
    conv_lhs => unfold act
    simp only [haction, if_neg hv, if_pos haccepts]
  | @bare start f accepts words said hmeans haction _ ih =>
    obtain ⟨ws, hws, hadds⟩ := ih
    have hword := wordOf_of_value hflags hmeans "--"
    refine ⟨_, wordsOf_cons (ne_dashes_of_equals start _) hword hws, hadds.flag fun p => ?_⟩
    conv_lhs => unfold act
    simp only [haction, if_pos]

end Reading

end Acting

/-- A value that is spelled is one that its flag takes. -/
theorem Spells.accepted {flags : List Flag} {words : List Text} {said : List (Text × Option Text)}
    (h : Spells flags words said) {name v : Text} (hmem : (name, some v) ∈ said) :
    ∃ f accepts, f ∈ flags ∧ f.name = name ∧ f.action = .take accepts ∧ accepts v = true := by
  induction h with
  | nil => exact nomatch hmem
  | switch _ _ _ _ ih | bare _ _ _ ih =>
    rcases List.mem_cons.mp hmem with hpair | hmem
    · exact nomatch (Prod.mk.inj hpair).2
    · exact ih hmem
  | next hmeans _ haction _ haccepts _ ih | attached hmeans haction _ haccepts _ ih =>
    rcases List.mem_cons.mp hmem with hpair | hmem
    · obtain ⟨rfl, hv⟩ := Prod.mk.inj hpair
      obtain rfl := Option.some.inj hv
      exact ⟨_, _, hmeans.1, rfl, haction, haccepts⟩
    · exact ih hmem

/-- **What is read is what is spelled.**  Where no operand is wanted, a command line is read exactly when its words
spell a row of flags, and what is read is that row. -/
theorem read_eq_ok_iff {flags : List Flag} (hflags : WellNamed (helpFlags ++ flags)) {words : List Text}
    {a : Arguments} : read flags false words = .ok a ↔ Spells (helpFlags ++ flags) words a.given ∧ a.operands = [] := by
  constructor
  · intro h
    unfold read at h
    split at h
    · exact nomatch h
    · rename_i ws hwords
      split at h
      · exact nomatch h
      · rename_i p hact
        split at h
        · exact nomatch h
        · rename_i hstray
          obtain rfl := Except.ok.inj h
          rw [Bool.false_and, Bool.or_false, Bool.not_eq_true] at hstray
          obtain ⟨said, hsaid, rfl⟩ := spells_of_act hflags hact rfl hstray hwords
          exact ⟨hsaid, rfl⟩
  · rintro ⟨hsaid, hoperands⟩
    obtain ⟨ws, hwords, hadds⟩ := act_of_spells hflags hsaid
    have hdone := hadds ⟨[], [], .past, false⟩ rfl
    unfold read
    simp only [hwords, if_neg Bool.false_ne_true, hdone, List.nil_append]
    rw [← hoperands]
    rfl

/-- Words spell one row of flags at most. -/
theorem Spells.unique {flags : List Flag} (hflags : WellNamed (helpFlags ++ flags)) {words : List Text}
    {said other : List (Text × Option Text)} (h : Spells (helpFlags ++ flags) words said)
    (hother : Spells (helpFlags ++ flags) words other) : said = other := by
  have hread {row : List (Text × Option Text)} (h : Spells (helpFlags ++ flags) words row) :
      read flags false words = .ok ⟨row, []⟩ := (read_eq_ok_iff hflags).mpr ⟨h, rfl⟩
  exact congrArg Arguments.given (Except.ok.inj ((hread h).symm.trans (hread hother)))

end NetAttach.CommandLine
