/-
  Handlers of changes.

  Handlers have names, and each change goes to all of them in the order in which they were registered.  The
  first one that fails ends this: those behind it do not hear of the change.
-/
import NetAttach.Controller.Change
import NetAttach.Failure
import NetAttach.Table

namespace NetAttach

/-- What is done when a pod is to be counted or removed; `σ` is what a handler acts on. -/
structure Handler (σ : Type) where
  upsert : (key selection ns : Text) → σ → σ × Option Failure
  delete : (key : Text) → σ → σ × Option Failure

/-- Handlers by name. -/
abbrev Registry (σ : Type) := Table Text (Handler σ)

/-- Something that is to be handled: a change, or data that is none. -/
inductive Notice where
  | change (c : PodChange)
  | other (typeName : Text)

namespace Registry

variable {σ : Type}

/-- A second handler of one name is refused. -/
def takenMessage (name : Text) : Text := "handler '" ++ name ++ "' already registered"

/-- Register a handler, unless there is one of its name. -/
def register? (r : Registry σ) (name : Text) (h : Handler σ) : Option (Registry σ) :=
  if Table.has r name then none else some (Table.put r name h)

/-- Forget the handler of a name. -/
def unregister (r : Registry σ) (name : Text) : Registry σ := Table.erase r name

/-- Let a handler know of a change. -/
def inform (c : PodChange) (h : Handler σ) (s : σ) : σ × Option Failure :=
  if c.isRemoval then h.delete c.key s else h.upsert c.key (c.selection.getD []) c.ns s

/-- Let handlers know of a change, one after another, up to the first failure. -/
def informAll (c : PodChange) : List (Handler σ) → σ → σ × Option Failure
  | [], s => (s, none)
  | h :: rest, s =>
    match inform c h s with
    | (s, none) => informAll c rest s
    | failed => failed

/-- Handle a notice.  Data that is no change is a failure. -/
def handle (r : Registry σ) (notice : Notice) (s : σ) : σ × Option Failure :=
  match notice with
  | .change c => informAll c (Table.entries r |>.map (·.2)) s
  | .other typeName => (s, some (.notChange typeName))

end Registry

end NetAttach
