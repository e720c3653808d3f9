/-
  Verdicts on manifests.

  A manifest file holds documents.  Those that are an attachment or a pod are decided on as if they had been
  submitted, the others are passed over, and each verdict is one line that begins with the file and the
  place of the document in it.
-/
import NetAttach.Admission.Review
import NetAttach.CommandLine.Arguments
import NetAttach.File
import NetAttach.Yaml.Reader

namespace NetAttach

/-- The verdict on one document. -/
structure Verdict where
  label : Text
  allowed : Bool
  message : Text
deriving DecidableEq

namespace Verdict

/-- The name of a document that has none. -/
def unnamed : Text := "<unnamed>"

/-- The name in a document's metadata, whatever it is.  Metadata that count as false are empty. -/
def nameOf (document : Entries) : Except Failure Value :=
  let metadata := (Entries.field document "metadata").orElse (.mapping [])
  match metadata.asMapping? with
  | some fields => .ok ((fields.get? "name").getD (.text unnamed))
  | none => .error (.notMapping metadata.typeName)

/-- How documents of a kind are decided on. -/
def reviewer? [Nesting] (kind : Value) : Option (Text × (Value → Except Failure Decision)) :=
  if kind = .text Attachment.kind then some (Attachment.kind, reviewAttachment)
  else if kind = .text SubmittedPod.kind then some (SubmittedPod.kind, reviewPod)
  else none

/-- The verdict on a document, if there is one. -/
def ofDocument [Nesting] (document : Value) : Except Failure (Option Verdict) :=
  match document.asMapping? with
  | some entries => do
    let name ← nameOf entries
    match reviewer? (Entries.field entries "kind") with
    | none => return none
    | some (kind, review) =>
      let decision ← review document
      match name.shown Nesting.label with
      | .error .longInteger => throw .unwritable
      | .error .tooDeep => throw (.tooDeep .showing)
      | .ok name => return some ⟨kind ++ "/" ++ name, decision.allowed, decision.message⟩
  | none => return none

/-- The line of a verdict.  A message stands in brackets at its end. -/
def line (v : Verdict) (path : PathName) (index : Nat) : Text :=
  let word : Text := if v.allowed then "allowed" else "denied"
  let detail : Text := if v.message.isEmpty then [] else " (" ++ v.message ++ ")"
  path.text ++ "[" ++ Text.ofNat index ++ "] " ++ v.label ++ ": " ++ word ++ detail

end Verdict

/-! ## Reports -/

namespace Manifest

/-- Why a run over manifests does not come to its end. -/
inductive Fault where
  | file (fault : FileFault)
  | yaml (e : Yaml.Error)
  | failure (f : Failure)
deriving DecidableEq

/-- What is said of the fault. -/
def Fault.message : Fault → Text
  | file fault => fault.message
  | yaml e => e.message
  | failure f => f.message

/-- A manifest file: its documents up to a fault. -/
structure File where
  path : PathName
  documents : List Value
  fault : Option Fault

namespace File

/-- A file with the given text. -/
def ofText (path : PathName) (text : Text) : File :=
  let (documents, fault) := Yaml.readAll text
  ⟨path, documents, fault.map .yaml⟩

/-- A file that cannot be read. -/
def unreadable (path : PathName) (fault : FileFault) : File := ⟨path, [], some (.file fault)⟩

end File

/-- The verdicts of a run, each with its line, and the fault that ended it early. -/
structure Report where
  verdicts : List (Text × Verdict)
  fault : Option Fault

namespace Report

/-- The lines of a report. -/
def lines (r : Report) : List Text := r.verdicts.map (·.1)

/-- The exit code: one verdict that is no refusal is not enough. -/
def exitCode (r : Report) : Nat := if r.verdicts.any fun v => !v.2.allowed then 1 else 0

/-- One report after another, unless the first one ended early. -/
def append (r : Report) (next : Report) : Report :=
  match r.fault with
  | some _ => r
  | none => ⟨r.verdicts ++ next.verdicts, next.fault⟩

end Report

/-- The report on documents, the first of which has number `index`. -/
def reportFrom [Nesting] (path : PathName) (fault : Option Fault) : (index : Nat) → List Value → Report
  | _, [] => ⟨[], fault⟩
  | index, document :: rest =>
    match Verdict.ofDocument document with
    | .error f => ⟨[], some (.failure f)⟩
    | .ok verdict? =>
      let others := reportFrom path fault (index + 1) rest
      ⟨(verdict?.map fun v => (v.line path index, v)).toList ++ others.verdicts, others.fault⟩

/-- The report on a file. -/
def File.report [Nesting] (f : File) : Report := reportFrom f.path f.fault 0 f.documents

/-- The report on files, up to the first fault. -/
def report [Nesting] (files : List File) : Report :=
  files.foldr (fun f rest => f.report.append rest) ⟨[], none⟩

/-! ## The command line -/

/-- The flags beside the call for help. -/
def flags : List CommandLine.Flag := [⟨"--verbose", .switch⟩]

/-- The files that a command line names. -/
def readArguments (words : List Text) : Except CommandLine.Stop (List PathName) :=
  (CommandLine.read flags true words).map fun a => a.operands.map .ofText

end Manifest

end NetAttach
