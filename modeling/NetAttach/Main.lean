/-
  The command line: a report on manifest files.
-/
import NetAttach.Manifest.Verdict

namespace NetAttach

namespace Manifest

/-- Why the system could not read a file. -/
def causeOf : IO.Error → FileCause
  | .inappropriateType _ code _ => if code = 21 then .directory else .notDirectory
  | .invalidArgument _ code _ => if code = 36 then .tooLong else .missing
  | _ => .missing

/-- A manifest file with whatever it holds. -/
def File.load (path : PathName) : IO Manifest.File := do
  if let some cause := path.fault? then return .unreadable path ⟨path, cause⟩
  try
    let text ← IO.FS.readFile path.text.toString
    return .ofText path (.ofString text)
  catch e => return .unreadable path ⟨path, causeOf e⟩

end Manifest

end NetAttach

open NetAttach in
/-- Report on the files that the arguments name. -/
def main (args : List String) : IO UInt32 := do
  match Manifest.readArguments (args.map .ofString) with
  | .error .help => return 0
  | .error .usage => return 2
  | .ok paths =>
    let report := Manifest.report (← paths.mapM Manifest.File.load)
    for line in report.lines do
      IO.println line.toString
    match report.fault with
    | some fault =>
      IO.eprintln fault.message.toString
      return 1
    | none => return report.exitCode.toUInt32
