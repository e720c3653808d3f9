/-
  Names of files.

  A name is taken apart at its slashes.  Empty parts and single dots say nothing and are dropped; two dots
  stay, since a link may stand before them.  One slash at the start, or three and more, mean the root; exactly
  two are left for the system to give a meaning of its own.  A name without parts is the dot.
-/
import NetAttach.Text.CodePoint

namespace NetAttach

/-- The name of a file: the slashes it starts with, and its parts. -/
structure PathName where
  slashes : Nat
  parts : List Text
deriving DecidableEq

namespace PathName

/-- Take a name apart. -/
def ofText (t : Text) : PathName :=
  let leading := (t.takeWhile fun (c : CodePoint) => c = '/').length
  { slashes := if leading = 2 then 2 else min leading 1
    parts := (t.splitOn (CodePoint.ofChar '/')).filter fun part => !part.isEmpty && part ≠ "." }

/-- The name in full. -/
def text (p : PathName) : Text :=
  match List.replicate p.slashes (CodePoint.ofChar '/') ++ Text.join "/" p.parts with
  | [] => "."
  | t => t

example : (ofText "a//b/./c/").text = "a/b/c" := by decide
example : (ofText "//a").text = "//a" := by decide
example : (ofText "///a/..").text = "/a/.." := by decide
example : (ofText "").text = "." := by decide

end PathName

end NetAttach
