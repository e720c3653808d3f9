/-
  Files that cannot be read, as the program says it.

  A file is looked for along its path, one part after another: a part has to be there, and to be a directory
  unless it is the last one.  Names are bytes to the system.  It takes no more than 255 of them for a part and
  fewer than 4096 for a path, and none of them may be zero.  Half of the low surrogates stand for bytes that
  are no text; other surrogates cannot be part of a name.
-/
import NetAttach.PathName
import NetAttach.Text.Encoding

namespace NetAttach

/-- What is wrong with a file. -/
inductive FileCause where
  | missing
  | directory
  | notDirectory
  | tooLong
  /-- The name holds a zero. -/
  | zero
  /-- The name holds surrogates, `count` of them in a row from place `start` on. -/
  | surrogates (first : CodePoint) (start count : Nat)
deriving DecidableEq

/-- Why a file cannot be read. -/
structure FileFault where
  path : PathName
  cause : FileCause
deriving DecidableEq

namespace FileFault

/-- What the system says of a path: the number of the fault and words for it. -/
def systemMessage (path : PathName) (number : Nat) (words : Text) : Text :=
  "[Errno " ++ Text.ofNat number ++ "] " ++ words ++ ": " ++ path.text.quoted

/-- One surrogate is repeated in the message, several are given by their places. -/
def surrogateMessage (first : CodePoint) (start count : Nat) : Text :=
  let which : Text :=
    if count = 1 then "character '\\u" ++ Text.hexadecimal 4 first.number ++ "' in position " ++ Text.ofNat start
    else "characters in position " ++ Text.ofNat start ++ "-" ++ Text.ofNat (start + count - 1)
  "'utf-8' codec can't encode " ++ which ++ ": surrogates not allowed"

/-- What is said of the fault. -/
def message (fault : FileFault) : Text :=
  match fault.cause with
  | .missing => systemMessage fault.path 2 "No such file or directory"
  | .directory => systemMessage fault.path 21 "Is a directory"
  | .notDirectory => systemMessage fault.path 20 "Not a directory"
  | .tooLong => systemMessage fault.path 36 "File name too long"
  | .zero => "embedded null byte"
  | .surrogates first start count => surrogateMessage first start count

end FileFault

/-! ## Names -/

/-- The surrogates that stand for the bytes from 128 on. -/
def CodePoint.isByteSurrogate (c : CodePoint) : Bool := c.isWithin 0xDC80 0xDCFF

/-- The number of bytes in a name. -/
def nameLength (t : Text) : Nat :=
  t.foldl (fun n c => n + if c.isByteSurrogate then 1 else (Encoding.utf8Bytes c).length) 0

/-- The first surrogates in a name that stand for no byte, with all those that follow them. -/
def badSurrogates? (name : Text) : Option FileCause :=
  let sound (c : CodePoint) : Bool := !c.isSurrogate || c.isByteSurrogate
  match name.dropWhile sound with
  | [] => none
  | c :: rest =>
    some (.surrogates c (name.takeWhile sound).length ((rest.takeWhile CodePoint.isSurrogate).length + 1))

/-- What keeps a path from being looked for at all. -/
def PathName.fault? (path : PathName) : Option FileCause :=
  match badSurrogates? path.text with
  | some cause => some cause
  | none =>
    if path.text.any fun c => c.number = 0 then some .zero
    else if 4096 ≤ nameLength path.text then some .tooLong
    else none

/-! ## Directories -/

/-- The files below a directory, by name.  Of two with one name the later one is there. -/
abbrev Directory (α : Type) := List (PathName × α)

namespace Directory

variable {α : Type}

/-- The file at the given parts. -/
def file? (files : Directory α) (parts : List Text) : Option α :=
  (files.reverse.find? fun f => f.1.parts = parts).map (·.2)

/-- There are files below the given parts. -/
def holds (files : Directory α) (parts : List Text) : Bool :=
  files.any fun f => parts.isPrefixOf f.1.parts

/-- Go on along a path from the directory at `place`, or from the one `above` levels above the first. -/
def walk (files : Directory α) : (above : Nat) → (place : List Text) → List Text → Except FileCause α
  | _, _, [] => .error .directory
  | above, place, part :: rest =>
    if 255 < nameLength part then .error .tooLong
    else if part = ".." then
      if place.isEmpty then files.walk (above + 1) [] rest else files.walk above place.dropLast rest
    else if above ≠ 0 then .error .missing
    else
      let next := place ++ [part]
      match files.file? next with
      | some a => if rest.isEmpty then .ok a else .error .notDirectory
      | none => if files.holds next then files.walk 0 next rest else .error .missing

/-- Look for a file. -/
def find (files : Directory α) (path : PathName) : Except FileFault α :=
  let here : Directory α := files.filter fun f => f.1.slashes = path.slashes
  (path.fault?.elim (here.walk 0 [] path.parts) .error).mapError (FileFault.mk path)

example : (find [(.ofText "a", 1), (.ofText "b/c", 2)] (.ofText "b/../b/c")).toOption = some 2 := by
  decide +kernel
example : (walk [(.ofText "a", 1)] 0 [] ["a", ".."]).mapError (· == .notDirectory) matches .error true := by
  decide +kernel

end Directory

end NetAttach
