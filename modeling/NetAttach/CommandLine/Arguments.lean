/-
  Command lines.

  A command line is a list of words.  A word that begins with a dash is a flag, unless it is a single dash, a
  negative number or holds a space; everything behind the word `--` is an operand.  A long flag may be cut
  short as long as only one flag begins that way, and its value is the next word or follows an equals sign.
  Two dashes behind an equals sign are no value: the flag is given, but with nothing.

  All words are told apart before any is acted on.  Then they act in order: a call for help or a value that
  its flag does not take ends the reading on the spot, whereas a word that nobody asked for is only found at
  the end.
-/
import NetAttach.Text.Digit

namespace NetAttach.CommandLine

/-- What a flag does. -/
inductive Action where
  | help
  | switch
  /-- Take a value, if it is one of those accepted. -/
  | take (accepts : Text → Bool)

/-- A flag by its full name, dashes included. -/
structure Flag where
  name : Text
  action : Action

/-- The two flags that every command line knows. -/
def helpFlags : List Flag := [⟨"-h", .help⟩, ⟨"--help", .help⟩]

/-- What stands in the word of a flag behind the flag itself. -/
inductive Attached where
  | nothing
  | value (v : Text)
  | letters (ls : Text)

/-- A word of a command line. -/
inductive Word where
  | operand (t : Text)
  | separator
  | flag (f : Flag) (attached : Attached)
  | unknown

/-- How a reading ends early. -/
inductive Stop where
  | help
  | usage
deriving DecidableEq

/-! ## Telling words apart -/

/-- A decimal digit of any script. -/
def isDecimal (c : CodePoint) : Bool := c.decimalValue?.isSome

/-- A minus sign before an integer, or before a fraction with digits behind its point. -/
def isNegativeNumber (t : Text) : Bool :=
  let body := if t.getLast? = some (CodePoint.ofChar '\n') then t.dropLast else t
  match body with
  | [] => false
  | sign :: digits =>
    sign = '-' &&
      match Text.cutFirst '.' digits with
      | (whole, none) => !whole.isEmpty && whole.all isDecimal
      | (whole, some fraction) => whole.all isDecimal && !fraction.isEmpty && fraction.all isDecimal

/-- The value behind the equals sign of a word. -/
def attachedValue (value : Option Text) : Attached := value.elim .nothing .value

/-- The flags that a word with a dash in front may mean. -/
def candidates (flags : List Flag) (t : Text) : List (Flag × Attached) :=
  if t.take 2 = "--" then
    let (start, value) := Text.cutFirst '=' t
    (flags.filter fun f => start.isPrefixOf f.name).map fun f => (f, attachedValue value)
  else
    (flags.filter fun f => f.name = t.take 2).map fun f => (f, .letters (t.drop 2))

/-- What a word before any `--` is; nothing when it may mean several flags. -/
def wordOf (flags : List Flag) (t : Text) : Option Word :=
  if t.head? ≠ some (CodePoint.ofChar '-') || t.length = 1 then some (.operand t)
  else
    let (start, value) := Text.cutFirst '=' t
    match flags.find? fun f => f.name = t, flags.find? fun f => value.isSome && f.name = start with
    | some f, _ => some (.flag f .nothing)
    | none, some f => some (.flag f (attachedValue value))
    | none, none =>
      match candidates flags t with
      | [(f, attached)] => some (.flag f attached)
      | [] =>
        if isNegativeNumber t || t.contains (CodePoint.ofChar ' ') then some (.operand t)
        else some .unknown
      | _ => none

/-- The words of a command line. -/
def wordsOf (flags : List Flag) : List Text → Option (List Word)
  | [] => some []
  | t :: rest =>
    if t = "--" then some (.separator :: rest.map .operand)
    else
      match wordOf flags t, wordsOf flags rest with
      | some w, some ws => some (w :: ws)
      | _, _ => none

/-! ## Acting on words -/

/-- What a command line says: the flags given, each with its value if it has one, and the operands. -/
structure Arguments where
  given : List (Text × Option Text)
  operands : List Text
deriving DecidableEq

namespace Arguments

/-- What the last of the flags called `name` is given with. -/
def last? (a : Arguments) (name : Text) : Option (Option Text) := a.given.reverse.lookup name

/-- The value of the last of the flags called `name`. -/
def value? (a : Arguments) (name : Text) : Option Text := (a.last? name).join

/-- A flag called `name` is given. -/
def has (a : Arguments) (name : Text) : Bool := (a.last? name).isSome

end Arguments

/-- Where the operands stand: they are one row of words, and a second row belongs to nothing. -/
inductive Row where
  | ahead
  | here
  | past
deriving DecidableEq

/-- What has been found so far. -/
structure Progress where
  given : List (Text × Option Text)
  operands : List Text
  row : Row
  /-- There was a word that belongs to nothing. -/
  stray : Bool

namespace Progress

/-- A flag ends the row of operands. -/
def endRow (p : Progress) : Progress := { p with row := if p.row = .ahead then .ahead else .past }

/-- Take note of a flag and its value. -/
def addFlag (p : Progress) (name : Text) (value : Option Text) : Progress :=
  { p.endRow with given := p.given ++ [(name, value)] }

/-- Take note of an operand; one that comes after the row of operands is a stray one. -/
def addOperand (p : Progress) (t : Text) : Progress :=
  if p.row = .past then { p with stray := true }
  else { p with operands := p.operands ++ [t], row := .here }

/-- Take note of a word that has no place. -/
def addStray (p : Progress) : Progress := { p.endRow with stray := true }

end Progress

/-- What a call for help with something attached comes to.  The short flag may be repeated in one word, as in
`-hh`; nothing else may be attached to it. -/
def attachedHelp (f : Flag) (t : Text) : Stop :=
  if f.name.length = 2 && !t.isEmpty && t.all fun c => c = 'h' then .help else .usage

/-- Act on the words in order. -/
def act : Progress → List Word → Except Stop Progress
  | p, [] => .ok p
  | p, .operand t :: rest => act (p.addOperand t) rest
  | p, .separator :: rest =>
    act (if p.row = .past || (p.row = .ahead && rest.isEmpty) then { p with stray := true } else p) rest
  | p, .unknown :: rest => act p.addStray rest
  | p, .flag f attached :: rest =>
    match f.action, attached with
    | .help, .nothing => .error .help
    | .help, .letters t | .help, .value t => .error (attachedHelp f t)
    | .switch, .nothing => act (p.addFlag f.name none) rest
    | .switch, _ => .error .usage
    | .take accepts, .nothing =>
      match rest with
      | .operand v :: rest =>
        if accepts v then act (p.addFlag f.name (some v)) rest else .error .usage
      | _ => .error .usage
    | .take accepts, .value v | .take accepts, .letters v =>
      if v = "--" then act (p.addFlag f.name none) rest
      else if accepts v then act (p.addFlag f.name (some v)) rest else .error .usage

/-- Read a command line with the given flags.  With `wanted`, there is to be an operand at least; without it,
there is to be none. -/
def read (flags : List Flag) (wanted : Bool) (words : List Text) : Except Stop Arguments :=
  match wordsOf (helpFlags ++ flags) words with
  | none => .error .usage
  | some ws =>
    match act ⟨[], [], if wanted then .ahead else .past, false⟩ ws with
    | .error stop => .error stop
    | .ok p =>
      if p.stray || (wanted && p.operands.isEmpty) then .error .usage
      else .ok ⟨p.given, p.operands⟩

end NetAttach.CommandLine
