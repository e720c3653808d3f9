/-
  Scalars in quotes.

  Between single quotes only the quote itself is special: it is written twice.  Between double quotes a
  backslash begins an escape, and at the end of a line it joins the line with the next one.  Between both, line
  ends are folded together with the blanks around them, and a mark between documents is a fault.
-/
import NetAttach.Yaml.Cursor
import NetAttach.Yaml.Error

namespace NetAttach.Yaml

/-- The code points that an escape of one letter stands for. -/
def escapes : List (Char × CodePoint) := [
  ('0', '\x00'), ('a', '\x07'), ('b', '\x08'), ('t', '\t'), ('\t', '\t'), ('n', '\n'), ('v', '\x0B'),
  ('f', '\x0C'), ('r', '\r'), ('e', '\x1B'), (' ', ' '), ('"', '"'), ('\\', '\\'), ('/', '/'),
  ('N', '\u0085'), ('_', '\u00A0'), ('L', '\u2028'), ('P', '\u2029')]

/-- The escapes that spell a code point by its number, with the count of their digits. -/
def numberEscapes : List (Char × Nat) := [('x', 2), ('u', 4), ('U', 8)]

/-- The code point with a number that an escape spells. -/
def pointOfNumber (n : Nat) : Except Error CodePoint :=
  match CodePoint.ofNat? n with
  | some c => .ok c
  | none => .error (if n < 0x80000000 then .noCodePoint else .wideCodePoint)

/-- The code point of the escape behind a backslash, and how many code points spell it. -/
def escapeOf (t : Text) : Except Error (CodePoint × Nat) :=
  match t with
  | [] => .error .malformed
  | c :: rest =>
    match escapes.find? fun e => c = CodePoint.ofChar e.1 with
    | some (_, x) => .ok (x, 1)
    | none =>
      match numberEscapes.find? fun e => c = CodePoint.ofChar e.1 with
      | none => .error .malformed
      | some (_, count) =>
        match (rest.take count).mapM (CodePoint.asciiDigitValue? 16) with
        | some digits =>
          if digits.length = count then (pointOfNumber (natOfDigitsIn 16 digits)).map fun x => (x, count + 1)
          else .error .malformed
        | none => .error .malformed

/-- Put something in front of a scalar that has been read. -/
def before (t : Text) (read : Except Error (Text × Cursor)) : Except Error (Text × Cursor) :=
  read.map fun (more, finish) => (t ++ more, finish)

/-- A scalar in double or single quotes from behind its opening quote on. -/
def quotedFrom (double : Bool) : (fuel : Nat) → Cursor → Except Error (Text × Cursor)
  | 0, _ => .error .malformed
  | fuel + 1, cur =>
    let behindBreak (p : Place) (joined : Text → Text) (rest : Text) : Except Error (Text × Cursor) :=
      let (breaks, next) := takeBreaks true p rest
      if next.atMarker then .error .malformed else before (joined breaks) (quotedFrom double fuel next)
    match cur.rest with
    | [] => .error .malformed
    | c :: rest =>
      if isGap c then
        let (blanks, next) := cur.span CodePoint.isSpacing
        match next.rest with
        | [] => .error .malformed
        | b :: more =>
          if isBreak b then behindBreak (next.place.behind b) (fold b) more
          else before blanks (quotedFrom double fuel next)
      else if double && c = '"' then .ok ([], cur.advance 1)
      else if !double && c = '\'' then
        if rest.head? = some (CodePoint.ofChar '\'') then before [c] (quotedFrom double fuel (cur.advance 2))
        else .ok ([], cur.advance 1)
      else if double && c = '\\' then
        match rest with
        | [] => .error .malformed
        | b :: more =>
          if isBreak b then behindBreak ((cur.place.behind c).behind b) id more
          else
            match escapeOf rest with
            | .error e => .error e
            | .ok (x, count) => before [x] (quotedFrom double fuel (cur.advance (count + 1)))
      else before [c] (quotedFrom double fuel (cur.advance 1))

/-- The quoted scalar at the cursor, and where it ends. -/
def quotedAt (cur : Cursor) : Except Error (Text × Cursor) :=
  quotedFrom (cur.isAt '"') (cur.rest.length + 1) (cur.advance 1)

example : ((quotedAt (.ofText "'it''s\n so'")).toOption.map (·.1)) = some ("it's so" : Text) := by
  decide +kernel
example : ((quotedAt (.ofText "\"a\\x41\\\n  b\"")).toOption.map (·.1)) = some ("aAb" : Text) := by
  decide +kernel
example : ((quotedAt (.ofText "\"\\U00110000\"")).map (·.1)) = .error .noCodePoint := by rfl

end NetAttach.Yaml
