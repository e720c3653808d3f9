/-
  Network references and the tokens they are made of.

  A pod selects networks by name, optionally in a namespace and on a named interface.  All three are tokens:
  ASCII letters of either case, digits and hyphens, beginning and ending with a letter or digit.  Matching
  without regard to case also lets in four letters outside ASCII whose other case is an ASCII letter: dotted
  capital I, dotless small i, long s and the Kelvin sign.
-/
import NetAttach.Text.Blank
import NetAttach.Text.Quoted

namespace NetAttach

/-- The annotation of a pod that selects its networks. -/
def networksKey : Text := "k8s.v1.cni.cncf.io/networks"

namespace CodePoint

/-- A small ASCII letter or a digit. -/
def isLabelLetter (c : CodePoint) : Bool := c.isAsciiLower || c.isAsciiDigit

/-- A letter or digit of a token. -/
def isTokenLetter (c : CodePoint) : Bool :=
  c.isLabelLetter || c.isAsciiUpper || c.number = 0x130 || c.number = 0x131 || c.number = 0x17F ||
    c.number = 0x212A

end CodePoint

namespace Text

/-- A word of letters and hyphens that begins and ends with a letter; `letter` says what a letter is. -/
def isWord (letter : CodePoint → Bool) (t : Text) : Bool :=
  match t.head?, t.getLast? with
  | some first, some last =>
    letter first && letter last && t.all fun c => letter c || c = '-'
  | _, _ => false

/-- A token of a network selection. -/
def isToken (t : Text) : Bool := t.isWord CodePoint.isTokenLetter

/-- A name in small letters, as the cluster requires of its objects. -/
def isLabel (t : Text) : Bool := t.isWord CodePoint.isLabelLetter

example : isToken "ns1-A" = true := by decide
example : isToken "-a" = false := by decide
example : isLabel "netA" = false := by decide

end Text

/-- One network that a pod selects. -/
structure Reference where
  name : Text
  /-- The namespace, empty when none is named. -/
  ns : Text
  /-- The interface asked for, empty when none is named. -/
  interface : Text
deriving DecidableEq

namespace Reference

/-- The reference with `other` as its namespace, unless it has one. -/
def inNamespace (r : Reference) (other : Text) : Reference :=
  if r.ns.isEmpty then { r with ns := other } else r

end Reference

end NetAttach
