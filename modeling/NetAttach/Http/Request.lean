/-
  Requests, as far as they matter to the applications.

  A request is made of parts as a client states them: a method, a target, a content type and a body.  The
  target may name a server in front of the path and a query behind it, and may spell bytes of the path in
  hexadecimal; what is left is a row of bytes with one slash at its start, or none at all.  The content type
  may carry parameters and may be written in capitals.
-/
import NetAttach.Json.Reader
import NetAttach.Text.Case

namespace NetAttach.Http

/-- Why parts do not make a request. -/
inductive PartsFault where
  /-- A bracket in the name of a server has no partner. -/
  | server
  /-- The content type runs over several lines. -/
  | headerLine
deriving DecidableEq

/-- What is said of the parts. -/
def PartsFault.message : PartsFault → Text
  | server => "Invalid IPv6 URL"
  | headerLine => "Header values must not contain newline characters."

/-! ## Targets -/

/-- The target behind a scheme and its colon. -/
def dropScheme (target : Text) : Text :=
  match Text.cutFirst ':' target with
  | (scheme, some rest) =>
    let isLetter (c : CodePoint) : Bool := c.isAsciiLower || c.isAsciiUpper
    let isSchemeLetter (c : CodePoint) : Bool :=
      isLetter c || c.isAsciiDigit || c = '+' || c = '-' || c = '.'
    if scheme.head?.any isLetter && scheme.all isSchemeLetter then rest else target
  | _ => target

/-- Where the path begins that follows the name of a server. -/
def endsServer (c : CodePoint) : Bool := c = '/' || c = '?' || c = '#'

/-- The path in a target, without the scheme and the server in front of it and the query behind it.  Blanks
at the start and line ends anywhere say nothing. -/
def pathOf (target : Text) : Except PartsFault Text :=
  let shown := (target.dropWhile fun (c : CodePoint) => c.number ≤ 0x20).filter fun (c : CodePoint) =>
    !(c = '\t' || c = '\n' || c = '\r')
  let cut (rest : Text) : Text := rest.takeWhile fun (c : CodePoint) => !(c = '?' || c = '#')
  let rest := dropScheme shown
  if rest.take 2 = "//" then
    let behind := rest.drop 2
    let server := behind.takeWhile fun c => !endsServer c
    if server.contains (CodePoint.ofChar '[') = server.contains (CodePoint.ofChar ']') then
      .ok (cut (behind.dropWhile fun c => !endsServer c))
    else .error .server
  else .ok (cut rest)

/-- The bytes of a path, with the byte that two hexadecimal digits behind a percent sign spell in their
place.  A percent sign without such digits stands for itself. -/
def decodePath : Text → Bytes
  | [] => []
  | c :: a :: b :: rest =>
    match if c = '%' then [a, b].mapM Json.hexValue? else none with
    | some [high, low] => (16 * high + low).toUInt8 :: decodePath rest
    | _ => Encoding.utf8Bytes c ++ decodePath (a :: b :: rest)
  | c :: rest => Encoding.utf8Bytes c ++ decodePath rest

/-- The byte of a slash. -/
def slash : UInt8 := 0x2F

/-- A path with one slash at its start, unless there is nothing of it. -/
def oneSlash (path : Bytes) : Bytes :=
  if path.isEmpty then [] else slash :: path.dropWhile (· = slash)

/-! ## Content types -/

/-- The media type in a content type: what stands before the parameters, in small letters. -/
def mediaTypeOf (contentType : Text) : Option Text :=
  let type := Text.trim (fun c => c = ' ' || c = '\t') (contentType.takeWhile fun (c : CodePoint) => c ≠ ';')
  if type.isEmpty then none else some (Text.lower type)

/-- The media type of forms in parts, which have a closing line even if they hold nothing. -/
def formType : Text := "multipart/form-data"

/-- The closing line of a form. -/
def closingLine : Text := "----\n"

/-! ## Requests -/

/-- A request, as far as it matters. -/
structure Request where
  method : Text
  path : Bytes
  mediaType : Option Text
  body : Bytes

/-- The request that is made of the given parts.  A server may be named twice in a target, since a path that
begins with two slashes names one too. -/
def Request.ofParts (method target : Text) (contentType : Option Text) (body : Bytes) :
    Except PartsFault Request := do
  let path ← pathOf (← pathOf target)
  let header := contentType.getD []
  if header.any fun c => c = '\n' || c = '\r' then throw .headerLine
  let isForm : Bool := Text.strip (header.takeWhile fun c => c ≠ ';') = formType
  return {
    method := method.toLowerAscii
    path := oneSlash (decodePath path)
    mediaType := contentType.bind mediaTypeOf
    body := if body.isEmpty && isForm then closingLine.toUtf8 else body }

example : (pathOf "http://host/a/b?c").toOption = some ("/a/b" : Text) := by decide +kernel
example : oneSlash (decodePath "/%2Fa%zz") = Text.toUtf8 "/a%zz" := by decide +kernel
example : mediaTypeOf " Application/JSON ; charset=utf-8" = some ("application/json" : Text) := by decide +kernel

end NetAttach.Http
