/-
  The two web applications: admission reviews, and metrics with a health page.

  Each path is known under one method.  A page that can be fetched also answers to `HEAD`, without its body,
  and every known path answers to `OPTIONS`.  Beside its own paths, each application knows a path for files,
  below which there are none.
-/
import NetAttach.Admission.Review
import NetAttach.Http.Request
import NetAttach.Json.Writer
import NetAttach.Usage.Gauges

namespace NetAttach.Http

/-- The contents of an answer. -/
structure Content where
  body : Text
  mediaType : Text
deriving DecidableEq

/-- An answer: a status, and contents where there is something to say. -/
structure Answer where
  status : Nat
  content : Option Content
deriving DecidableEq

namespace Answer

/-- The answer with the contents that were asked for. -/
def ok (mediaType body : Text) : Answer := ⟨200, some ⟨body, mediaType⟩⟩

/-- The answer for a path that is not known. -/
def notFound : Answer := ⟨404, none⟩

/-- The answer for a path that is known under another method. -/
def wrongMethod : Answer := ⟨405, none⟩

/-- The answer that sends a client to another path. -/
def redirect : Answer := ⟨308, none⟩

/-- The answer when something failed. -/
def failed : Answer := ⟨500, none⟩

end Answer

/-- The methods a path may be known under. -/
inductive Method where
  | get
  | post
deriving DecidableEq

/-- Answer a request for a path that is known under one method. -/
def atPath (known : Method) (r : Request) (answer : Answer) : Answer :=
  if r.method = "options" then .ok "text/html" []
  else
    match known with
    | .post => if r.method = "post" then answer else .wrongMethod
    | .get =>
      if r.method = "get" then answer
      else if r.method = "head" then
        { answer with content := answer.content.map fun c => { c with body := [] } }
      else .wrongMethod

/-! ## Other paths -/

/-- The path of a file: behind the name of the directory comes anything that does not begin with a slash and
has no line end after its first byte. -/
def isFilePath (path : Bytes) : Bool :=
  let directory := Text.toUtf8 "/static/"
  directory.isPrefixOf path &&
    match path.drop directory.length with
    | [] => false
    | b :: rest => b ≠ slash && !rest.contains 0x0A

/-- A path with one slash for each two that follow each other. -/
def mergeSlashes : Bytes → Bytes
  | a :: b :: rest => if a = slash ∧ b = slash then slash :: mergeSlashes rest else a :: mergeSlashes (b :: rest)
  | path => path

/-- The method fetches a page or asks about it. -/
def isFetch (r : Request) : Bool := r.method = "get" || r.method = "head" || r.method = "options"

/-- Answer a request for a path that no page has.  There are no files; a path that would be one with fewer
slashes is corrected. -/
def elsewhere (r : Request) : Answer :=
  if isFilePath r.path then atPath .get r .notFound
  else if isFilePath (mergeSlashes r.path) then if isFetch r then .redirect else .wrongMethod
  else .notFound

/-! ## Admission -/

/-- A text that can be sent: one without surrogates. -/
def isSendable (t : Text) : Bool := !t.any CodePoint.isSurrogate

/-- Answer a request that carries a review; `decide` decides on the object in it. -/
def answerReview [Nesting] (decide : Value → Except Failure Decision) (r : Request) : Answer :=
  match Review.read r.body r.mediaType with
  | .error (.tooDeep _) => .failed
  | .error e => if isSendable e.message then ⟨e.status, some ⟨e.message, "text/plain"⟩⟩ else .failed
  | .ok review =>
    match decide (review.request.field "object") with
    | .error _ => .failed
    | .ok decision =>
      match Review.answer (.mapping review.fields) decision with
      | .error _ => .failed
      | .ok envelope =>
        if Nesting.answer < envelope.depth then .failed
        else .ok Review.mediaType (Json.write envelope ++ "\n")

/-- The paths of the two endpoints. -/
def validatePath : Bytes := Text.toUtf8 "/validate"
def isolatePath : Bytes := Text.toUtf8 "/isolate"

/-- The application that the cluster sends its reviews to. -/
def admission [Nesting] (r : Request) : Answer :=
  if r.path = validatePath then atPath .post r (answerReview reviewAttachment r)
  else if r.path = isolatePath then atPath .post r (answerReview reviewPod r)
  else elsewhere r

/-! ## Metrics -/

/-- The page that leads to the others. -/
def indexPage : Text :=
  "<html>\n<head><title>Net Attach Definition Admission Controller Metrics Server</title></head>\n" ++
    "<body>\n<h1>Kube Metrics</h1>\n<ul>\n<li><a href='/metrics'>metrics</a></li>\n" ++
    "<li><a href='/healthz'>healthz</a></li>\n</ul>\n</body>\n</html>\n"

/-- The paths of the pages. -/
def metricsPath : Bytes := Text.toUtf8 "/metrics"
def healthPath : Bytes := Text.toUtf8 "/healthz"
def indexPath : Bytes := Text.toUtf8 "/"

/-- The application that shows the gauges.  A client that fetches a page without naming a path is sent to the
index. -/
def metrics (gauges : Gauges) (r : Request) : Answer :=
  if r.path = metricsPath then atPath .get r (.ok "text/plain" gauges.page)
  else if r.path = healthPath then atPath .get r (.ok "text/plain" "OK")
  else if r.path = indexPath then atPath .get r (.ok "text/html" indexPage)
  else if r.path = [] && isFetch r then .redirect
  else elsewhere r

end NetAttach.Http
