/-
  The settings of the program.

  They are read from a document with three sections, all of which may be left out.  The reading is generous:
  a number may be written as text, a truth value counts as a number, and anything has a text.  It ends at the
  first thing that cannot be taken for what it should be.
-/
import NetAttach.ErrorKind
import NetAttach.Nesting
import NetAttach.PathName
import NetAttach.Value

namespace NetAttach

/-- Where admission requests are served, and with which certificate. -/
structure WebhookSettings where
  bindAddress : Text
  /-- Absent when a command line gives the port with nothing. -/
  port : Option Int
  certificate : PathName
  privateKey : PathName
  pollInterval : Float

/-- Where metrics are served, and which labels have a gauge; absent means all of them. -/
structure MetricsSettings where
  listenAddress : Text
  port : Int
  gaugeLabels : Option (List Text)

/-- How the use of networks is counted. -/
structure ControllerSettings where
  enabled : Bool
  workers : Int
  maxRetries : Int
  baseDelay : Float
  maxDelay : Float
  watchTimeout : Int

/-- All settings. -/
structure Settings where
  webhook : WebhookSettings
  metrics : MetricsSettings
  controller : ControllerSettings

namespace Settings

/-- The settings when nothing is said. -/
def standard : Settings :=
  { webhook :=
      { bindAddress := "0.0.0.0", port := some 443, certificate := .ofText "cert.pem",
        privateKey := .ofText "key.pem", pollInterval := 1 }
    metrics := { listenAddress := "0.0.0.0", port := 9091, gaugeLabels := none }
    controller :=
      { enabled := true, workers := 1, maxRetries := 5, baseDelay := 0.005, maxDelay := 1000,
        watchTimeout := 300 } }

/-! ## What can be wrong -/

/-- Why a document is not taken for settings. -/
inductive Error where
  | notMapping
  | sectionNotMapping (name : Text)
  | intervalNotPositive
  | labelsNotList
  | noWorkers
  | noRetries
  /-- A text or bytes are no integer. -/
  | integer (fault : IntegerFault)
  /-- A text or bytes are no number; they are given as messages repeat them. -/
  | notNumber (given : Text)
  /-- A number that is to be an integer is infinite. -/
  | infinite
  /-- A number that is to be an integer is none at all. -/
  | notANumber
  /-- An integer is too large for a double. -/
  | tooLarge
  /-- Something of another type stands for an integer. -/
  | notIntegral (typeName : Text)
  /-- Something of another type stands for a number. -/
  | notReal (typeName : Text)
  /-- Something of another type stands for a file.  The type is called by the last part of its name. -/
  | notPath (typeName : Text)
  /-- Bytes stand for a file. -/
  | pathOfBytes
  /-- An integer that stands for text is too long to be written. -/
  | unwritable
  /-- What stands for text is nested too deep. -/
  | tooDeep
deriving DecidableEq

namespace Error

/-- The family of an error. -/
def kind : Error → ErrorKind
  | infinite | tooLarge => .range
  | notIntegral _ | notReal _ | notPath _ | pathOfBytes => .type
  | tooDeep => .crash
  | _ => .value

/-- What is said of an error. -/
def message : Error → Text
  | notMapping => "Agent configuration must be a mapping"
  | sectionNotMapping name => "'" ++ name ++ "' section must be a mapping"
  | intervalNotPositive => "webhook 'cert_poll_interval' must be positive"
  | labelsNotList => "metrics 'gauge_labels' must be a list if provided"
  | noWorkers => "controller 'workers' must be at least 1"
  | noRetries => "controller 'max_retries' must be at least 1"
  | integer fault => fault.message
  | notNumber given => "could not convert string to float: " ++ given
  | infinite => "cannot convert float infinity to integer"
  | notANumber => "cannot convert float NaN to integer"
  | tooLarge => "int too large to convert to float"
  | notIntegral typeName =>
    "int() argument must be a string, a bytes-like object or a real number, not '" ++ typeName ++ "'"
  | notReal typeName => "float() argument must be a string or a real number, not '" ++ typeName ++ "'"
  | notPath typeName => "expected str, bytes or os.PathLike object, not " ++ (Text.cutLast '.' typeName).2
  | pathOfBytes =>
    "argument should be a str object or an os.PathLike object returning str, not <class 'bytes'>"
  | unwritable => IntegerFault.unwritableMessage
  | tooDeep => Descent.showing.message

/-- A value that stands for text has none. -/
def ofUntold : Value.Untold → Error
  | .longInteger => unwritable
  | .tooDeep => tooDeep

end Error

end Settings

/-! ## Taking a value for what it should be -/

/-- A double without its fraction. -/
def Double.truncate (x : Float) : Except Settings.Error Int :=
  if x.isNaN then .error .notANumber
  else
    match Dyadic.ofBits? x.toBits with
    | none => .error .infinite
    | some size =>
      let whole := size.mantissa * Nat.pow 2 size.exponent.toNat / Nat.pow 2 (-size.exponent).toNat
      .ok (if Dyadic.signBit ≤ x.toBits.toNat then -(whole : Int) else whole)

/-- The double nearest to an integer. -/
def Double.ofInteger (n : Int) : Except Settings.Error Float :=
  let x := Float.ofInt n
  if x.isInf then .error .tooLarge else .ok x

namespace Value

/-- The integer that a value stands for. -/
def toInteger : Value → Except Settings.Error Int
  | .bool b => .ok (if b then 1 else 0)
  | .int n => .ok n
  | .float x => Double.truncate x
  | .text t => t.toInteger.mapError .integer
  | .scalar (.bytes b) => b.toInteger.mapError .integer
  | v => .error (.notIntegral v.typeName)

/-- The double that a value stands for. -/
def toDouble : Value → Except Settings.Error Float
  | .bool b => .ok (if b then 1 else 0)
  | .int n => Double.ofInteger n
  | .float x => .ok x
  | .text t => (t.toDouble?.map .ok).getD (.error (.notNumber t.quoted))
  | .scalar (.bytes b) => (b.toDouble?.map .ok).getD (.error (.notNumber b.quoted))
  | v => .error (.notReal v.typeName)

/-- The text that a value stands for. -/
def toText [Nesting] (v : Value) : Except Settings.Error Text := (v.shown Nesting.setting).mapError .ofUntold

/-- The file that a value names. -/
def toPath : Value → Except Settings.Error PathName
  | .text t => .ok (.ofText t)
  | .scalar (.bytes _) => .error .pathOfBytes
  | v => .error (.notPath v.typeName)

end Value

/-! ## Documents -/

namespace Settings

/-- Read a field with `take`, or use `other` when it is left out. -/
def fieldOr {α : Type} (fields : Entries) (key : Text) (other : α) (take : Value → Except Error α) :
    Except Error α :=
  match Entries.get? fields key with
  | some v => take v
  | none => .ok other

/-- A section of a document; one that is left out or null is empty. -/
def sectionOf (document : Entries) (name : Text) : Except Error Entries :=
  match Entries.field document name with
  | .null => .ok []
  | v =>
    match v.asMapping? with
    | some fields => .ok fields
    | none => .error (.sectionNotMapping name)

/-- Read the webhook section.  The interval is looked at first. -/
def readWebhook [Nesting] (fields : Entries) : Except Error WebhookSettings := do
  let other := standard.webhook
  let pollInterval ← fieldOr fields "cert_poll_interval" other.pollInterval Value.toDouble
  if pollInterval ≤ 0 then throw .intervalNotPositive
  let bindAddress ← fieldOr fields "bind_address" other.bindAddress Value.toText
  let port ← fieldOr fields "port" other.port fun v => v.toInteger.map some
  let certificate ← fieldOr fields "tls_cert_file" other.certificate Value.toPath
  let privateKey ← fieldOr fields "tls_private_key_file" other.privateKey Value.toPath
  return { bindAddress, port, certificate, privateKey, pollInterval }

/-- The labels that are to have a gauge: a list, taken by the texts of its items, or nothing. -/
def readLabels [Nesting] (v : Value) : Except Error (Option (List Text)) :=
  match v with
  | .null => .ok none
  | v =>
    match v.asList? with
    | some labels => (labels.mapM Value.toText).map some
    | none => .error .labelsNotList

/-- Read the metrics section. -/
def readMetrics [Nesting] (fields : Entries) : Except Error MetricsSettings := do
  let other := standard.metrics
  let gaugeLabels ← readLabels (Entries.field fields "gauge_labels")
  let listenAddress ← fieldOr fields "listen_address" other.listenAddress Value.toText
  let port ← fieldOr fields "port" other.port Value.toInteger
  return { listenAddress, port, gaugeLabels }

/-- Read the controller section.  Both counts are read before either is compared. -/
def readController (fields : Entries) : Except Error ControllerSettings := do
  let other := standard.controller
  let workers ← fieldOr fields "workers" other.workers Value.toInteger
  let maxRetries ← fieldOr fields "max_retries" other.maxRetries Value.toInteger
  if workers < 1 then throw .noWorkers
  if maxRetries < 1 then throw .noRetries
  let enabled ← fieldOr fields "enabled" other.enabled fun v => .ok v.truth
  let baseDelay ← fieldOr fields "base_delay" other.baseDelay Value.toDouble
  let maxDelay ← fieldOr fields "max_delay" other.maxDelay Value.toDouble
  let watchTimeout ← fieldOr fields "watch_timeout" other.watchTimeout Value.toInteger
  return { enabled, workers, maxRetries, baseDelay, maxDelay, watchTimeout }

/-- Read the settings in a document.  An empty document changes nothing. -/
def ofDocument [Nesting] : Value → Except Error Settings
  | .null => .ok standard
  | v =>
    match v.asMapping? with
    | some document => do
      let webhook ← readWebhook (← sectionOf document "webhook")
      let metrics ← readMetrics (← sectionOf document "metrics")
      let controller ← readController (← sectionOf document "controller")
      return { webhook, metrics, controller }
    | none => .error .notMapping

end Settings

end NetAttach
