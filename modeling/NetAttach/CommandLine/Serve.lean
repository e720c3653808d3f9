/-
  The command line of the server.

  A flag says more than the settings file, and says it about one setting only.  Of a flag that is given
  twice, the last one counts.  A flag that is given with nothing is as good as left out, but for the port:
  then there is none.
-/
import NetAttach.CommandLine.Arguments
import NetAttach.File
import NetAttach.Settings.Basic
import NetAttach.Yaml.Reader

namespace NetAttach

/-- What the command line of the server says. -/
structure ServeFlags where
  config : Option PathName
  /-- Absent when nothing is said of the port, and `some none` when it is given with nothing. -/
  port : Option (Option Int)
  bindAddress : Option Text
  metricsAddress : Option Text
  certificate : Option PathName
  privateKey : Option PathName
  noController : Bool
  verbose : Bool

namespace ServeFlags

/-- An integer in a text. -/
def isInteger (t : Text) : Bool := (Text.toInteger t).toOption.isSome

/-- The flags of the server, beside the call for help. -/
def all : List CommandLine.Flag := [
  ⟨"--config", .take fun _ => true⟩, ⟨"--port", .take isInteger⟩, ⟨"--bind-address", .take fun _ => true⟩,
  ⟨"--metrics-listen-address", .take fun _ => true⟩, ⟨"--tls-cert-file", .take fun _ => true⟩,
  ⟨"--tls-private-key-file", .take fun _ => true⟩, ⟨"--no-controller", .switch⟩, ⟨"--verbose", .switch⟩]

/-- The flags among the arguments. -/
def ofArguments (a : CommandLine.Arguments) : ServeFlags :=
  { config := (a.value? "--config").map .ofText
    port := (a.last? "--port").map fun value => value.bind fun t => (Text.toInteger t).toOption
    bindAddress := a.value? "--bind-address"
    metricsAddress := a.value? "--metrics-listen-address"
    certificate := (a.value? "--tls-cert-file").map .ofText
    privateKey := (a.value? "--tls-private-key-file").map .ofText
    noController := a.has "--no-controller"
    verbose := a.has "--verbose" }

/-- Read the command line of the server. -/
def read (words : List Text) : Except CommandLine.Stop ServeFlags :=
  (CommandLine.read all false words).map ofArguments

/-! ## Settings -/

/-- Why there are no settings. -/
inductive Error where
  | file (fault : FileFault)
  | yaml (e : Yaml.Error)
  | settings (e : Settings.Error)
  /-- An address for metrics does not end in a port. -/
  | metricsAddress (given : Text)
  /-- The port for metrics is no integer after all. -/
  | port (fault : IntegerFault)
deriving DecidableEq

/-- What is said when there are no settings. -/
def Error.message : Error → Text
  | file fault => fault.message
  | yaml e => e.message
  | settings e => e.message
  | metricsAddress given => "invalid --metrics-listen-address '" ++ given ++ "'"
  | port fault => fault.message

/-- The address and the port behind its last colon.  Without an address, all of them are meant. -/
def splitAddress (given : Text) : Except Error (Text × Int) :=
  let (host, port) := Text.cutLast ':' given
  if !port.isEmpty && port.all CodePoint.isDigit then
    match Text.toInteger port with
    | .ok n => .ok (if host.isEmpty then "0.0.0.0" else host, n)
    | .error fault => .error (.port fault)
  else .error (.metricsAddress given)

/-- A flag with an empty text is as good as left out. -/
def nonEmpty (flag : Option Text) : Option Text := flag.filter fun t => !t.isEmpty

/-- Let the flags say what they say about `file`, the settings of the file. -/
def override (flags : ServeFlags) (file : Settings) : Except Error Settings := do
  let webhook :=
    { file.webhook with
      port := flags.port.getD file.webhook.port
      bindAddress := (nonEmpty flags.bindAddress).getD file.webhook.bindAddress
      certificate := flags.certificate.getD file.webhook.certificate
      privateKey := flags.privateKey.getD file.webhook.privateKey }
  let metrics ←
    match nonEmpty flags.metricsAddress with
    | none => pure file.metrics
    | some given => do
      let (listenAddress, port) ← splitAddress given
      pure { file.metrics with listenAddress, port }
  let controller :=
    { file.controller with enabled := !flags.noController && file.controller.enabled }
  return { webhook, metrics, controller }

/-- The settings that the flags bring about; `load` reads the document in a file. -/
def settings [Nesting] (flags : ServeFlags) (load : PathName → Except Error Value) : Except Error Settings := do
  let file ←
    match flags.config with
    | none => pure Settings.standard
    | some path => (Settings.ofDocument (← load path)).mapError .settings
  flags.override file

end ServeFlags

end NetAttach
