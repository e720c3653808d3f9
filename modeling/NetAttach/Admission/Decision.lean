/-
  Decisions on objects that are submitted to the cluster.

  An attachment is admitted when its name is a label and its configuration, if there is one, is one that CNI
  would load.  A pod is admitted when all the networks it selects are in its own namespace.

  A decision is always reached, unless the input brings about a failure; then there is no decision.
-/
import NetAttach.Selection.Parse
import NetAttach.ApiObject
import NetAttach.Cni.Classify

namespace NetAttach

/-- Whether an object is admitted; a message and a reason say why not. -/
structure Decision where
  allowed : Bool
  message : Text
  reason : Text
deriving DecidableEq

namespace Decision

/-- A decision to allow, with a message that may be empty. -/
def allow (message : Text) : Decision := ⟨true, message, []⟩

/-- A refusal is never silent: without a message it shows its reason. -/
def deny (reason : Reason) (message : Text) : Decision :=
  ⟨false, if message.isEmpty then reason.text else message, reason.text⟩

theorem deny_message_ne_nil (reason : Reason) (message : Text) :
    (deny reason message).message ≠ [] := by
  unfold deny
  split
  · exact reason.text_ne_nil
  · simp_all

end Decision

namespace Attachment

/-- Why an attachment is not admitted. -/
inductive Refusal where
  | name (given : Text)
  | unreadable (e : Cni.Error)
  | config (e : Cni.Error)
deriving DecidableEq

namespace Refusal

/-- The reason to give; there is none when something failed. -/
def reason : Refusal → Except Failure Reason
  | name _ => .ok .invalidName
  | unreadable e => e.reason
  | config e => e.reason.map fun _ => .invalidConfig

/-- What is said of a refusal. -/
def message : Refusal → Text
  | name given => "net-attach-def name " ++ given.quoted ++ " is invalid"
  | unreadable e => e.message
  | config e => "invalid config: " ++ e.message

end Refusal

/-- Check the name, then the configuration. -/
def check [Nesting] (a : Attachment) : Except Refusal Unit :=
  if a.name.isLabel then
    if a.config.isEmpty then .ok ()
    else
      match Cni.prepare a.config a.name with
      | .error e => .error (.unreadable e)
      | .ok conf =>
        match Cni.checkedTypes conf with
        | .error e => .error (.config e)
        | .ok _ => .ok ()
  else .error (.name a.name)

/-- Decide whether an attachment is admitted. -/
def decide [Nesting] (a : Attachment) : Except Failure Decision :=
  match a.check with
  | .ok () => .ok (.allow [])
  | .error refusal => refusal.reason.map fun reason => .deny reason refusal.message

end Attachment

/-! ## Pods -/

/-- A namespace that no reference can name, since it is no token. -/
def localNamespace : Text := "_local"

/-- What a pod is told that selects a network in the namespace `ns`. -/
def crossNamespaceMessage (written ns : Text) : Text :=
  networksKey ++ " annotations must not refer to namespaced values (must use local namespace, " ++
    "i.e. must not contain a /), rejected: " ++ written ++ " (namespace: " ++ ns ++ ")"

/-- Decide on a pod by its networks annotation.  References without a namespace are read as ones in
`localNamespace`, so any other namespace was named. -/
def decideIsolation [Nesting] (networks : Option Text) : Except Failure Decision :=
  match networks with
  | none | some [] => .ok (.allow [])
  | some raw =>
    match Selection.parse raw localNamespace with
    | .error e => e.reason.map fun reason => .deny reason e.message
    | .ok references =>
      match references.find? fun r => r.ns ≠ localNamespace with
      | some r => .ok (.deny .crossNamespace (crossNamespaceMessage raw r.ns))
      | none => .ok (.allow [])

end NetAttach
