/-
  The shape of a CNI configuration.

  These are the checks that CNI's own loader makes: which fields are strings, which are objects, and that a
  list has a name and at least one plugin.  A field that is left out or null is never at fault here; that a
  plugin must have a type is a matter of `Cni.pluginTypes`.
-/
import NetAttach.Cni.Config

namespace NetAttach.Cni

/-- The value may stand where a string is wanted: it is one, or null. -/
def isTextOrNull : Value → Bool
  | .null | .text _ => true
  | _ => false

/-- The value may stand for capabilities: null, or a mapping to truth values. -/
def isCapabilities : Value → Bool
  | .null => true
  | .mapping entries => entries.all fun e => match e.2 with | .bool _ => true | _ => false
  | _ => false

/-- The value may stand for an object: it is one, or null. -/
def isObjectOrNull : Value → Bool
  | .null | .mapping _ => true
  | _ => false

/-- The value may switch a check: null, a truth value or a string. -/
def isSwitch : Value → Bool
  | .null | .bool _ | .text _ => true
  | _ => false

/-- Fail with `fault` unless `ok`. -/
def need (ok : Bool) (fault : Fault) : Except Fault Unit := if ok then .ok () else .error fault

/-- Check a field that must be a string. -/
def checkText (conf : Entries) (field : Text) (place : Place) : Except Fault Unit :=
  need (isTextOrNull (conf.field field)) (.notText place field)

/-- Check the description of an address manager. -/
def checkIpam (ipam : Value) (place : Place) : Except Fault Unit :=
  match ipam with
  | .null => .ok ()
  | .mapping entries => need (isTextOrNull (Entries.field entries "type")) (.ipamTypeNotText place)
  | _ => .error (.ipam place)

/-- Check the fields of one plugin. -/
def checkPlugin (plugin : Entries) (place : Place) : Except Fault Unit := do
  checkText plugin "name" place
  checkText plugin "type" place
  checkText plugin "cniVersion" place
  need (isCapabilities (plugin.field "capabilities")) (.capabilities place)
  checkIpam (plugin.field "ipam") place
  need (isObjectOrNull (plugin.field "dns")) (.dns place)

/-- Check the plugins of a list, the first of which has number `index`. -/
def checkPlugins (index : Nat) : List Value → Except Fault Unit
  | [] => .ok ()
  | .mapping plugin :: rest => do
    checkPlugin plugin (.plugin index)
    checkPlugins (index + 1) rest
  | _ :: _ => .error (.notObject (.plugin index))

/-- Check a configuration that is a list of plugins. -/
def checkList (conf : Entries) (plugins : List Value) : Except Fault Unit := do
  checkText conf "name" .list
  need (conf.field "name").truth .unnamed
  checkText conf "cniVersion" .list
  need (isSwitch (conf.field "disableCheck")) .disableCheck
  need (!plugins.isEmpty) .noPlugins
  checkPlugins 0 plugins

/-- Check a configuration of either form. -/
def checkShape (conf : Entries) : Except Fault Unit :=
  match plugins? conf with
  | some plugins => checkList conf plugins
  | none => checkPlugin conf .single

end NetAttach.Cni
