/-
  The CNI configuration inside a network attachment.

  A configuration is a JSON object.  Either it describes one plugin, whose `type` says which program to run,
  or it is a list: then `plugins` holds one object per plugin.  This module holds what can be wrong with a
  configuration, how one is read from its text, and how a missing name is filled in.

  A name is filled in on a copy of the configuration.  Reading and copying both go down into the configuration, and fail
  when it is nested too deep for them.
-/
import NetAttach.Failure
import NetAttach.Json.Reader
import NetAttach.Reason

namespace NetAttach.Cni

/-- The part of a configuration that a complaint is about. -/
inductive Place where
  | list
  | single
  | plugin (index : Nat)
deriving DecidableEq

/-- How a message names the place. -/
def Place.text : Place → Text
  | list => "config list"
  | single => "config"
  | plugin index => "plugins[" ++ Text.ofNat index ++ "]"

/-- A structural fault. -/
inductive Fault where
  /-- A field that must be a string is something else. -/
  | notText (place : Place) (field : Text)
  /-- The type of an address manager is no string. -/
  | ipamTypeNotText (place : Place)
  /-- A list has no name. -/
  | unnamed
  /-- The switch `disableCheck` is neither a truth value nor a string. -/
  | disableCheck
  /-- A list is empty. -/
  | noPlugins
  /-- An element of a list is no object. -/
  | notObject (place : Place)
  /-- The capabilities are no object of truth values. -/
  | capabilities (place : Place)
  /-- The description of the address manager is no object. -/
  | ipam (place : Place)
  /-- The name service settings are no object. -/
  | dns (place : Place)
deriving DecidableEq

/-- What is said of the fault. -/
def Fault.message : Fault → Text
  | notText place field => place.text ++ " '" ++ field ++ "' must be a string"
  | ipamTypeNotText place => place.text ++ " ipam 'type' must be a string"
  | unnamed => "config list is missing 'name'"
  | disableCheck => "config list 'disableCheck' must be a boolean"
  | noPlugins => "config list has no plugins"
  | notObject place => place.text ++ " is not a JSON object"
  | capabilities place => place.text ++ " 'capabilities' must map names to booleans"
  | ipam place => place.text ++ " 'ipam' must be a JSON object"
  | dns place => place.text ++ " 'dns' must be a JSON object"

/-- Why a configuration is not used. -/
inductive Error where
  /-- The text is no JSON. -/
  | notJson
  /-- It is JSON, but no object. -/
  | notObject
  | shape (fault : Fault)
  /-- A plugin, or the single configuration, has no type. -/
  | missingType (place : Place)
  /-- A type is a list or a mapping, which cannot be a member of a set. -/
  | unhashable (typeName : Text)
  /-- The configuration is nested too deep. -/
  | tooDeep (d : Descent)
deriving DecidableEq

namespace Error

/-- The reason to give for a configuration that is turned down.  There is none for a type that cannot be
collected: that is a failure, and the check of the shape keeps it from happening.  Nothing keeps a configuration from
being nested too deep, which is a failure as well. -/
def reason : Error → Except Failure Reason
  | notJson | notObject => .ok .notJson
  | shape _ => .ok .invalidShape
  | missingType _ => .ok .missingPluginType
  | unhashable typeName => .error (.unhashable typeName)
  | tooDeep d => .error (.tooDeep d)

/-- What is said of the error. -/
def message : Error → Text
  | notJson => "configuration string is not in JSON format"
  | notObject => "configuration string is not a JSON object"
  | shape fault => fault.message
  | missingType (.plugin index) => "missing 'type' in plugins[" ++ Text.ofNat index ++ "]"
  | missingType _ => "missing 'type' in cni config"
  | unhashable typeName => (Failure.unhashable typeName).message
  | tooDeep d => d.message

end Error

/-- Read a configuration from its text. -/
def load [Nesting] (text : Text) : Except Error Entries :=
  match Json.readWithin Nesting.config text with
  | .error (.tooDeep c) => .error (.tooDeep (.reading c))
  | .error _ => .error .notJson
  | .ok (.mapping conf) => .ok conf
  | .ok _ => .error .notObject

/-- Fill in `name` as the name of a configuration that has none.  A name that is null, empty, zero or false
counts as none. -/
def fillName (conf : Entries) (name : Text) : Entries :=
  if !name.isEmpty && !(conf.field "name").truth then conf.put (.text "name") (.text name) else conf

/-- A copy of a configuration with `name` filled in. -/
def preprocess [Nesting] (conf : Entries) (name : Text) : Except Error Entries :=
  if Nesting.copy < (Value.mapping conf).copyCalls then .error (.tooDeep .copying) else .ok (fillName conf name)

/-- Read the configuration of an attachment called `name`, to check it. -/
def prepare [Nesting] (text name : Text) : Except Error Entries := do preprocess (← load text) name

/-- The plugins of a configuration that is a list. -/
def plugins? (conf : Entries) : Option (List Value) :=
  match conf.get? "plugins" with
  | some (.list plugins) => some plugins
  | _ => none

/-- The configuration is a list. -/
def isList (conf : Entries) : Bool := (plugins? conf).isSome

end NetAttach.Cni
