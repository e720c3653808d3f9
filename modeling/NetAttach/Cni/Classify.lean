/-
  The plugin types of a CNI configuration.

  `pluginTypes` collects the types of any mapping; `classify` is for the text of a configuration and checks
  its shape first.  Types are collected as a set: equal ones once, in the order in which they were met.
-/
import NetAttach.Cni.Shape

namespace NetAttach.Cni

/-- Add a scalar to a list of different scalars. -/
def addType (types : List Scalar) (t : Scalar) : List Scalar :=
  if types.any fun s => s.same t then types else types ++ [t]

/-- The type of a plugin, or of a single configuration. -/
def pluginType (plugin : Entries) (place : Place) : Except Error Scalar :=
  let value := plugin.field "type"
  if value.truth then
    match value with
    | .scalar s => .ok s
    | v => .error (.unhashable v.typeName)
  else .error (.missingType place)

/-- Add the types of the plugins of a list to `types`; the first plugin has number `index`. -/
def collectTypes (types : List Scalar) (index : Nat) : List Value → Except Error (List Scalar)
  | [] => .ok types
  | .mapping plugin :: rest => do
    let t ← pluginType plugin (.plugin index)
    collectTypes (addType types t) (index + 1) rest
  | _ :: _ => .error (.missingType (.plugin index))

/-- The types of the plugins of a configuration. -/
def pluginTypes (conf : Entries) : Except Error (List Scalar) :=
  match plugins? conf with
  | some plugins => collectTypes [] 0 plugins
  | none => (pluginType conf .single).map fun t => [t]

/-- The types of the plugins of a configuration whose shape has been checked. -/
def checkedTypes (conf : Entries) : Except Error (List Scalar) :=
  match checkShape conf with
  | .error fault => .error (.shape fault)
  | .ok () => pluginTypes conf

/-- The types of the plugins of the configuration `text` of an attachment called `name`.  No text at all is
a configuration without plugins. -/
def classify [Nesting] (text name : Text) : Except Error (List Scalar) :=
  if text.isEmpty then .ok []
  else
    match prepare text name with
    | .error e => .error e
    | .ok conf => checkedTypes conf

example : (classify "\x7b\"type\": \"bridge\"\x7d" "net").toOption = some [.text "bridge"] := by
  decide +kernel

end NetAttach.Cni
