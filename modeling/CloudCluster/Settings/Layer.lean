import CloudCluster.Files.Fault
import CloudCluster.Settings.Basic
import CloudCluster.Toml.Value

/-!
Settings in layers.

A layer is a table of values by key. A layer that lies over another wins field
by field: where both have a table the tables are laid over one another, else
the upper value counts. `Settings.ofFields` takes the settings out of the
layers; keys that name no setting are passed over.
-/

namespace CloudCluster.Settings

open Toml

/-- Why there are no settings. -/
inductive Error where
  | unreadable (fault : Files.Fault)
  | malformed (error : Toml.Error)
  | notText (key : String)
  | notTable (key : String)
  deriving DecidableEq, Repr

/-- The text of an error. -/
def Error.message : Error → String
  | unreadable fault => fault.message
  | malformed error => error.message
  | notText key => s!"the setting {key} is no text"
  | notTable key => s!"the setting {key} is no table"

/-- Puts a value under a key, in its place if there is one, else at the end. -/
def put (key : String) (value : Value) : Fields → Fields
  | [] => [(key, value)]
  | (k, v) :: rest => if k = key then (key, value) :: rest else (k, v) :: put key value rest

/-- The fields of a table. A moment counts as a table without a known field. -/
def fields? : Value → Option Fields
  | .table fields => some fields
  | .moment _ => some []
  | _ => none

mutual

/-- Lays fields over others. -/
def overlay (under : Fields) : Fields → Fields
  | [] => under
  | (key, value) :: rest =>
    overlay (put key (overlayValue (under.lookup key) value) under) rest

/-- Lays a value over another, if there is one. -/
def overlayValue (under : Option Value) : Value → Value
  | .table fields => .table (overlay ((under.bind fields?).getD []) fields)
  | value => value

end

/-- The text under a key, if there is a value. -/
def textField (key : String) (fields : Fields) : Except Error (Option String) :=
  match fields.lookup key with
  | none => .ok none
  | some (.string text) => .ok (some text)
  | some _ => .error (.notText key)

/-- The path of the launcher: the field `binary` of the table `ray`, or the
first item if there is a list in place of the table. -/
def launcherField (fields : Fields) : Except Error (Option Files.Path) :=
  match fields.lookup "ray" with
  | none => .ok none
  | some (.array items) => textField "binary" (items.head?.map (("binary", ·))).toList
  | some value =>
    match fields? value with
    | some inner => textField "binary" inner
    | none => .error (.notTable "ray")

/-- The settings in a layer; what it does not set has its default. -/
def ofFields (fields : Fields) : Except Error Settings := do
  let configDir ← textField "config_dir" fields
  let socksProxy ← textField "socks_proxy" fields
  let template ← textField "template" fields
  let launcher ← launcherField fields
  return { configDir := configDir.getD defaultConfigDir, socksProxy, template, launcher }

end CloudCluster.Settings
