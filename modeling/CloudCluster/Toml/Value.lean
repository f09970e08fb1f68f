import CloudCluster.Decimal.Binary64

/-!
Values of TOML documents.
-/

namespace CloudCluster.Toml

/-- A value. A moment is a date, a time or both, by its text. -/
inductive Value where
  | string (text : String)
  | integer (value : Int)
  | float (value : Decimal.Binary64)
  | boolean (value : Bool)
  | moment (text : String)
  | array (items : List Value)
  | table (fields : List (String × Value))
  deriving Repr

/-- The fields of a table. -/
abbrev Fields := List (String × Value)

/-- Why a text is no TOML document. -/
inductive Error where
  | expected (what : String)
  | outOfRange
  | tooDeep
  | duplicateKey (key : String)
  | notTable (key : String)
  deriving DecidableEq, Repr

/-- The text of an error. -/
def Error.message : Error → String
  | expected what => s!"expected {what}"
  | outOfRange => "the value is out of range"
  | tooDeep => "the document is nested too deep"
  | duplicateKey key => s!"the key {key} is given twice"
  | notTable key => s!"the key {key} is not that of an open table"

end CloudCluster.Toml
