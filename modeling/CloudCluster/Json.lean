/-!
JSON values and the decoding of records from them.

A record is read from an object by field name or from an array by position.
`Record.field` finds the value for one field, so that a decoder names each
field once, with its position.
-/

namespace CloudCluster

/-- A JSON value. Integers are apart from numbers written with a fraction or an
exponent, whose value is not kept. -/
inductive Json where
  | null
  | bool (value : Bool)
  | integer (value : Int)
  | decimal
  | string (value : String)
  | array (items : List Json)
  | object (fields : List (String × Json))
  deriving Inhabited

namespace Json

/-- A value that must be a string. -/
def asString? : Json → Option String
  | string value => some value
  | _ => none

/-- An optional string: `null` stands for none. -/
def asOptionalString? : Json → Option (Option String)
  | null => some none
  | string value => some (some value)
  | _ => none

/-- An integer of 32 bits without sign. -/
def asUInt32? : Json → Option UInt32
  | integer value =>
    if 0 ≤ value ∧ value < 0x100000000 then some (UInt32.ofNat value.toNat) else none
  | _ => none

/-- A name from a closed list: a string, or an object whose only field has that
name and holds `null`. -/
def asName? : Json → Option String
  | string value => some value
  | object [(name, null)] => some name
  | _ => none

/-- An optional string as JSON. -/
def ofOption : Option String → Json
  | none => null
  | some text => string text

/-- A record as it is written: fields by name, or values by position. -/
inductive Record where
  | named (fields : List (String × Json))
  | positional (items : List Json)

/-- Reads a value as a record of `arity` fields; more values than fields are
refused, further named fields are not. -/
def asRecord? (arity : Nat) : Json → Option Record
  | object fields => some (.named fields)
  | array items => if items.length ≤ arity then some (.positional items) else none
  | _ => none

/-- The value of the field with this name and position. -/
def Record.field (record : Record) (name : String) (position : Nat) : Option Json :=
  match record with
  | .named fields => fields.lookup name
  | .positional items => items[position]?

/-- An optional string field; a missing one is none. -/
def Record.optionalString (record : Record) (name : String) (position : Nat) :
    Option (Option String) :=
  match record.field name position with
  | none => some none
  | some value => value.asOptionalString?

end Json

end CloudCluster
