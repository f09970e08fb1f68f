import CloudCluster.Decimal.Binary64

/-!
YAML values.

A mapping keeps its entries in document order. `Value.same` is equality of
documents: the order of a mapping's entries does not matter to it, the two
zeros are one number, and an integer is never equal to a float.
-/

namespace CloudCluster.Yaml

open CloudCluster.Decimal

/-- A local tag, by its name without the leading exclamation mark. The tag that
is nothing but a mark has the mark as its name. -/
structure Tag where
  name : String
  deriving DecidableEq, Repr

namespace Tag

/-- Removes one leading exclamation mark, unless nothing would be left. -/
def stripMark (text : String) : String :=
  match text.toList with
  | '!' :: rest => if rest.isEmpty then text else String.ofList rest
  | _ => text

/-- The tag that is written so, with or without its exclamation mark. -/
def ofText (text : String) : Tag := ⟨stripMark text⟩

/-- The tag with its exclamation mark. -/
def text (tag : Tag) : String := "!" ++ tag.name

end Tag

/-- A YAML value. -/
inductive Value where
  | null
  | bool (value : Bool)
  | integer (value : Int)
  | float (value : Binary64)
  | string (value : String)
  | sequence (items : List Value)
  | mapping (entries : List (Value × Value))
  | tagged (tag : Tag) (value : Value)
  deriving Inhabited, Repr

/-- The entries of a mapping in document order. -/
abbrev Entries := List (Value × Value)

namespace Value

mutual

/-- Equality of documents. -/
def same : Value → Value → Bool
  | null, null => true
  | bool a, bool b => a = b
  | integer a, integer b => a = b
  | float a, float b => a.same b
  | string a, string b => a = b
  | sequence a, sequence b => sameItems a b
  | mapping a, mapping b => a.length = b.length && sameEntries a b
  | tagged s a, tagged t b => s = t && same a b
  | _, _ => false

/-- Equality item by item. -/
def sameItems : List Value → List Value → Bool
  | [], [] => true
  | a :: as, b :: bs => same a b && sameItems as bs
  | _, _ => false

/-- Whether for every entry the other mapping has one with an equal key and an
equal value. -/
def sameEntries : Entries → Entries → Bool
  | [], _ => true
  | (k, v) :: rest, others =>
    others.any (fun other => same k other.1 && same v other.2) && sameEntries rest others

end

end Value

end CloudCluster.Yaml
