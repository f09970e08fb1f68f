import CloudCluster.Yaml.Node
import CloudCluster.Yaml.Plain

/-!
The value of a YAML document.

Aliases are linked to the nodes that they repeat, tags are applied, and a
mapping may not have two equal keys. Collections nest 128 deep at most, and the
number of repetitions is bounded by the size of the document.
-/

namespace CloudCluster.Yaml

/-- A node whose aliases are anchor numbers. -/
abbrev LinkedNode := Node Nat

/-- The anchors met so far. An anchor is numbered by how many names were known
before it, so that a name that is used again takes the number of the next new
one; the last anchor to begin with a number is the one that counts. -/
structure Anchors where
  names : List (String × Nat) := []
  knownNames : Nat := 0
  started : Nat := 0
  owners : List (Nat × Nat) := []
  nodes : List (Nat × LinkedNode) := []

namespace Anchors

/-- Begins an anchored node and answers its serial number. -/
def start (anchors : Anchors) (name : String) : Anchors × Nat :=
  let number := anchors.knownNames
  let isNew := (anchors.names.lookup name).isNone
  ({ anchors with
      names := (name, number) :: anchors.names
      knownNames := if isNew then number + 1 else number
      started := anchors.started + 1
      owners := (number, anchors.started) :: anchors.owners },
    anchors.started)

/-- The node that an anchor number stands for. -/
def find? (anchors : Anchors) (number : Nat) : Option LinkedNode := do
  anchors.nodes.lookup (← anchors.owners.lookup number)

end Anchors

/-- A computation that links aliases. -/
abbrev Linking := StateT Anchors (Except Error)

/-- Links the node that `link` gives, under its anchor if it has one. -/
def withAnchor (anchor : Option String) (link : Linking LinkedNode) : Linking LinkedNode :=
  match anchor with
  | none => link
  | some name => do
    let (anchors, serial) := (← get).start name
    set anchors
    let node ← link
    modify fun anchors => { anchors with nodes := (serial, node) :: anchors.nodes }
    return node

mutual

/-- Replaces the names of aliases by anchor numbers. -/
def linkNode : NamedNode → Linking LinkedNode
  | .alias name => do
    match (← get).names.lookup name with
    | some number => return .alias number
    | none => throw .unknownAlias
  | .scalar anchor tag text style => withAnchor anchor (pure (.scalar anchor tag text style))
  | .sequence anchor tag items =>
    withAnchor anchor do return .sequence anchor tag (← linkItems items)
  | .mapping anchor tag entries =>
    withAnchor anchor do return .mapping anchor tag (← linkEntries entries)

/-- `linkNode` on the items of a sequence. -/
def linkItems : List NamedNode → Linking (List LinkedNode)
  | [] => return []
  | item :: rest => do
    let item ← linkNode item
    return item :: (← linkItems rest)

/-- `linkNode` on the entries of a mapping. -/
def linkEntries : List (NamedNode × NamedNode) → Linking (List (LinkedNode × LinkedNode))
  | [] => return []
  | (key, value) :: rest => do
    let key ← linkNode key
    let value ← linkNode value
    return (key, value) :: (← linkEntries rest)

end

mutual

/-- The size of a node: one for a scalar or an alias, two for the ends of a
collection. -/
def nodeSize : NamedNode → Nat
  | .alias _ | .scalar .. => 1
  | .sequence _ _ items => 2 + itemsSize items
  | .mapping _ _ entries => 2 + entriesSize entries

/-- The size of the items of a sequence. -/
def itemsSize : List NamedNode → Nat
  | [] => 0
  | item :: rest => nodeSize item + itemsSize rest

/-- The size of the entries of a mapping. -/
def entriesSize : List (NamedNode × NamedNode) → Nat
  | [] => 0
  | (key, value) :: rest => nodeSize key + nodeSize value + entriesSize rest

end

/-- How deep collections may nest. -/
def maxDepth : Nat := 128

/-- A local tag. Tags that do not begin with an exclamation mark are global. -/
def localTag? (tag : Option String) : Option Tag :=
  tag.bind fun text =>
    if text.startsWith "!" then some (.ofText (Tag.stripMark text)) else none

/-- Wraps a value in a local tag. -/
def applyTag (tag : Option String) (value : Value) : Value :=
  match localTag? tag with
  | some tag => .tagged tag value
  | none => value

/-- The value of a scalar with a global tag. -/
def globalScalar (tag text : String) : Except Error Value :=
  let s := text.toList
  if tag = "tag:yaml.org,2002:bool" then
    match Plain.bool? s with
    | some b => .ok (.bool b)
    | none => .error (.badScalar tag)
  else if tag = "tag:yaml.org,2002:int" then
    match (Plain.integer? s).filter Plain.fitsWord with
    | some n => .ok (.integer n)
    | none => .error (.badScalar tag)
  else if tag = "tag:yaml.org,2002:float" then
    match Plain.float? s with
    | some x => .ok (.float x)
    | none => .error (.badScalar tag)
  else if tag = "tag:yaml.org,2002:null" then
    if Plain.isNullWord s then .ok .null else .error (.badScalar tag)
  else .ok (.string text)

/-- The value of a scalar. A local tag leaves the meaning of its text alone. -/
def scalarValue (tag : Option String) (text : String) (style : ScalarStyle) :
    Except Error Value :=
  match tag, localTag? tag with
  | some tag, none => globalScalar tag text
  | _, localTag =>
    let value := if style = .plain then Plain.resolve text else .ok (.string text)
    match localTag with
    | some tag => value.map (.tagged tag)
    | none => value

/-- Whether two entries of a mapping have equal keys. -/
def hasDuplicateKey : Entries → Bool
  | [] => false
  | (key, _) :: rest => rest.any (fun other => key.same other.1) || hasDuplicateKey rest

/-- A computation that counts repetitions. -/
abbrev Composing := StateT Nat (Except Error)

/-- The node itself, or the one that it repeats. -/
def follow (anchors : Anchors) (limit : Nat) (node : LinkedNode) : Composing LinkedNode :=
  match node with
  | .alias number => do
    let count := (← get) + 1
    set count
    if limit < count then throw .repetitionLimit
    match anchors.find? number with
    | some target => return target
    | none => throw .unknownAlias
  | node => return node

/-- The value of a node in which collections may nest to a depth. -/
def compose (anchors : Anchors) (limit : Nat) : Nat → LinkedNode → Composing Value
  | 0, node => do
    match ← follow anchors limit node with
    | .scalar _ tag text style => scalarValue tag text style
    | _ => throw .recursionLimit
  | depth + 1, node => do
    match ← follow anchors limit node with
    | .scalar _ tag text style => scalarValue tag text style
    | .sequence _ tag items =>
      return applyTag tag (.sequence (← items.mapM (compose anchors limit depth)))
    | .mapping _ tag entries => do
      let entries ← entries.mapM fun (key, value) => do
        let key ← compose anchors limit depth key
        return (key, ← compose anchors limit depth value)
      if hasDuplicateKey entries then throw .duplicateKey
      return applyTag tag (.mapping entries)
    | .alias _ => throw .unknownAlias

/-- The value of a document's root. -/
def composeRoot (root : NamedNode) : Except Error Value := do
  let (node, anchors) ← (linkNode root).run {}
  let (value, _) ← (compose anchors (100 * nodeSize root) maxDepth node).run 0
  return value

/-- Reads a text with at most one document; none is null. -/
def read (text : String) : Except Error Value := do
  match ← NamedNode.ofTokens (← Token.scan text) with
  | some root => composeRoot root
  | none => return .null

end CloudCluster.Yaml
