import CloudCluster.Yaml.Token.Scan

/-!
The syntax tree of a YAML document.

`NamedNode.ofTokens` is the grammar over tokens. A node that is left out, where the
grammar lets it be, is an empty plain scalar. Tags are resolved against the
directives of the document.
-/

namespace CloudCluster.Yaml

/-- A node of a document, whose aliases are references of type `Ref`. Anchors
and tags are optional. -/
inductive Node (Ref : Type) where
  | alias (target : Ref)
  | scalar (anchor tag : Option String) (text : String) (style : ScalarStyle)
  | sequence (anchor tag : Option String) (items : List (Node Ref))
  | mapping (anchor tag : Option String) (entries : List (Node Ref × Node Ref))
  deriving Inhabited

/-- A node whose aliases are names, as they are written. -/
abbrev NamedNode := Node String

namespace NamedNode

/-- A node that is left out. -/
def empty : NamedNode := .scalar none none "" .plain

/-- The tag handles that a document may use, with their expansions. -/
abbrev Handles := List (String × String)

/-- The handles that need no directive. -/
def standardHandles : Handles :=
  [("!", "!"), ("!!", "tag:yaml.org,2002:")]

/-- The full tag for a handle and a suffix. -/
def resolveTag (handles : Handles) (handle suffix : String) : Except Error String :=
  if handle = "" then .ok suffix
  else match handles.lookup handle with
    | some expansion => .ok (expansion ++ suffix)
    | none => .error .undefinedTagHandle

/-- Reads the anchor and the tag of a node, in either order. -/
def readProperties (handles : Handles) :
    List Token → Except Error (Option String × Option String × List Token)
  | .anchor name :: .tag handle suffix :: rest
  | .tag handle suffix :: .anchor name :: rest => do
    return (some name, some (← resolveTag handles handle suffix), rest)
  | .anchor name :: rest => .ok (some name, none, rest)
  | .tag handle suffix :: rest => do
    return (none, some (← resolveTag handles handle suffix), rest)
  | rest => .ok (none, none, rest)

/-- Whether the next token is among these. -/
def startsWith (tokens : List Token) (those : List Token) : Bool :=
  match tokens with
  | token :: _ => those.contains token
  | [] => true

/-- The tokens that a node inside a block mapping cannot begin with. -/
def blockMappingEnds : List Token := [.key, .value, .blockEnd]

mutual

/-- Reads a node. In a block mapping a block sequence may stand without an
indentation of its own. -/
def readNode (handles : Handles) (block indentless : Bool) :
    Nat → List Token → Except Error (NamedNode × List Token)
  | 0, _ => .error .expectedNode
  | fuel + 1, tokens =>
    match tokens with
    | .alias name :: rest => .ok (.alias name, rest)
    | _ => do
      let (anchor, tag, tokens) ← readProperties handles tokens
      match tokens with
      | .blockEntry :: _ =>
        if indentless then do
          let (items, rest) ← readIndentlessItems handles fuel tokens
          return (.sequence anchor tag items, rest)
        else absent anchor tag tokens
      | .scalar text style :: rest =>
        return (.scalar anchor (tag.filter (· ≠ "!")) text style, rest)
      | .flowSequenceStart :: rest => do
        let (items, rest) ← readFlowItems handles true fuel rest
        return (.sequence anchor tag items, rest)
      | .flowMappingStart :: rest => do
        let (entries, rest) ← readFlowEntries handles true fuel rest
        return (.mapping anchor tag entries, rest)
      | .blockSequenceStart :: rest =>
        if block then do
          let (items, rest) ← readBlockItems handles fuel rest
          return (.sequence anchor tag items, rest)
        else absent anchor tag tokens
      | .blockMappingStart :: rest =>
        if block then do
          let (entries, rest) ← readBlockEntries handles fuel rest
          return (.mapping anchor tag entries, rest)
        else absent anchor tag tokens
      | _ => absent anchor tag tokens

/-- Reads a node that has properties at most. -/
def absent (anchor tag : Option String) (tokens : List Token) :
    Except Error (NamedNode × List Token) :=
  if anchor.isSome || tag.isSome then .ok (.scalar anchor tag "" .plain, tokens)
  else .error .expectedNode

/-- Reads a node unless one of these tokens stands there. -/
def readUnless (those : List Token) (handles : Handles) (block indentless : Bool) :
    Nat → List Token → Except Error (NamedNode × List Token)
  | 0, _ => .error .expectedNode
  | fuel + 1, tokens =>
    if startsWith tokens those then .ok (empty, tokens)
    else readNode handles block indentless fuel tokens

/-- Reads the entries of a block sequence, up to its end. -/
def readBlockItems (handles : Handles) :
    Nat → List Token → Except Error (List NamedNode × List Token)
  | 0, _ => .error .expectedBlockEnd
  | fuel + 1, tokens =>
    match tokens with
    | .blockEntry :: rest => do
      let (item, rest) ← readUnless [.blockEntry, .blockEnd] handles true false fuel rest
      let (items, rest) ← readBlockItems handles fuel rest
      return (item :: items, rest)
    | .blockEnd :: rest => .ok ([], rest)
    | _ => .error .expectedBlockEnd

/-- Reads the entries of a block sequence without indentation of its own. -/
def readIndentlessItems (handles : Handles) :
    Nat → List Token → Except Error (List NamedNode × List Token)
  | 0, _ => .error .expectedBlockEnd
  | fuel + 1, tokens =>
    match tokens with
    | .blockEntry :: rest => do
      let (item, rest) ←
        readUnless (.blockEntry :: blockMappingEnds) handles true false fuel rest
      let (items, rest) ← readIndentlessItems handles fuel rest
      return (item :: items, rest)
    | _ => .ok ([], tokens)

/-- Reads the value of an entry of a block mapping. -/
def readBlockValue (handles : Handles) :
    Nat → List Token → Except Error (NamedNode × List Token)
  | 0, _ => .error .expectedBlockEnd
  | fuel + 1, tokens =>
    match tokens with
    | .value :: rest => readUnless blockMappingEnds handles true true fuel rest
    | _ => .ok (empty, tokens)

/-- Reads the entries of a block mapping, up to its end. -/
def readBlockEntries (handles : Handles) :
    Nat → List Token → Except Error (List (NamedNode × NamedNode) × List Token)
  | 0, _ => .error .expectedBlockEnd
  | fuel + 1, tokens =>
    match tokens with
    | .key :: rest => do
      let (key, rest) ← readUnless blockMappingEnds handles true true fuel rest
      let (value, rest) ← readBlockValue handles fuel rest
      let (entries, rest) ← readBlockEntries handles fuel rest
      return ((key, value) :: entries, rest)
    | .blockEnd :: rest => .ok ([], rest)
    | _ => .error .expectedBlockEnd

/-- Reads a value in a flow collection that ends with the token `close`. -/
def readFlowValue (handles : Handles) (close : Token) :
    Nat → List Token → Except Error (NamedNode × List Token)
  | 0, _ => .error .expectedNode
  | fuel + 1, tokens =>
    match tokens with
    | .value :: rest => readUnless [.flowEntry, close] handles false false fuel rest
    | _ => .ok (empty, tokens)

/-- Reads the entries of a flow sequence, up to its end. An entry that is a key
with a value is a mapping of one entry; a key that is left out takes the token
in its place with it. -/
def readFlowItems (handles : Handles) (first : Bool) :
    Nat → List Token → Except Error (List NamedNode × List Token)
  | 0, _ => .error .expectedFlowSeparator
  | fuel + 1, tokens =>
    match tokens with
    | .flowSequenceEnd :: rest => .ok ([], rest)
    | _ => do
      let tokens ← readSeparator first tokens
      match tokens with
      | .flowSequenceEnd :: rest => return ([], rest)
      | .key :: rest => do
        let (key, rest) ←
          if startsWith rest [.value, .flowEntry, .flowSequenceEnd] then
            pure (empty, rest.drop 1)
          else readNode handles false false fuel rest
        let (value, rest) ← readFlowValue handles .flowSequenceEnd fuel rest
        let (items, rest) ← readFlowItems handles false fuel rest
        return (.mapping none none [(key, value)] :: items, rest)
      | _ => do
        let (item, rest) ← readNode handles false false fuel tokens
        let (items, rest) ← readFlowItems handles false fuel rest
        return (item :: items, rest)

/-- Reads the comma before every entry but the first. -/
def readSeparator (first : Bool) (tokens : List Token) : Except Error (List Token) :=
  if first then .ok tokens
  else match tokens with
    | .flowEntry :: rest => .ok rest
    | _ => .error .expectedFlowSeparator

/-- Reads the entries of a flow mapping, up to its end. -/
def readFlowEntries (handles : Handles) (first : Bool) :
    Nat → List Token → Except Error (List (NamedNode × NamedNode) × List Token)
  | 0, _ => .error .expectedFlowSeparator
  | fuel + 1, tokens =>
    match tokens with
    | .flowMappingEnd :: rest => .ok ([], rest)
    | _ => do
      let tokens ← readSeparator first tokens
      match tokens with
      | .flowMappingEnd :: rest => return ([], rest)
      | .key :: rest => do
        let (key, rest) ←
          readUnless [.value, .flowEntry, .flowMappingEnd] handles false false fuel rest
        let (value, rest) ← readFlowValue handles .flowMappingEnd fuel rest
        let (entries, rest) ← readFlowEntries handles false fuel rest
        return ((key, value) :: entries, rest)
      | _ => do
        let (key, rest) ← readNode handles false false fuel tokens
        let (entries, rest) ← readFlowEntries handles false fuel rest
        return ((key, empty) :: entries, rest)

end

/-- Reads the directives of a document: one version at most, 1.1 or 1.2, and
handles that are not defined twice. -/
def readDirectives (version : Bool) (defined : Handles) :
    List Token → Except Error (Handles × List Token)
  | .versionDirective major minor :: rest =>
    if version then .error .duplicateDirective
    else if major ≠ 1 || (minor ≠ 1 && minor ≠ 2) then .error .badDirective
    else readDirectives true defined rest
  | .tagDirective handle expansion :: rest =>
    if (defined.lookup handle).isSome then .error .duplicateDirective
    else readDirectives version (defined ++ [(handle, expansion)]) rest
  | rest => .ok (defined, rest)

/-- Reads what stands between the start and the end of a document. -/
def readContent (handles : Handles) (tokens : List Token) :
    Except Error (NamedNode × List Token) :=
  match tokens with
  | [] | .versionDirective .. :: _ | .tagDirective .. :: _ | .documentStart :: _
  | .documentEnd :: _ => .ok (empty, tokens)
  | _ => readNode handles true false (3 * tokens.length + 3) tokens

/-- Reads the first document, if there is one. -/
def readDocument (tokens : List Token) : Except Error (Option NamedNode × List Token) :=
  match tokens with
  | [] => .ok (none, [])
  | .versionDirective .. :: _ | .tagDirective .. :: _ | .documentStart :: _ => do
    let (defined, rest) ← readDirectives false [] tokens
    match rest with
    | .documentStart :: rest => do
      let (node, rest) ← readContent (defined ++ standardHandles) rest
      return (some node, rest)
    | _ => throw .expectedDocumentStart
  | _ => do
    let (node, rest) ← readNode standardHandles true false (3 * tokens.length + 3) tokens
    return (some node, rest)

/-- The only document of a text, if it has one. -/
def ofTokens (tokens : List Token) : Except Error (Option NamedNode) := do
  let (node, rest) ← readDocument tokens
  if (rest.dropWhile (· = .documentEnd)).isEmpty then return node
  else throw .moreDocuments

end NamedNode

end CloudCluster.Yaml
