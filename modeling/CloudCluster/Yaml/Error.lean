/-!
Why a text is no YAML document, or a value has no YAML text.
-/

namespace CloudCluster.Yaml

/-- The faults of YAML texts, from single characters to whole documents, and of
values that cannot be written. -/
inductive Error where
  | unreadableCharacter (code : Nat)
  | unexpectedCharacter
  | missingKeyIndicator
  | blockEntryNotAllowed
  | keyNotAllowed
  | valueNotAllowed
  | badDirective
  | badAnchor
  | badTag
  | badBlockHeader
  | tabInIndentation
  | unterminatedScalar
  | documentMarkerInScalar
  | badEscape
  | duplicateDirective
  | undefinedTagHandle
  | expectedDocumentStart
  | expectedNode
  | expectedBlockEnd
  | expectedFlowSeparator
  | unknownAlias
  | moreDocuments
  | repetitionLimit
  | recursionLimit
  | duplicateKey
  | badScalar (tag : String)
  | integerOutOfRange
  | keyNotWritable
  | nestedTag
  | described (text : String)
  deriving DecidableEq, Repr

namespace Error

/-- The text of an error. -/
def message : Error → String
  | unreadableCharacter code => s!"a document cannot hold the character of number {code}"
  | unexpectedCharacter => "no token begins with this character"
  | missingKeyIndicator => "a key has no colon behind it"
  | blockEntryNotAllowed => "no sequence item can stand here"
  | keyNotAllowed => "no key can stand here"
  | valueNotAllowed => "no value can stand here"
  | badDirective => "this is no directive"
  | badAnchor => "this is no name of an anchor"
  | badTag => "this is no tag"
  | badBlockHeader => "this is no header of a block"
  | tabInIndentation => "a line is indented with a tab"
  | unterminatedScalar => "a quoted text has no end"
  | documentMarkerInScalar => "a document ends within a quoted text"
  | badEscape => "this is no escape sequence"
  | duplicateDirective => "a directive is given twice"
  | undefinedTagHandle => "a tag has a handle that no directive declares"
  | expectedDocumentStart => "a document has to start here"
  | expectedNode => "a value has to stand here"
  | expectedBlockEnd => "a collection has to end here"
  | expectedFlowSeparator => "a comma or a closing bracket has to stand here"
  | unknownAlias => "an alias names no anchor"
  | moreDocuments => "there is more than one document"
  | repetitionLimit => "aliases repeat too much"
  | recursionLimit => "values are nested too deep"
  | duplicateKey => "a key is given twice"
  | badScalar tag => s!"a text is no value for the tag {tag}"
  | integerOutOfRange => "an integer is out of range"
  | keyNotWritable => "a mapping or a tagged value cannot be written as a key"
  | nestedTag => "a tagged value cannot be written behind another tag"
  | described text => text

end Error

end CloudCluster.Yaml
