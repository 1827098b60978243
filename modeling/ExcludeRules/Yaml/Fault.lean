/-
Why bytes are not a YAML document.

A fault is a violation of the grammar; it makes the text unreadable as a whole.  A
misfit is a scalar whose tag asks for a value that its text does not spell, or a document
that cannot be taken in.
-/
import ExcludeRules.Text.Utf8

namespace ExcludeRules.Yaml

inductive Fault
  | unprintable (c : Char)
  | unexpected (c : Char)
  | missingValueMark
  | misplacedEntry
  | misplacedKey
  | misplacedValue
  | unopened (c : Char)
  | badDirective
  | badName
  | badTag
  | badBlockHeader
  | badEscape
  | unterminatedQuote
  | separatorInQuote
  | missingDocumentStart
  | duplicateVersion
  | incompatibleVersion
  | duplicateHandle
  | undefinedHandle (handle : String)
  | missingContent
  | missingBlockEnd
  | missingComma
  | undefinedAlias (name : String)
  | duplicateAnchor (name : String)
  | secondDocument
  | unhashableKey
  | badMerge
  | wrongShape
  | unknownTag (tag : String)
  | tooDeep
  deriving DecidableEq, Repr

def Fault.message : Fault → String
  | unprintable _ => "special characters are not allowed"
  | unexpected c => "found character '" ++ String.ofList [c] ++ "' that cannot start any token"
  | missingValueMark => "could not find expected ':'"
  | misplacedEntry => "sequence entries are not allowed here"
  | misplacedKey => "mapping keys are not allowed here"
  | misplacedValue => "mapping values are not allowed here"
  | unopened c => "found '" ++ String.ofList [c] ++ "' that closes nothing"
  | badDirective => "found an ill-formed directive"
  | badName => "found an ill-formed name of an anchor"
  | badTag => "found an ill-formed tag"
  | badBlockHeader => "found an ill-formed header of a block scalar"
  | badEscape => "found an unknown escape"
  | unterminatedQuote => "found unexpected end of stream"
  | separatorInQuote => "found unexpected document separator"
  | missingDocumentStart => "expected the start of a document"
  | duplicateVersion => "found a second version"
  | incompatibleVersion => "found incompatible YAML document (version 1.* is required)"
  | duplicateHandle => "found a tag handle that is defined twice"
  | undefinedHandle handle => "found undefined tag handle " ++ handle
  | missingContent => "expected the node content"
  | missingBlockEnd => "expected the end of a block"
  | missingComma => "expected ',' or the end of a collection"
  | undefinedAlias name => "found undefined alias " ++ name
  | duplicateAnchor name => "found duplicate anchor " ++ name
  | secondDocument => "expected a single document in the stream"
  | unhashableKey => "found unhashable key"
  | badMerge => "expected a mapping or list of mappings for merging"
  | wrongShape => "found a node of another shape than its tag asks for"
  | unknownTag tag => "could not determine a constructor for the tag " ++ tag
  | tooDeep => "found a node that holds itself"

/-- A scalar that its tag does not fit, or a document that does not fit the reader. -/
inductive Misfit
  /-- A number or a date that is none, or that is out of range. -/
  | value
  /-- A number or a character that is too large to be represented. -/
  | range
  /-- An integer or a number with nothing in it. -/
  | nothing
  /-- A word that is no truth value. -/
  | word (s : String)
  /-- A text that is no point in time. -/
  | time
  /-- Values that lie deeper in one another than the reader goes. -/
  | depth
  deriving DecidableEq, Repr

/-- Why bytes give no document. -/
inductive ReadError
  | fault (f : Fault)
  | encoding (e : Text.Utf8Fault)
  | misfit (m : Misfit)
  deriving DecidableEq, Repr

end ExcludeRules.Yaml
