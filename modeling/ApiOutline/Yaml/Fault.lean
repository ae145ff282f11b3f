import ApiOutline.Failure

/-!
What can be wrong with a YAML text. Some scalars that their tag does not fit are no faults of the
text, nor is a depth that is too great; for these the run is not prepared.
-/
namespace ApiOutline.Yaml

inductive Fault where
  | hiddenCharacter
  | strayCharacter
  | keyWithoutValue
  | entryNotAllowed
  | keyNotAllowed
  | valueNotAllowed
  | badDirective
  | badAnchor
  | badTag
  | badBlockHeader
  | badEscape
  | openQuote
  | documentInQuote
  | unexpectedToken
  | undefinedHandle
  | repeatedDirective
  | incompatibleVersion
  | undefinedAlias
  | repeatedAnchor
  | secondDocument
  | unknownTag
  | wrongKind
  | compoundKey
  | notMergeable
  | notPairs
  | badBinary
  | unprepared (what : Malformed)
  deriving DecidableEq, Repr

def Fault.message : Fault → String
  | .hiddenCharacter => "special characters are not allowed"
  | .strayCharacter => "found a character that cannot start any token"
  | .keyWithoutValue => "while scanning a simple key, could not find the expected ':'"
  | .entryNotAllowed => "sequence entries are not allowed here"
  | .keyNotAllowed => "mapping keys are not allowed here"
  | .valueNotAllowed => "mapping values are not allowed here"
  | .badDirective => "found a directive of an unknown form"
  | .badAnchor => "found an anchor or an alias without a proper name"
  | .badTag => "found a tag of an unknown form"
  | .badBlockHeader => "found a block scalar with an unknown header"
  | .badEscape => "found an unknown escape in a quoted scalar"
  | .openQuote => "found the end of the stream in a quoted scalar"
  | .documentInQuote => "found a document separator in a quoted scalar"
  | .unexpectedToken => "found a token that is not expected here"
  | .undefinedHandle => "found an undefined tag handle"
  | .repeatedDirective => "found a repeated directive"
  | .incompatibleVersion => "found an incompatible document, version 1 is required"
  | .undefinedAlias => "found an undefined alias"
  | .repeatedAnchor => "found a repeated anchor"
  | .secondDocument => "expected a single document in the stream"
  | .unknownTag => "could not determine a constructor for a tag"
  | .wrongKind => "found a node of another kind than its tag asks for"
  | .compoundKey => "found a key that is a collection"
  | .notMergeable => "expected a mapping or a list of mappings for merging"
  | .notPairs => "expected a list of mappings of a single pair"
  | .badBinary => "found bytes of an unknown form"
  | .unprepared _ => "found a scalar that its tag does not fit"

end ApiOutline.Yaml
