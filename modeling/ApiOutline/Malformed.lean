/-!
Input that breaks a rule which the steps of a run rely on, so that no step is prepared for it.
-/
namespace ApiOutline

inductive Malformed where
  | compoundKey
  | notIterable
  | notAnObject
  | notText
  | bytesForText
  | unknownMethod
  | unknownFormat
  | notUtf8
  | longInteger
  | longName
  | badSize
  | badColor
  | unwritableKey
  | outOfRange
  | outOfWord
  | unknownTruthWord
  | emptyNumber
  | notATimestamp
  | cyclic
  | tooDeep
  | tagMismatch
  | unwritable
  | homeless
  | pathThroughFile
  | fileInTheWay
  | client (kind : String)
  deriving DecidableEq, Repr

def Malformed.wording : Malformed → String
  | .compoundKey => "A list or an object stands where a key is needed"
  | .notIterable => "A number or a truth value stands where several values are needed"
  | .notAnObject => "An object is needed"
  | .notText => "A text is needed"
  | .bytesForText => "Something else stands where a text is needed"
  | .unknownMethod => "There is no such method"
  | .unknownFormat => "There is no such format"
  | .notUtf8 => "The bytes of a text are not in UTF-8"
  | .longInteger => "An integer has too many digits"
  | .longName => "The name of a file is too long"
  | .badSize => "A size of the terminal is no number"
  | .badColor => "A part of a colour is no number"
  | .unwritableKey => "A key has no text"
  | .outOfRange => "A date or a number is out of range"
  | .outOfWord => "A number is too large"
  | .unknownTruthWord => "There is no such truth value"
  | .emptyNumber => "A number has no digits"
  | .notATimestamp => "A text is no date"
  | .cyclic => "A value contains itself"
  | .tooDeep => "A value is too deep"
  | .tagMismatch => "A style tag in a message does not match"
  | .unwritable => "A character cannot be written"
  | .homeless => "There is no home directory"
  | .pathThroughFile => "A path leads through a file"
  | .fileInTheWay => "A file is in the way of a directory"
  | .client kind => kind

end ApiOutline
