import ApiOutline.Number.Binary64
import ApiOutline.Calendar

/-!
The values of a document that hold no other values: null, truth values, numbers, texts, days,
moments and rows of bytes. Equality of the type tells `1`, `1.0` and `true` apart; as keys of an
object they are one and the same, which `identity` says.
-/
namespace ApiOutline

open Number Calendar

inductive Scalar where
  | null
  | bool (b : Bool)
  | int (i : Int)
  | float (f : Binary64)
  | text (s : String)
  | date (d : Date)
  | moment (m : Moment)
  | bytes (bs : List UInt8)
  deriving DecidableEq, Repr, Inhabited

/-- What an object tells keys apart by. Truth values count as the numbers one and zero, numbers by
their exact value, what is not a number by its origin, moments with an offset by their instant. -/
inductive Identity where
  | null
  | number (m : Magnitude)
  | notANumber (origin : Nat)
  | text (s : String)
  | date (d : Date)
  | local (m : Moment)
  | instant (microseconds : Int)
  | bytes (bs : List UInt8)
  deriving DecidableEq, Repr

namespace Scalar

def identity : Scalar → Identity
  | .null => .null
  | .bool b => .number (.exact (if b then 1 else 0))
  | .int i => .number (.exact i)
  | .float f => (f.magnitude?.map .number).getD (.notANumber f.origin)
  | .text s => .text s
  | .date d => .date d
  | .moment m => (m.instant?.map .instant).getD (.local m)
  | .bytes bs => .bytes bs

/-- Null, false, zero, the empty text and no bytes, which stand for a value that is not there. -/
def isVoid : Scalar → Bool
  | .null => true
  | .bool b => !b
  | .int i => i == 0
  | .float (.finite _ m _) => m == 0
  | .text s => s.isEmpty
  | .bytes bs => bs.isEmpty
  | _ => false

/-- Equality of values: a truth value equals only itself, numbers are compared exactly whichever
way they are stored, and all else equals only its own kind. -/
def same : Scalar → Scalar → Bool
  | .bool a, .bool b => a == b
  | .int a, .int b => a == b
  | .int a, .float g => g.magnitude? == some (.exact a)
  | .float f, .int b => f.magnitude? == some (.exact b)
  | .float f, .float g => f.magnitude?.isSome && f.magnitude? == g.magnitude?
  | .null, .null => true
  | .text a, .text b => a == b
  | .date a, .date b => a == b
  | .bytes a, .bytes b => a == b
  | .moment a, .moment b => (Scalar.moment a).identity == (Scalar.moment b).identity
  | _, _ => false

end Scalar

end ApiOutline
