import ApiOutline.Scalar
import ApiOutline.Entries

/-!
Documents: scalars, pairs, sets, lists, and objects whose entries keep their order. Keys of an
object and members of a set may be any scalar; readers never give two of them one identity.

A list or an object may contain itself. Such a collection is unrolled to a finite depth, which is
more than any walk through the document can tell, and every copy of it carries the same number.
-/
namespace ApiOutline

inductive Tree where
  | scalar (s : Scalar)
  | pair (first second : Tree)
  | set (members : List Scalar)
  | list (items : List Tree) (loop : Option Nat := none)
  | object (entries : List (Scalar × Tree)) (loop : Option Nat := none)
  deriving Inhabited, Repr

abbrev Object := List (Scalar × Tree)

namespace Object

def get? (o : Object) (k : Scalar) : Option Tree :=
  (o.find? (·.1.identity == k.identity)).map (·.2)

/-- The value of a text key; null if there is none. -/
def field (o : Object) (name : String) : Tree := (o.get? (.text name)).getD (.scalar .null)

def has (o : Object) (name : String) : Bool := (o.get? (.text name)).isSome

def insert (o : Object) (k : Scalar) (v : Tree) : Object :=
  Entries.upsert (·.identity == k.identity) k v o

def ofEntries (es : List (Scalar × Tree)) : Object :=
  es.foldl (fun o e => o.insert e.1 e.2) []

end Object

namespace Tree

def null : Tree := .scalar .null
def bool (b : Bool) : Tree := .scalar (.bool b)
def text (s : String) : Tree := .scalar (.text s)

def textOrNull (s : Option String) : Tree := (s.map text).getD null

def textList (ss : List String) : Tree := .list (ss.map text)

def record (fields : List (String × Tree)) : Tree := .object (fields.map fun (k, v) => (.text k, v))

def isNull : Tree → Bool
  | .scalar .null => true
  | _ => false

def isTrue : Tree → Bool
  | .scalar (.bool b) => b
  | _ => false

def text? : Tree → Option String
  | .scalar (.text s) => some s
  | _ => none

def list? : Tree → Option (List Tree)
  | .list items _ => some items
  | _ => none

def object? : Tree → Option Object
  | .object o _ => some o
  | _ => none

/-- Values that stand for one that is not there: void scalars and empty collections. -/
def isVoid : Tree → Bool
  | .scalar s => s.isVoid
  | .pair _ _ => false
  | .set members => members.isEmpty
  | .list items _ => items.isEmpty
  | .object entries _ => entries.isEmpty

def entriesOrNone (t : Tree) : Object := t.object?.getD []

/-- The value of a text key; null where there is no such key or no object. -/
def field (t : Tree) (name : String) : Tree := Object.field t.entriesOrNone name

def kindWord : Tree → String
  | .scalar .null => "NoneType"
  | .scalar (.bool _) => "bool"
  | .scalar (.int _) => "int"
  | .scalar (.float _) => "float"
  | .scalar (.text _) => "str"
  | .scalar (.date _) => "date"
  | .scalar (.moment _) => "datetime"
  | .scalar (.bytes _) => "bytes"
  | .pair _ _ => "tuple"
  | .set _ => "set"
  | .list _ _ => "list"
  | .object _ _ => "dict"

end Tree

end ApiOutline
