import ApiOutline.Text.Case

/-!
Identifiers that are safe as names of a GraphQL schema, `[_A-Za-z][_0-9A-Za-z]*`. The words of a
text, its runs of ASCII letters and digits, are joined; the first letter of each word is raised,
except where a word starts the text.
-/
namespace ApiOutline.Identifier

/-- The letters and digits of a text. The flag says whether something was left out just before. -/
def joinWords (raise : Bool) : List Char → List Char
  | [] => []
  | c :: cs =>
    if c.isAlphanum then (if raise then c.toUpper else c) :: joinWords false cs
    else joinWords true cs

/-- A leading underscore keeps a name from being empty or from starting with a digit. -/
def guarded : List Char → List Char
  | [] => ['_']
  | c :: cs => if c.isDigit then '_' :: c :: cs else c :: cs

def sanitize (s : String) : String := String.ofList (guarded (joinWords false s.toList))

def capitalized : List Char → List Char
  | [] => []
  | c :: cs => Text.upper c ++ cs

/-- The name that a path suggests: its segments without parameters, capitalized and joined. -/
def ofPath (path : String) : String :=
  let segments := (path.toList.splitOn '/').filter fun s => !s.contains '{'
  match segments.flatMap capitalized with
  | [] => "Root"
  | cs => String.ofList cs

end ApiOutline.Identifier
