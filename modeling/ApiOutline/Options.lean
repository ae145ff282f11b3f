import ApiOutline.Failure
import ApiOutline.Tree.Portable
import ApiOutline.Text.Case

/-!
The options of a run. Three truth values steer it; every other key is kept and passed on. One of the
three may be given under either of two spellings; if both are there the one in camel case counts,
and the other one is passed on like any other key.
-/
namespace ApiOutline

structure Options where
  addSubOperations : Bool
  viewer : Bool
  strict : Bool
  extra : Object

namespace Options

def usual : Options := ⟨false, true, false, []⟩

def trueWords : List String := ["1", "on", "t", "true", "y", "yes"]
def falseWords : List String := ["0", "off", "f", "false", "n", "no"]

/-- A truth value, the numbers one and zero, or a word for either. -/
def truth : Tree → Except Expected Bool
  | .scalar (.bool b) => .ok b
  | .scalar (.int i) =>
    if i = 0 then .ok false
    else if i = 1 then .ok true
    else if Text.fitsWord i then .error .truthWord
    else .error .truth
  | .scalar (.float f) =>
    if f.magnitude? = some (.exact 0) then .ok false
    else if f.magnitude? = some (.exact 1) then .ok true
    else .error .truth
  | .scalar (.text s) =>
    let word := Text.lowerAscii s
    if trueWords.contains word then .ok true
    else if falseWords.contains word then .ok false
    else .error .truthWord
  | _ => .error .truth

/-- A field of the options: its name, its spelling in camel case, and its value if it is not
given. -/
structure Field where
  name : String
  camel : String
  usual : Bool

def subOperationsField : Field := ⟨"add_sub_operations", "addSubOperations", usual.addSubOperations⟩
def viewerField : Field := ⟨"viewer", "viewer", usual.viewer⟩
def strictField : Field := ⟨"strict", "strict", usual.strict⟩

def Field.given? (f : Field) (o : Object) : Option String :=
  if Object.has o f.camel then some f.camel
  else if Object.has o f.name then some f.name
  else none

def Field.read (f : Field) (o : Object) : Except FieldFault Bool :=
  match f.given? o with
  | none => .ok f.usual
  | some spelling => (truth (Object.field o spelling)).mapError fun e => ⟨[.name spelling], e⟩

def fault? {α : Type} : Except FieldFault α → Option FieldFault
  | .ok _ => none
  | .error e => some e

structure Reading where
  options : Options
  given : List Field

def read : Tree → Except (List FieldFault) Reading
  | .object o _ =>
    let subOperations := subOperationsField.read o
    let viewer := viewerField.read o
    let strict := strictField.read o
    match subOperations, viewer, strict with
    | .ok a, .ok v, .ok s =>
      let fields := [subOperationsField, viewerField, strictField]
      let spellings := fields.filterMap (Field.given? · o)
      let extra := o.filter fun (k, _) => !spellings.any fun n => k == .text n
      .ok ⟨⟨a, v, s, extra⟩, fields.filter fun f => (f.given? o).isSome⟩
    | a, v, s => .error ((fault? a).toList ++ (fault? v).toList ++ (fault? s).toList)
  | _ => .error [⟨[], .record⟩]

def dump (o : Options) (spelling : Field → String) (fields : List Field) : Object :=
  let values : List (Field × Bool) :=
    [(subOperationsField, o.addSubOperations), (viewerField, o.viewer), (strictField, o.strict)]
  let shown := values.filter fun (f, _) => fields.any (·.name == f.name)
  o.extra.foldl (fun d e => Object.insert d e.1 e.2)
    (shown.map fun (f, b) => (.text (spelling f), .bool b))

def allFields : List Field := [subOperationsField, viewerField, strictField]

def byName (o : Options) : Object := o.dump Field.name allFields

def summary [Machine] (o : Options) : Except Malformed Tree :=
  (Tree.object (o.dump Field.camel allFields)).portable

def Reading.names (r : Reading) : List String :=
  let extra := r.options.extra.filterMap fun (k, _) => (Tree.scalar k).text?
  (r.given.map Field.name ++ extra).eraseDups

end Options

/-- The preferences of a user: options for every run, and a format of output. -/
structure Preferences where
  options : Options
  format : String

namespace Preferences

def usual : Preferences := ⟨Options.usual, "auto"⟩

def within (name : String) (f : FieldFault) : FieldFault :=
  { f with place := .name name :: f.place }

def readFormat : Tree → Except (List FieldFault) String
  | .object o _ =>
    match Object.get? o (.text "format") with
    | none => .ok usual.format
    | some (.scalar (.text s)) => .ok s
    | some _ => .error [⟨[.name "format"], .text⟩]
  | _ => .error [⟨[], .record⟩]

def read : Tree → Except Report Preferences
  | .object o _ =>
    let readOptions (t : Tree) := (Options.read t).map (·.options)
    let options := ((Object.get? o (.text "options")).map readOptions).getD (.ok Options.usual)
    let format := ((Object.get? o (.text "output")).map readFormat).getD (.ok usual.format)
    match options, format with
    | .ok options, .ok format => .ok ⟨options, format⟩
    | .error e, .ok _ => .error ⟨"GlobalConfig", e.map (within "options")⟩
    | .ok _, .error f => .error ⟨"GlobalConfig", f.map (within "output")⟩
    | .error e, .error f =>
      .error ⟨"GlobalConfig", e.map (within "options") ++ f.map (within "output")⟩
  | _ => .error ⟨"GlobalConfig", [⟨[], .record⟩]⟩

end Preferences

end ApiOutline
