import ApiOutline.Proofs.Operation.Frame
import ApiOutline.Proofs.Outline.Payloads

/-! Outlines of a document and of one that has more paths after the same ones. Operations under the
old paths are the same in both, so the longer visit goes on where the shorter one ends, and names
that were given stay as they are. -/
namespace ApiOutline

open ApiOutline.Tree (entriesAreLocal isLocal_hereditary)

namespace Catalog

variable {c c' c'' : Catalog} {t : Tree} {hints : Option Hints}
  {answer : Except Failure (Option Definition)}

/-- A catalog that has all that an earlier one has, in the same places, and maybe more after it. -/
structure Grows (c c' : Catalog) : Prop where
  definitions : c.definitions <+: c'.definitions
  used : c.names.used <+: c'.names.used
  origins : c.names.origins <+: c'.names.origins

theorem Grows.refl (c : Catalog) : c.Grows c := ⟨List.prefix_rfl, List.prefix_rfl, List.prefix_rfl⟩

theorem Grows.trans (first : c.Grows c') (next : c'.Grows c'') : c.Grows c'' where
  definitions := first.definitions.trans next.definitions
  used := first.used.trans next.used
  origins := first.origins.trans next.origins

theorem Outcome.grows [Machine] (outcome : Outcome c t hints answer c') (named : c.Named) :
    c.Grows c' := by
  cases outcome with
  | @created raw _ proposed _ =>
    have free := Registry.isUsed_of_proposal proposed
    refine ⟨List.prefix_append _ _, ?_, ?_⟩
    · rw [extended, named.coupled.register_eq free]
      exact List.prefix_append _ _
    · rw [extended, named.coupled.register_eq free]
      exact List.prefix_append _ _
  | _ => exact .refl c

end Catalog

/-- A document that is like another one but for more paths after its own. -/
structure Object.AppendsPaths (document' document : Object) : Prop where
  rest : ∀ key : Scalar, key.identity ≠ .text "paths" →
    Object.get? document' key = Object.get? document key
  paths : ∃ paths more, Object.inner document "paths" = .ok paths ∧
    Object.inner document' "paths" = .ok (paths ++ more)

theorem Object.get?_append_of_mem {o : Object} {e : Scalar × Tree} (member : e ∈ o)
    (more : Object) : Object.get? (o ++ more) e.1 = Object.get? o e.1 := by
  have hit : (o.find? (·.1.identity == e.1.identity)).isSome = true :=
    List.find?_isSome.mpr ⟨e, member, BEq.rfl⟩
  obtain ⟨f, found⟩ := Option.isSome_iff_exists.mp hit
  rw [Object.get?, Object.get?, List.find?_append, found, Option.some_or]

namespace Declared

variable {document document' : Object} {v : Declared}

def within (document : Object) (v : Declared) : Declared :=
  { v with site := { v.site with document } }

theorem ofEntry_within (path : Scalar) (entry : Scalar × Tree) :
    ofEntry document' path entry = (ofEntry document path entry).map (within document') := by
  unfold ofEntry
  split <;> rfl

variable [Machine]

theorem ofPath_within {entry : Scalar × Tree}
    (same : Reference.resolve (.object document') entry.2 =
      Reference.resolve (.object document) entry.2) :
    ofPath document' entry = (ofPath document entry).map (within document') := by
  unfold ofPath
  rw [same]
  split
  · rename_i methods _ _
    rw [List.map_flatMap]
    exact congrArg methods.flatMap (funext fun e => ofEntry_within entry.1 e)
  · rfl

theorem ofDocument_within (appends : document'.AppendsPaths document)
    (whole : entriesAreLocal document = true) :
    ∃ later, ofDocument document' = (ofDocument document).map (within document') ++ later := by
  obtain ⟨paths, more, found, found'⟩ := appends.paths
  refine ⟨more.flatMap (ofPath document'), ?_⟩
  have inside := isLocal_hereditary.inner whole found
  have components := appends.rest (.text "components") (by decide)
  rw [ofDocument, ofDocument, found, found']
  dsimp only
  rw [List.flatMap_append, List.map_flatMap]
  congr 1
  refine List.flatMap_congr fun entry he => ofPath_within ?_
  exact Reference.resolve_congr components whole (isLocal_hereditary.entry inside he)

theorem agrees_within (appends : document'.AppendsPaths document)
    (whole : entriesAreLocal document = true) (member : v ∈ ofDocument document) :
    (v.within document').site.Agrees v.site := by
  obtain ⟨rfl, paths, found, entry, inside, path⟩ := site_of_mem member
  obtain ⟨_, more, found_old, found'⟩ := appends.paths
  cases found.symm.trans found_old
  have components := appends.rest (.text "components") (by decide)
  have requirements := appends.rest (.text "security") (by decide)
  refine ⟨whole, rfl, rfl, ?_, components, requirements⟩
  have same_entry : Object.get? (paths ++ more) v.site.path = Object.get? paths v.site.path := by
    rw [path, Object.get?_append_of_mem inside]
  -- the two sites read different paths, but find one entry there
  have paths_local := isLocal_hereditary.inner whole found
  rw [Site.item, Site.item, within, found', found]
  show (Reference.resolve _ _ >>= _) = (Reference.resolve _ _ >>= _)
  rw [same_entry]
  refine Except.bind_congr ?_ fun _ _ => rfl
  exact Reference.resolve_congr components whole (isLocal_hereditary.getD paths_local v.site.path)

end Declared

namespace Outline

open Catalog (Outcome Grows)

variable {document document' : Object} {options : Options} {p p' : Progress} {v : Declared}

section

variable [Machine]

theorem visit_within (appends : document'.AppendsPaths document)
    (whole : entriesAreLocal document = true) (member : v ∈ Declared.ofDocument document) :
    (v.within document').visit options p = v.visit options p := by
  have agrees := Declared.agrees_within appends whole member
  have added (p : Progress) (o : Operation) :
      p.add (v.within document').site o = p.add v.site o := by
    rw [Progress.add, Operation.quoted_congr agrees, Progress.add]
  unfold Declared.visit
  rw [Operation.ofSite_congr agrees]
  simp only [added]
  rfl

/-- The visit of the longer document goes on where that of the shorter one ends. -/
theorem visit_of_appendsPaths (appends : document'.AppendsPaths document)
    (whole : entriesAreLocal document = true)
    (run : (visit Catalog.assign document options).result = .ok p)
    (run' : (visit Catalog.assign document' options).result = .ok p') :
    ∃ later : List Declared, (later.foldlM (Declared.visit options) p).result = .ok p' := by
  obtain ⟨later, declared⟩ := Declared.ofDocument_within appends whole
  refine ⟨later, ?_⟩
  rw [visit_eq run', declared, List.foldlM_append, List.foldlM_map] at run'
  rw [visit_eq run] at run
  have same := Logged.foldlM_congr_of_ok
    (g := fun p v => (v.within document').visit options p)
    (fun v member _ _ _ => (visit_within appends whole member).symm) run
  -- a run over the operations in the longer document is one over those in the shorter one
  rw [← same] at run'
  obtain ⟨middle, first, rest⟩ := Logged.bind_eq_ok.mp run'
  cases run.symm.trans first
  exact rest

theorem grows_of_visit (named : p.catalog.Named) (run : (v.visit options p).result = .ok p') :
    p'.catalog.Named ∧ p.catalog.Grows p'.catalog := by
  obtain ⟨⟨built, c'⟩, found, rest⟩ := Logged.bind_eq_ok.mp run
  obtain ⟨_, _, middle, _, _, _, _, for_request, for_response, _⟩ :=
    Operation.outcome_of_ofSite found
  have named_middle := named.outcome for_request
  have same : p'.catalog = c' := by
    cases built with
    | none =>
      cases rest
      rfl
    | some o => rw [eq_of_add rest]
  rw [same]
  exact ⟨named_middle.outcome for_response,
    (for_request.grows named).trans (for_response.grows named_middle)⟩

theorem grows_of_foldlM {later : List Declared} (named : p.catalog.Named)
    (run : (later.foldlM (Declared.visit options) p).result = .ok p') :
    p.catalog.Grows p'.catalog := by
  have kept := Logged.foldlM_trace
    (P := fun _ _ q => q.catalog.Named ∧ p.catalog.Grows q.catalog) ⟨named, .refl p.catalog⟩
    (fun _ _ _ _ _ _ _ before step =>
      (grows_of_visit before.1 (congrArg Logged.result step)).imp_right before.2.trans)
    (Logged.eq_mk_of_result run)
  exact kept.2

/-- More paths at the end of a document, all of whose references lead into its components, add
definitions and names after those that are there, and change none of them. -/
theorem names_stable_under_appending (document document' : Object) (options : Options)
    (o o' : Outline) (whole : entriesAreLocal document = true)
    (appends : document'.AppendsPaths document)
    (succeeds : (ofDocument document options).result = .ok o)
    (succeeds' : (ofDocument document' options).result = .ok o') :
    o.catalog.definitions <+: o'.catalog.definitions ∧
    o.catalog.names.used ⊆ o'.catalog.names.used ∧
    ∀ name raw, Entries.get? name o.catalog.names.origins = some raw →
      Entries.get? name o'.catalog.names.origins = some raw := by
  obtain ⟨p, visited, catalog, _⟩ := mem_operations succeeds
  obtain ⟨p', visited', catalog', _⟩ := mem_operations succeeds'
  obtain ⟨later, rest⟩ := visit_of_appendsPaths appends whole visited visited'
  have grows := grows_of_foldlM (follows_of_visit visited).named rest
  rw [catalog, catalog']
  refine ⟨grows.definitions, grows.used.subset, fun name raw found => ?_⟩
  exact Entries.get?_of_prefix grows.origins found

end

def aviary (more : Object) : Object :=
  [(.text "paths", .object ((.text "/birds", .record [("get", .record [
      ("responses", answer (.record [("$ref", .text "#/components/schemas/Bird")]))])]) :: more)),
   (.text "components", .record [("schemas", .record [("Bird", .record [
      ("$ref", .text "#/components/schemas/Animal")]),
      ("Animal", .record [("type", .text "object")])])])]

def nests : Object :=
  [(.text "/nests", .record [("get", .record [
      ("responses", answer (.record [("title", .text "Bird")]))])])]

theorem aviary_appends (more : Object) : (aviary more).AppendsPaths (aviary []) where
  rest key other := by
    have first : ((Scalar.text "paths").identity == key.identity) = false :=
      beq_eq_false_iff_ne.mpr fun same => other same.symm
    simp only [aviary, Object.get?, List.find?_cons, first]
  paths := ⟨_, more, rfl, rfl⟩

theorem aviary_names : ∃ o o', (ofDocument (aviary []) Options.usual).result = .ok o ∧
    (ofDocument (aviary nests) Options.usual).result = .ok o' ∧
    entriesAreLocal (aviary []) = true ∧ (aviary nests).AppendsPaths (aviary []) ∧
    o.catalog.names.used = ["Bird"] ∧ o'.catalog.names.used = ["Bird", "Nests"] ∧
    o.catalog.definitions <+: o'.catalog.definitions := by
  obtain ⟨o, succeeds, names⟩ := Except.exists_of_any
    (x := (ofDocument (aviary []) Options.usual).result)
    (p := fun o => o.catalog.names.used == ["Bird"]) (by decide +kernel)
  obtain ⟨o', succeeds', names'⟩ := Except.exists_of_any
    (x := (ofDocument (aviary nests) Options.usual).result)
    (p := fun o => o.catalog.names.used == ["Bird", "Nests"]) (by decide +kernel)
  have inside : entriesAreLocal (aviary []) = true := by decide +kernel
  have stable := names_stable_under_appending (aviary []) (aviary nests) Options.usual o o' inside
    (aviary_appends nests) succeeds succeeds'
  exact ⟨o, o', succeeds, succeeds', inside, aviary_appends nests, eq_of_beq names,
    eq_of_beq names', stable.1⟩

end Outline

end ApiOutline
