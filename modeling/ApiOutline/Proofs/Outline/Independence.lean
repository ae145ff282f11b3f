import ApiOutline.Proofs.Outline.Protocols

/-! What the options of a run have to do with its outline. Two successful runs over one document
visit the same operations. They keep the same catalog between them, and operations that differ at
most in the keys of schemes that they ask for and in their sub-operations. -/
namespace ApiOutline

variable {options options' : Options}

namespace Operation

/-- An operation without the fields that depend on options. -/
def bare (o : Operation) : Operation := { o with security := [], subOperations := none }

variable {s : Site} {method : Method} {endpoint : Object} {c c₁ c₂ : Catalog} {o : Operation}

variable [Machine]

theorem Reads.bare_eq {o' : Operation} (reads : Reads options s method endpoint o)
    (reads' : Reads options' s method endpoint o') (request : o.request = o'.request)
    (required : o.requestRequired = o'.requestRequired) (response : o.response = o'.response) :
    o.bare = o'.bare := by
  have id := Except.ok.inj (reads.id.symm.trans reads'.id)
  have path := Except.ok.inj (reads.path.symm.trans reads'.path)
  have parameters := Except.ok.inj (reads.parameters.symm.trans reads'.parameters)
  have links := Except.ok.inj (reads.links.symm.trans reads'.links)
  have same_method := reads.method.trans reads'.method.symm
  have description := reads.description.trans reads'.description.symm
  obtain ⟨⟨_, _, _⟩, _, _, _, _, _, _, _, _⟩ := o
  obtain ⟨⟨_, _, _⟩, _, _, _, _, _, _, _, _⟩ := o'
  dsimp only at *
  subst id path same_method description request required response parameters links
  rfl

theorem ofSite_bare {built built' : Option Operation}
    (run : (ofSite Catalog.assign options s method endpoint c).result = .ok (built, c₁))
    (run' : (ofSite Catalog.assign options' s method endpoint c).result = .ok (built', c₂)) :
    c₁ = c₂ ∧ built.map bare = built'.map bare := by
  obtain ⟨_, request, required, middle, _, response, asked, answered, _, ending⟩ :=
    ofSite_eq_mk (Logged.eq_mk_of_result run)
  obtain ⟨_, request', required', middle', _, response', asked', answered', _, ending'⟩ :=
    ofSite_eq_mk (Logged.eq_mk_of_result run')
  -- the payloads do not depend on options, so both runs assign the same definitions
  cases asked.symm.trans asked'
  cases answered.symm.trans answered'
  refine ⟨rfl, ?_⟩
  rcases ending with ⟨rfl, rfl⟩ | ⟨o, rfl, reads, request_eq, required_eq, rfl⟩
  · rcases ending' with ⟨rfl, _⟩ | ⟨_, _, _, _, _, given⟩
    · rfl
    · cases given
  · rcases ending' with ⟨_, nothing⟩ | ⟨o', rfl, reads', request_eq', required_eq', given⟩
    · cases nothing
    · have same := reads.bare_eq reads' (request_eq.trans request_eq'.symm)
        (required_eq.trans required_eq'.symm) (Option.some.inj given)
      rw [Option.map_some, Option.map_some, same]

structure Fits (options : Options) (o : Operation) : Prop where
  security : options.viewer = false → o.security = []
  subOperations : o.subOperations = none

theorem Reads.fits (reads : Reads options s method endpoint o) : o.Fits options where
  security off := by
    obtain ⟨keys, read, taken⟩ := reads.security
    rw [off] at read
    cases read
    exact (Except.ok.inj taken).symm
  subOperations := reads.subOperations

end Operation

namespace Outline

open Entries (mapValues)

variable {document : Object} {p p' q q' : Progress} {v : Declared}

structure Agree (p q : Progress) : Prop where
  catalog : p.catalog = q.catalog
  operations : mapValues Operation.bare p.operations = mapValues Operation.bare q.operations

theorem Agree.add {o o' : Operation} {c : Catalog} (agree : Agree p q) (same : o.bare = o'.bare) :
    Agree ⟨c, Entries.insert o.id o p.operations⟩ ⟨c, Entries.insert o'.id o' q.operations⟩ where
  catalog := rfl
  operations := by
    have id : o.id = o'.id := congrArg (·.id) same
    rw [Entries.mapValues_insert, Entries.mapValues_insert, agree.operations, same, id]

section

variable [Machine]

theorem Agree.visit (agree : Agree p q) (run : (v.visit options p).result = .ok p')
    (run' : (v.visit options' q).result = .ok q') : Agree p' q' := by
  obtain ⟨⟨built, c⟩, found, rest⟩ := Logged.bind_eq_ok.mp run
  obtain ⟨⟨built', c'⟩, found', rest'⟩ := Logged.bind_eq_ok.mp run'
  rw [agree.catalog] at found
  obtain ⟨rfl, same⟩ := Operation.ofSite_bare found found'
  cases built with
  | none =>
    cases Option.map_eq_none_iff.mp same.symm
    cases rest
    cases rest'
    exact ⟨rfl, agree.operations⟩
  | some o =>
    obtain ⟨o', rfl, same_bare⟩ := Option.map_eq_some_iff.mp same.symm
    rw [eq_of_add rest, eq_of_add rest']
    exact agree.add same_bare.symm

theorem agree_of_visit (run : (visit Catalog.assign document options).result = .ok p)
    (run' : (visit Catalog.assign document options').result = .ok q) : Agree p q := by
  rw [visit_eq run] at run
  rw [visit_eq run'] at run'
  refine Logged.foldlM_pair ⟨rfl, rfl⟩ ?_ run run'
  intro p q v p' q' agree step step'
  exact agree.visit step step'

theorem fits_of_visit (run : (visit Catalog.assign document options).result = .ok p) :
    ∀ e ∈ p.operations, e.2.Fits options := by
  have whole := Logged.eq_mk_of_result run
  rw [visit_eq run] at whole
  refine Logged.foldlM_trace (P := fun _ _ p => ∀ e ∈ p.operations, e.2.Fits options)
    (fun _ he => absurd he List.not_mem_nil) ?_ whole
  intro _ _ p v after p' _ fits step
  obtain ⟨⟨built, c⟩, found, rest⟩ := Logged.bind_eq_ok.mp (congrArg Logged.result step)
  obtain ⟨_, _, _, _, _, _, _, _, _, ending⟩ :=
    Operation.ofSite_eq_mk (Logged.eq_mk_of_result found)
  rcases ending with ⟨rfl, _⟩ | ⟨o, rfl, reads, _⟩
  · cases rest
    exact fits
  · rw [eq_of_add rest]
    intro e he
    rcases Entries.mem_of_mem_insert he with rfl | old
    · exact reads.fits
    · exact fits e old

omit [Machine] in
theorem mapValues_bare_nest (operations : List (String × Operation)) :
    mapValues Operation.bare (nest operations) = mapValues Operation.bare operations := by
  unfold nest mapValues
  rw [List.map_map]
  rfl

theorem options_of_mem {o : Outline} (succeeds : (ofDocument document options).result = .ok o) :
    ∀ e ∈ o.operations, (options.viewer = false → e.2.security = []) ∧
      e.2.subOperations.isSome = options.addSubOperations := by
  obtain ⟨_, p, _, _, _, visited, _, _, _, _, operations⟩ :=
    ofDocument_eq_mk (Logged.eq_mk_of_result succeeds)
  have fits := fits_of_visit (congrArg Logged.result visited)
  rw [operations]
  intro e he
  cases nested : options.addSubOperations with
  | true =>
    rw [nested] at he
    obtain ⟨found, member, rfl⟩ := List.mem_map.mp he
    exact ⟨(fits found member).security, rfl⟩
  | false =>
    rw [nested] at he
    have fit := fits e he
    exact ⟨fit.security, by rw [fit.subOperations]; rfl⟩

/-- Options do not leak into an outline. Runs that succeed have the same definitions, names and
security schemes and the same ids in the same order, and their operations differ at most in the two
fields that options are about. -/
theorem outline_independent_of_options (document : Object) (options options' : Options)
    (o o' : Outline) (succeeds : (ofDocument document options).result = .ok o)
    (succeeds' : (ofDocument document options').result = .ok o') :
    o.catalog = o'.catalog ∧ o.security = o'.security ∧
    Entries.keys o.operations = Entries.keys o'.operations ∧
    mapValues Operation.bare o.operations = mapValues Operation.bare o'.operations ∧
    ∀ e ∈ o.operations, (options.viewer = false → e.2.security = []) ∧
      e.2.subOperations.isSome = options.addSubOperations := by
  obtain ⟨_, p, declared, _, _, visited, declares, normalized, _, catalog, operations⟩ :=
    ofDocument_eq_mk (Logged.eq_mk_of_result succeeds)
  obtain ⟨_, q, declared', _, _, visited', declares', normalized', _, catalog', operations'⟩ :=
    ofDocument_eq_mk (Logged.eq_mk_of_result succeeds')
  cases declares.symm.trans declares'
  have agree := agree_of_visit (congrArg Logged.result visited) (congrArg Logged.result visited')
  have blank (on : Bool) (es : List (String × Operation)) :
      mapValues Operation.bare (if on then nest es else es) = mapValues Operation.bare es := by
    split
    · exact mapValues_bare_nest es
    · rfl
  have same : mapValues Operation.bare o.operations = mapValues Operation.bare o'.operations := by
    rw [operations, operations', blank, blank, agree.operations]
  refine ⟨?_, ?_, ?_, same, options_of_mem succeeds⟩
  · rw [catalog, catalog', agree.catalog]
  · rw [(Security.normalization_of_normalize normalized).schemes,
      (Security.normalization_of_normalize normalized').schemes]
  · have keys := congrArg Entries.keys same
    rwa [Entries.keys_mapValues, Entries.keys_mapValues] at keys

end

def plain : Options := ⟨true, false, false, [(.text "colour", .bool true)]⟩

theorem vault_plain : ∃ o o', (ofDocument vault Options.usual).result = .ok o ∧
    (ofDocument vault plain).result = .ok o' ∧
    o.operations.map (·.2.security) = [["door_key", "pass-word", "badge"]] ∧
    o'.operations.map (·.2.security) = [[]] ∧ o.catalog = o'.catalog ∧
    mapValues Operation.bare o.operations = mapValues Operation.bare o'.operations := by
  obtain ⟨o, succeeds, asked⟩ := Except.exists_of_any
    (x := (ofDocument vault Options.usual).result)
    (p := fun o => o.operations.map (·.2.security) == [["door_key", "pass-word", "badge"]])
    (by decide +kernel)
  obtain ⟨o', succeeds', asked'⟩ := Except.exists_of_any (x := (ofDocument vault plain).result)
    (p := fun o => o.operations.map (·.2.security) == [[]]) (by decide +kernel)
  have independent :=
    outline_independent_of_options vault Options.usual plain o o' succeeds succeeds'
  exact ⟨o, o', succeeds, succeeds', eq_of_beq asked, eq_of_beq asked', independent.1,
    independent.2.2.2.1⟩

end Outline

end ApiOutline
