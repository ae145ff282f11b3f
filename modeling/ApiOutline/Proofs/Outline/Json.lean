import ApiOutline.Proofs.Outline.Components
import ApiOutline.Proofs.Outline.Summary
import ApiOutline.Proofs.Tree.Json

/-! What of a summary plain JSON can hold. Parameters, links and options are shown in their portable
form, but the schemas of definitions as the document has them, so these decide about the whole. -/
namespace ApiOutline

theorem Parameter.isJson_of_summary [Machine] {p : Parameter} {t : Tree}
    (shown : p.summary = .ok t) : t.isJson = true := by
  obtain ⟨schema, portable, shown⟩ := Except.bind_eq_ok.mp shown
  cases shown
  simp [Tree.isJson_of_portable portable]

theorem Link.isJson_of_summary [Machine] {l : Link} {t : Tree} (shown : l.summary = .ok t) :
    t.isJson = true := by
  obtain ⟨parameters, portable, shown⟩ := Except.bind_eq_ok.mp shown
  obtain ⟨body, portable', shown⟩ := Except.bind_eq_ok.mp shown
  cases shown
  simp [Tree.isJson_of_portable portable, Tree.isJson_of_portable portable']

theorem Operation.isJson_of_summary [Machine] {o : Operation} {t : Tree}
    (shown : o.summary = .ok t) : t.isJson = true := by
  obtain ⟨parameters, all, shown⟩ := Except.bind_eq_ok.mp shown
  obtain ⟨links, all', shown⟩ := Except.bind_eq_ok.mp shown
  cases shown
  have each : ∀ u ∈ parameters, u.isJson = true := fun u hu =>
    let ⟨_, _, found⟩ := Except.exists_of_mem_mapM all hu
    Parameter.isJson_of_summary found
  have each' : ∀ u ∈ links, u.isJson = true := fun u hu =>
    let ⟨_, _, found⟩ := Except.exists_of_mem_mapM all' hu
    Link.isJson_of_summary found
  have below : ((o.subOperations.map Tree.textList).getD .null).isJson = true := by
    cases o.subOperations <;> simp
  simpa [below] using ⟨each, each'⟩

theorem Security.Scheme.isJson_summary (s : Security.Scheme) : s.summary.isJson = true := by
  simp [Security.Scheme.summary, Tree.isJson_record_mapValues Tree.isJson_text]

theorem Definition.isJson_summary (d : Definition) : d.summary.isJson = d.schema.isJson := by
  rw [Bool.eq_iff_iff]
  simp [Definition.summary]

namespace Outline

variable {document : Object} {options : Options} {o : Outline} {t : Tree}

section

variable [Machine]

theorem isJson_summary_iff (shown : o.summary = .ok t) :
    t.isJson = true ↔ ∀ d ∈ o.catalog.definitions, d.schema.isJson = true := by
  obtain ⟨operations, all, shown⟩ := Except.bind_eq_ok.mp shown
  obtain ⟨options, portable, shown⟩ := Except.bind_eq_ok.mp shown
  cases shown
  have entries : (Tree.record operations).isJson = true := by
    rw [Tree.isJson_record]
    intro f hf
    obtain ⟨_, _, found⟩ := Except.exists_of_mem_mapM all hf
    obtain ⟨u, made, same⟩ := Except.bind_eq_ok.mp found
    cases same
    exact Operation.isJson_of_summary made
  have schemes := Tree.isJson_record_mapValues Security.Scheme.isJson_summary o.security
  have origins := Tree.isJson_record_mapValues Tree.isJson_text o.catalog.names.origins
  rw [Tree.isJson_record]
  simp only [List.mem_cons, List.not_mem_nil, or_false, forall_eq_or_imp, forall_eq, entries,
    schemes, origins, Tree.isJson_of_portable portable, and_true, Tree.isJson_list,
    List.forall_mem_map, Definition.isJson_summary]

theorem schema_of_hereditary {P : Tree → Prop} (inherits : Tree.Hereditary P)
    (whole : P (.object document)) (succeeds : (ofDocument document options).result = .ok o) :
    ∀ d ∈ o.catalog.definitions, P d.schema := by
  obtain ⟨p, visited, catalog, _, _⟩ := mem_operations succeeds
  intro d hd
  have kept : d.schema ∈ p.catalog.schemas := catalog ▸ List.mem_map_of_mem hd
  rw [(follows_of_visit visited).schemas] at kept
  obtain ⟨v, hv, member⟩ := List.mem_flatMap.mp (Tree.distinct_subset _ kept)
  refine inherits.payload ?_ member
  rw [Site.root, (Declared.site_of_mem hv).1]
  exact whole

/-- An outline has a summary that plain JSON can hold if and only if its parameters, links and
options have a portable form and all schemas of its definitions are values of JSON. Only the schemas
can keep a summary from being one. They are parts of the document, so this never happens if the
document itself is a value of JSON. -/
theorem summary_isJson_iff (document : Object) (options : Options) (o : Outline)
    (succeeds : (ofDocument document options).result = .ok o) :
    ((∃ t, o.summary = .ok t ∧ t.isJson = true) ↔
      (∀ e ∈ o.operations, e.2.IsPortable) ∧ (∃ t, o.options.summary = .ok t) ∧
        ∀ d ∈ o.catalog.definitions, d.schema.isJson = true) ∧
    (∀ t, o.summary = .ok t →
      (t.isJson = true ↔ ∀ d ∈ o.catalog.definitions, d.schema.isJson = true)) ∧
    ((Tree.object document).isJson = true → ∀ t, o.summary = .ok t → t.isJson = true) := by
  refine ⟨?_, fun t => isJson_summary_iff, fun whole t shown => ?_⟩
  · rw [← and_assoc, ← exists_summary]
    constructor
    · rintro ⟨t, shown, json⟩
      exact ⟨⟨t, shown⟩, (isJson_summary_iff shown).mp json⟩
    · rintro ⟨⟨t, shown⟩, schemas⟩
      exact ⟨t, shown, (isJson_summary_iff shown).mpr schemas⟩
  · exact (isJson_summary_iff shown).mpr
      (schema_of_hereditary Tree.isJson_hereditary whole succeeds)

end

theorem flock_isJson : ∃ o t,
    (ofDocument (Position.flock (.int 7)) Options.usual).result = .ok o ∧ o.summary = .ok t ∧
    (Tree.object (Position.flock (.int 7))).isJson = true ∧ t.isJson = true := by
  obtain ⟨o, succeeds, has_summary⟩ := Except.exists_of_any
    (x := (ofDocument (Position.flock (.int 7)) Options.usual).result)
    (p := fun o => o.summary.toOption.any fun _ => true) (by decide +kernel)
  obtain ⟨t, shown, _⟩ := Except.exists_of_any has_summary
  have whole : (Tree.object (Position.flock (.int 7))).isJson = true := by decide +kernel
  have kept := (summary_isJson_iff (Position.flock (.int 7)) Options.usual o succeeds).2.2
  exact ⟨o, t, succeeds, shown, whole, kept whole t shown⟩

set_option maxRecDepth 100000 in
/-- A number in a text of JSON may be too large to be finite. The summary of the document that is
loaded shows it in a schema as it is, and JSON cannot hold it. -/
theorem aviary_overflows : ∃ o t,
    (Source.load (Position.aviary "1e400") "-").result =
      .ok (Position.flock (.float (.infinite false))) ∧
    (ofDocument (Position.flock (.float (.infinite false))) Options.usual).result = .ok o ∧
    o.summary = .ok t ∧ t.isJson = false := by
  have loaded : (Source.load (Position.aviary "1e400") "-").result =
      .ok (Position.flock (.float (.infinite false))) :=
    Source.load_of_input String.toList_ofList (by decide +kernel) rfl
  obtain ⟨o, succeeds, found⟩ := Except.exists_of_any
    (x := (ofDocument (Position.flock (.float (.infinite false))) Options.usual).result)
    (p := fun o => o.summary.toOption.any (!·.isJson)) (by decide +kernel)
  obtain ⟨t, shown, other⟩ := Except.exists_of_any found
  exact ⟨o, t, loaded, succeeds, shown, by simpa using other⟩

end Outline

end ApiOutline
