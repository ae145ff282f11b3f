import ApiOutline.Operation.Requirement
import ApiOutline.Proofs.Log
import ApiOutline.Proofs.Reference
import ApiOutline.Proofs.Tree.Shape

/-! The security schemes that an operation asks for. Every key that counts is one of a declared
scheme, which stands for an object and is not of OAuth 2.0. -/
namespace ApiOutline.Site

variable {s : Site} {schemes : Tree} {key : Scalar}

variable [Machine]

theorem entry_of_asksFor (counts : s.asksFor schemes key = .ok true) :
    ∃ entries loop, schemes = .object entries loop ∧ ∃ e ∈ entries, e.1.identity = key.identity ∧
      ∃ o loop, s.resolve e.2 = .ok (.object o loop) ∧
        (Object.field o "type").text? ≠ some "oauth2" := by
  obtain ⟨t, found, counts⟩ := Except.bind_eq_ok.mp counts
  split at counts
  · rename_i o loop
    have type : (Object.field o "type").text? ≠ some "oauth2" := by
      simpa using Except.ok.inj counts
    unfold scheme at found
    split at found
    · rename_i entries loop'
      cases declared : Object.get? entries key with
      | none =>
        rw [declared, Option.getD_none, resolve, Reference.resolve_of_plain rfl] at found
        cases found
      | some t =>
        obtain ⟨e, member, same_key, rfl⟩ := Object.get?_eq_some declared
        rw [declared, Option.getD_some] at found
        exact ⟨entries, loop', rfl, e, member, same_key, o, loop, found, type⟩
    · split at found <;> cases found
  · cases counts

theorem asksFor_of_security {keys : List Scalar} (run : s.security = .ok keys) :
    ∃ components, Object.inner s.document "components" = .ok components ∧
      ∀ key ∈ keys, s.asksFor (Object.field components "securitySchemes") key = .ok true := by
  obtain ⟨endpoint, _, run⟩ := Except.bind_eq_ok.mp run
  obtain ⟨components, found, run⟩ := Except.bind_eq_ok.mp run
  obtain ⟨requirements, _, run⟩ := Except.bind_eq_ok.mp run
  refine ⟨components, found, ?_⟩
  refine Except.foldlM_induction (P := fun kept => ∀ key ∈ kept, s.asksFor _ key = .ok true)
    (fun _ hk => absurd hk List.not_mem_nil) ?_ run
  intro kept key _ kept' asked step
  obtain ⟨counts, asks, step⟩ := Except.bind_eq_ok.mp step
  cases step
  split
  · rename_i new
    have yes : counts = true := (Bool.and_eq_true _ _ ▸ new).1
    intro k hk
    rcases List.mem_append.mp hk with old | added
    · exact asked k old
    · rw [List.mem_singleton.mp added, asks, yes]
  · exact asked

end ApiOutline.Site
