import ApiOutline.Proofs.Operation.Declared

/-! The loops over paths and methods as one loop over the operations that a document declares. What
is no operation is passed over, so a successful run does nothing else. -/
namespace ApiOutline

def Declared.visit [Machine] (options : Options) (p : Outline.Progress) (v : Declared) :
    Logged Outline.Progress := do
  let (operation, catalog) ←
    Operation.ofSite Catalog.assign options v.site v.method v.endpoint p.catalog
  let p := { p with catalog }
  match operation with
  | some o => p.add v.site o
  | none => pure p

namespace Outline

variable {document : Object} {options : Options} {p p' : Progress}

variable [Machine]

theorem visitMethod_eq (path : Scalar) (entry : Scalar × Tree) :
    visitMethod Catalog.assign document options path p entry =
      (Declared.ofEntry document path entry).foldlM (Declared.visit options) p := by
  unfold visitMethod
  split
  · rename_i method endpoint loop is_method is_object
    rw [Declared.ofEntry_of_method is_method is_object]
    simp only [List.foldlM_cons, List.foldlM_nil, bind_pure]
    rfl
  · rename_i other
    rw [Declared.ofEntry_of_other other]
    rfl

theorem visitPath_eq {entry : Scalar × Tree}
    (run : (visitPath Catalog.assign document options p entry).result = .ok p') :
    visitPath Catalog.assign document options p entry =
      (Declared.ofPath document entry).foldlM (Declared.visit options) p := by
  obtain ⟨item, resolved, _⟩ := Logged.bind_eq_ok.mp run
  rw [Logged.result_ofExcept] at resolved
  unfold visitPath Declared.ofPath
  rw [resolved]
  show (pure item >>= _ : Logged Progress) = _
  rw [pure_bind]
  cases item with
  | object methods loop =>
    have each : visitMethod Catalog.assign document options entry.1 = fun p e =>
        (Declared.ofEntry document entry.1 e).foldlM (Declared.visit options) p := by
      funext p e
      exact visitMethod_eq entry.1 e
    rw [Logged.foldlM_flatMap, ← each]
  | _ => rfl

/-- A successful run visits the operations that its document declares, one after the other. -/
theorem visit_eq (run : (visit Catalog.assign document options).result = .ok p) :
    visit Catalog.assign document options =
      (Declared.ofDocument document).foldlM (Declared.visit options) ⟨Catalog.empty, []⟩ := by
  obtain ⟨paths, found, run⟩ := Logged.bind_eq_ok.mp run
  rw [Logged.result_ofExcept] at found
  unfold visit Declared.ofDocument
  rw [found]
  show (pure paths >>= _ : Logged Progress) = _
  rw [pure_bind, Logged.foldlM_flatMap]
  exact Logged.foldlM_congr_of_ok (fun entry _ b b' step => visitPath_eq step) run

/-- An outline is made in three parts: the visits, the security schemes, and one last note. -/
theorem ofDocument_eq_mk {o : Outline} {notes : List Note}
    (run : ofDocument document options = ⟨notes, .ok o⟩) :
    ∃ before p declared after last, visit Catalog.assign document options = ⟨before, .ok p⟩ ∧
      declaredSchemes document = .ok declared ∧
      Security.normalize options.strict declared = ⟨after, .ok o.security⟩ ∧
      notes = before ++ (after ++ [⟨.info, last⟩]) ∧ o.catalog = p.catalog ∧
      o.operations = (if options.addSubOperations then nest p.operations else p.operations) := by
  obtain ⟨before, p, _, visited, rest, rfl⟩ := Logged.bind_eq_mk.mp run
  obtain ⟨declared, found, rest⟩ := Logged.lift_bind_eq_mk.mp rest
  obtain ⟨after, security, _, normalized, noted, rfl⟩ := Logged.bind_eq_mk.mp rest
  obtain ⟨_, final, rfl⟩ := Logged.note_bind_eq_mk.mp noted
  obtain ⟨rfl, rfl⟩ := Logged.pure_eq_mk.mp final
  exact ⟨before, p, declared, after, _, visited, found, normalized, rfl, rfl, rfl⟩

end Outline

end ApiOutline
