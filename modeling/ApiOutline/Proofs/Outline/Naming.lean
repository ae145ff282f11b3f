import ApiOutline.Proofs.Outline.Failures
import ApiOutline.Proofs.Security

/-! Why no run lacks a name for a definition. Whatever has a schema has the path of its operation
for a name at least, so only schemas with hints are given definitions. A run would be the same if
definitions were given in another way to schemas without any. -/
namespace ApiOutline

open ApiOutline.Except (BlamesDocument blames_lift blames_ok blames_error)

/-! ### Failures of a run -/

/-- What a run can fail with: something about its document, or a scheme that it refuses. -/
inductive Failure.IsOfRun : Failure → Prop where
  | document {f : Failure} : f.IsOfDocument → IsOfRun f
  | refused (shown description : String) : IsOfRun (.unsupportedScheme shown description)

theorem Failure.IsOfRun.ne_nameless {f : Failure} (ofRun : f.IsOfRun) : f ≠ .nameless := by
  rintro rfl
  cases ofRun with
  | document ofDocument => cases ofDocument

namespace Security

theorem blames_requireKey (key : Scalar) : BlamesDocument (requireKey key) := by
  refine (blames_lift key.display).bind fun _ _ => ?_
  split
  · exact blames_ok _
  · exact blames_error (.malformed _)
  · exact blames_error (.invalid _)

variable [Machine]

theorem isOfRun_of_normalizeEntry {strict : Bool} {key : Scalar} {t : Tree} {f : Failure}
    (run : (normalizeEntry strict key t).result = .error f) : f.IsOfRun := by
  cases t with
  | object o loop =>
    obtain run | ⟨kind, _, run⟩ := Logged.bind_eq_error.mp run
    · exact .document (blames_lift _ f run)
    · cases kind with
      | oauth2 => cases run
      | unsupported =>
        obtain run | ⟨description, _, run⟩ := Logged.bind_eq_error.mp run
        · exact .document (blames_lift _ f run)
        · obtain run | ⟨shown, _, run⟩ := Logged.bind_eq_error.mp run
          · exact .document (blames_lift _ f run)
          · cases strict with
            | true =>
              cases run
              exact .refused shown description
            | false => cases run
      | apiKey =>
        obtain run | ⟨name, _, run⟩ := Logged.bind_eq_error.mp run
        · exact .document (blames_requireKey key f run)
        · cases run
      | basicAuth =>
        obtain run | ⟨name, _, run⟩ := Logged.bind_eq_error.mp run
        · exact .document (blames_requireKey key f run)
        · cases run
  | _ => cases run

theorem isOfRun_of_normalize {strict : Bool} {declared : Object} {f : Failure}
    (run : (normalize strict declared).result = .error f) : f.IsOfRun := by
  obtain ⟨e, _, schemes, run⟩ := Logged.exists_of_foldlM_eq_error run
  obtain run | ⟨found, _, run⟩ := Logged.bind_eq_error.mp run
  · exact isOfRun_of_normalizeEntry run
  · cases found <;> cases run

end Security

theorem Outline.isOfRun_of_ofDocument [Machine] {document : Object} {options : Options}
    {f : Failure} (run : (ofDocument document options).result = .error f) : f.IsOfRun := by
  obtain run | ⟨p, _, run⟩ := Logged.bind_eq_error.mp run
  · exact .document ((within_visit document options).failure f run)
  · obtain run | ⟨declared, _, run⟩ := Logged.bind_eq_error.mp run
    · exact .document (blames_declaredSchemes document f run)
    · obtain run | ⟨security, _, run⟩ := Logged.bind_eq_error.mp run
      · exact Security.isOfRun_of_normalize run
      · cases run

/-! ### Runs that give definitions in another way -/

/-- Whether a schema, if it is one, comes with something that its definition could be called. -/
def Hinted (t : Tree) (hints : Option Hints) : Prop :=
  t.isNull = false → (hints.map Hints.candidates).getD [] ≠ []

instance (t : Tree) (hints : Option Hints) : Decidable (Hinted t hints) :=
  inferInstanceAs (Decidable (t.isNull = false → (hints.map Hints.candidates).getD [] ≠ []))

def Assigning.AgreesOnHinted [Machine] (assign : Assigning) : Prop :=
  ∀ c t hints, Hinted t hints → assign c t hints = c.assign t hints

section

variable [Machine] {assign : Assigning} (agrees : assign.AgreesOnHinted)
include agrees

theorem Operation.assignRequest_eq (s : Site) (c : Catalog) :
    assignRequest assign s c = assignRequest Catalog.assign s c := by
  refine Logged.bind_congr_of_ok fun payload extracted => ?_
  have absent := agrees c .null (some payload.hints) nofun
  have present := agrees c payload.schema (some payload.hints) (Site.hinted_of_request extracted)
  dsimp only
  split
  · rw [absent]
  · rw [present]

theorem Operation.assignResponse_eq (s : Site) (c : Catalog) :
    assignResponse assign s c = assignResponse Catalog.assign s c := by
  refine Logged.bind_congr_of_ok fun payload extracted => ?_
  have present := agrees c payload.schema (some payload.hints) (Site.hinted_of_result extracted)
  obtain ⟨schema, hints, required⟩ := payload
  cases schema with
  | object o loop => exact present
  | _ => rfl

theorem Operation.ofSite_eq : ofSite assign = ofSite Catalog.assign := by
  funext options s method endpoint c
  simp only [ofSite, assignRequest_eq agrees, assignResponse_eq agrees]

theorem Outline.visit_eq_of_agrees : visit assign = visit Catalog.assign := by
  have methods : visitMethod assign = visitMethod Catalog.assign := by
    funext document options path p entry
    simp only [visitMethod, Operation.ofSite_eq agrees]
  have paths : visitPath assign = visitPath Catalog.assign := by
    funext document options p entry
    simp only [visitPath, methods]
  funext document options
  simp only [visit, paths]

theorem Outline.ofDocumentWith_eq (document : Object) (options : Options) :
    ofDocumentWith assign document options = ofDocument document options := by
  rw [ofDocument, ofDocumentWith, ofDocumentWith, visit_eq_of_agrees agrees]

end

/-- No run fails for want of a name, whatever its document and its options are. Runs only give
definitions to schemas with hints: what becomes of one without any makes no difference to them. -/
theorem Outline.never_nameless [Machine] (document : Object) (options : Options) :
    (ofDocument document options).result ≠ .error .nameless ∧
    ∀ assign : Assigning, assign.AgreesOnHinted →
      ofDocumentWith assign document options = ofDocument document options :=
  ⟨fun run => (isOfRun_of_ofDocument run).ne_nameless rfl,
    fun _ agrees => ofDocumentWith_eq agrees document options⟩

def Assigning.onlyHinted [Machine] : Assigning := fun c t hints =>
  if Hinted t hints then c.assign t hints else pure (none, c)

theorem Outline.shop_hinted :
    (Catalog.empty.assign (.record []) none).result = .error .nameless ∧
    (Assigning.onlyHinted Catalog.empty (.record []) none).result = .ok (none, Catalog.empty) ∧
    (ofDocument shop Options.usual).result ≠ .error .nameless ∧
    ofDocumentWith Assigning.onlyHinted shop Options.usual = ofDocument shop Options.usual := by
  obtain ⟨named, unnoticed⟩ := never_nameless shop Options.usual
  exact ⟨rfl, rfl, named, unnoticed Assigning.onlyHinted fun _ _ _ hinted => if_pos hinted⟩

end ApiOutline
