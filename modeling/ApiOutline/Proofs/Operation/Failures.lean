import ApiOutline.Outline
import ApiOutline.Proofs.Definition.Outcome
import ApiOutline.Proofs.Failure
import ApiOutline.Proofs.Operation.Declared

/-! The parts of an operation are read from a document. Where they cannot be read, it is the
document's fault: what fails is a reference, a record, or a part that is malformed. Schemas always
get a name, since a path suggests one. -/
namespace ApiOutline

open ApiOutline.Except (BlamesDocument blames_ok blames_error blames_lift)
open Logged (within_lift within_lift_malformed within_note within_pure)

namespace Reference

variable {root : Tree}

variable [Machine]

theorem blames_lookup (reference : Tree) : BlamesDocument (lookup root reference) := by
  unfold lookup
  split
  · rename_i r
    cases target root r with
    | ok v => exact blames_ok v
    | error fault => exact blames_error (.reference fault)
  · split
    · exact blames_error (.reference _)
    · exact blames_error (.malformed _)

theorem blames_follow (seen : List String) (t : Tree) : BlamesDocument (follow root seen t) := by
  refine follow_induction (P := fun _ _ outcome => BlamesDocument outcome) ?_ ?_ ?_ ?_ ?_ ?_ seen t
  · exact fun _ => blames_ok _
  · exact fun _ _ => blames_error (.reference _)
  · exact fun _ _ _ => blames_error (.reference _)
  · exact fun _ _ _ ih => ih
  · exact fun _ _ => blames_lookup _
  · exact fun _ _ => blames_error (.malformed _)

theorem blames_resolve (t : Tree) : BlamesDocument (resolve root t) := blames_follow [] t

end Reference

theorem Object.blames_inner (o : Object) (name : String) :
    BlamesDocument (Object.inner o name) := by
  unfold Object.inner
  dsimp only
  split
  · exact blames_ok _
  · split
    · exact blames_ok []
    · exact blames_error (.malformed _)

theorem Payload.blames_ofContent (t : Tree) : BlamesDocument (Payload.ofContent t) := by
  have firstJson (o : Object) : BlamesDocument (Payload.firstJson o) := by
    induction o with
    | nil => exact blames_ok _
    | cons e es ih =>
      unfold Payload.firstJson
      split
      · exact blames_ok _
      · rename_i entries
        cases entries
        split
        · exact blames_ok _
        · exact ih
      · exact blames_error (.malformed _)
      · exact blames_error (.malformed _)
  unfold Payload.ofContent
  split
  · dsimp only
    split
    · exact (firstJson _).bind fun _ _ => blames_ok _
    · exact blames_ok _
  · exact blames_ok _

namespace Parameter

theorem blames_key (o : Object) : BlamesDocument (key o) := by
  have identity (name : String) : BlamesDocument (Parameter.identity o name) := by
    unfold Parameter.identity
    split
    · exact blames_ok _
    · exact blames_ok _
    · exact blames_error (.malformed _)
  refine (identity "name").bind fun name _ => ?_
  exact (identity "in").bind fun location _ => blames_ok _

theorem blames_merge (ofPath ofOperation : List Object) :
    BlamesDocument (merge ofPath ofOperation) := by
  refine (BlamesDocument.mapM fun o _ => blames_key o).bind fun taken _ => ?_
  refine (BlamesDocument.filterM fun o => ?_).bind fun kept _ => blames_ok _
  exact (blames_key o).bind fun k _ => blames_ok _

theorem blames_ofObject (location : Location) (o : Object) :
    BlamesDocument (ofObject location o) := by
  unfold ofObject
  dsimp only
  split
  · exact blames_ok _
  · exact blames_error (.invalid _)

end Parameter

theorem Link.blames_ofObject (key : Scalar) (o : Object) :
    BlamesDocument (Link.ofObject key o) := by
  unfold Link.ofObject
  extract_lets name declared parameters faults
  split
  · exact blames_ok _
  · exact blames_error (.invalid _)

namespace Site

variable (s : Site)

variable [Machine]

theorem blames_resolve (t : Tree) : BlamesDocument (s.resolve t) := Reference.blames_resolve t

theorem blames_item : BlamesDocument s.item := by
  refine (Object.blames_inner s.document "paths").bind fun paths _ => ?_
  exact (s.blames_resolve _).bind fun t _ => blames_ok _

theorem blames_endpoint : BlamesDocument s.endpoint := by
  refine s.blames_item.bind fun item _ => ?_
  exact (s.blames_resolve _).bind fun t _ => blames_ok _

omit [Machine] in
theorem blames_pathName : BlamesDocument s.pathName := by
  unfold pathName
  split
  · exact blames_ok _
  · exact blames_error (.malformed _)
  · exact blames_error (.malformed _)

theorem blames_responses : BlamesDocument s.responses := by
  refine s.blames_endpoint.bind fun endpoint _ => ?_
  split
  · exact blames_ok _
  · exact blames_ok _

theorem blames_response : BlamesDocument s.response := by
  refine s.blames_responses.bind fun responses _ => ?_
  refine (blames_lift _).bind fun status _ => ?_
  cases status with
  | none => exact blames_ok _
  | some status =>
    refine (blames_lift _).bind fun chosen _ => ?_
    cases chosen with
    | none => exact blames_ok _
    | some e => exact (s.blames_resolve e.2).bind fun t _ => blames_ok _

theorem blames_named (schema : Tree) (required : Bool) :
    BlamesDocument (s.named schema required) := by
  refine s.blames_pathName.bind fun name _ => ?_
  exact (s.blames_resolve schema).bind fun resolved _ => blames_ok _

theorem blames_request : BlamesDocument s.request := by
  refine s.blames_endpoint.bind fun endpoint _ => ?_
  refine (s.blames_resolve _).bind fun body _ => ?_
  cases body with
  | object body loop =>
    refine (Payload.blames_ofContent _).bind fun schema _ => ?_
    split
    · exact blames_ok _
    · exact s.blames_named schema _
  | _ => exact blames_ok _

theorem blames_result : BlamesDocument s.result := by
  refine s.blames_response.bind fun response _ => ?_
  refine (Payload.blames_ofContent _).bind fun schema _ => ?_
  split
  · exact blames_ok _
  · exact s.blames_named schema false

theorem blames_declarations (t : Tree) : BlamesDocument (s.declarations t) := by
  cases t with
  | list items loop =>
    exact (BlamesDocument.mapM fun u _ => s.blames_resolve u).bind fun resolved _ => blames_ok _
  | _ => exact blames_ok _

theorem blames_parameters : BlamesDocument s.parameters := by
  unfold parameters
  split
  · exact blames_ok _
  · refine s.blames_item.bind fun item _ => ?_
    refine (s.blames_declarations _).bind fun ofPath _ => ?_
    refine s.blames_endpoint.bind fun endpoint _ => ?_
    refine (s.blames_declarations _).bind fun ofOperation _ => ?_
    refine (Parameter.blames_merge ofPath ofOperation).bind fun merged _ => ?_
    refine (BlamesDocument.mapM fun o _ => ?_).bind fun parameters _ => blames_ok _
    split
    · exact blames_ok none
    · exact (Parameter.blames_ofObject _ o).map some

theorem blames_links : BlamesDocument s.links := by
  refine s.blames_response.bind fun response _ => ?_
  split
  · refine (BlamesDocument.mapM fun e _ => ?_).bind fun links _ => blames_ok _
    refine (s.blames_resolve e.2).bind fun t _ => ?_
    cases t with
    | object o loop => exact (Link.blames_ofObject e.1 o).map some
    | _ => exact blames_ok none
  · exact blames_ok _

theorem blames_asksFor (schemes : Tree) (key : Scalar) :
    BlamesDocument (s.asksFor schemes key) := by
  have scheme : BlamesDocument (s.scheme schemes key) := by
    unfold Site.scheme
    split
    · exact s.blames_resolve _
    · split
      · exact blames_ok _
      · exact blames_error (.malformed _)
  refine scheme.bind fun t _ => ?_
  cases t with
  | object o loop => exact blames_ok _
  | _ => exact blames_ok false

theorem blames_security : BlamesDocument s.security := by
  have requirements (t : Tree) : BlamesDocument (requirementsOf t) := by
    unfold requirementsOf
    split
    case h_7 =>
      split
      · exact blames_ok []
      · exact blames_error (.malformed _)
    all_goals exact blames_ok _
  refine s.blames_endpoint.bind fun endpoint _ => ?_
  refine (Object.blames_inner s.document "components").bind fun components _ => ?_
  refine (requirements _).bind fun asked _ => ?_
  refine BlamesDocument.foldlM fun found key => ?_
  exact (s.blames_asksFor _ key).bind fun counts _ => blames_ok _

end Site

/-! ### Payloads -/

namespace Site

variable {s : Site} {p : Payload}

variable [Machine]

theorem hinted_of_named {schema : Tree} {required : Bool} (h : s.named schema required = .ok p) :
    p.hints.candidates ≠ [] := by
  obtain ⟨name, _, h⟩ := Except.bind_eq_ok.mp h
  obtain ⟨resolved, _, h⟩ := Except.bind_eq_ok.mp h
  cases h
  simp [Hints.candidates]

theorem hinted_of_request (h : s.request = .ok p) (given : p.schema.isNull = false) :
    p.hints.candidates ≠ [] := by
  rcases named_of_request h with absent | ⟨schema, required, named⟩
  · rw [absent] at given
    cases given
  · exact hinted_of_named named

theorem hinted_of_result (h : s.result = .ok p) (given : p.schema.isNull = false) :
    p.hints.candidates ≠ [] := by
  rcases named_of_result h with absent | ⟨schema, required, named⟩
  · rw [absent] at given
    cases given
  · exact hinted_of_named named

end Site

theorem Catalog.within_assign [Machine] {N : Note → Prop} {t : Tree} {hints : Hints} (c : Catalog)
    (details : ∀ n, n.level = .debug → N n)
    (hinted : t.isNull = false → hints.candidates ≠ []) :
    (c.assign t (some hints)).Within N where
  notes n hn := details n (Catalog.leaves_assign c t (some hints) n hn)
  failure := by
    rw [Catalog.assign, Logged.result_map]
    refine BlamesDocument.map ?_ _
    cases null : t.isNull with
    | true =>
      rw [Session.assign, if_pos null]
      exact blames_ok none
    | false =>
      have outcome := Session.assign_outcome c t (some hints)
      generalize (Session.assign t (some hints) c).1.result = answer,
        (Session.assign t (some hints) c).2 = c' at outcome
      cases outcome with
      | tooDeep => exact blames_error (.malformed _)
      | nameless proposed =>
        exact absurd (Registry.proposal_eq_error.mp proposed).2 (hinted null)
      | _ => exact blames_ok _

namespace Operation

theorem within_assignRequest [Machine] {N : Note → Prop} (s : Site) (c : Catalog)
    (details : ∀ n, n.level = .debug → N n)
    (ignored : ∀ shown : String, N ⟨.warning,
      s!"{shown} has a non-object request schema; ignoring the request body"⟩) :
    (assignRequest Catalog.assign s c).Within N := by
  refine (within_lift s.blames_request).bind fun payload extracted => ?_
  have hinted := Site.hinted_of_request extracted
  generalize (!payload.schema.isNull && payload.schema.object?.isNone) = is_ignored
  cases is_ignored with
  | false => exact (c.within_assign details hinted).bind fun _ _ => within_pure _
  | true =>
    refine (within_note (ignored (quoted s))).bind fun _ _ => ?_
    have nothing : Tree.null.isNull = false → payload.hints.candidates ≠ [] := nofun
    exact (c.within_assign details nothing).bind fun _ _ => within_pure _

theorem blames_requireTexts (keys : List Scalar) : BlamesDocument (requireTexts keys) := by
  unfold requireTexts
  dsimp only
  split
  · exact blames_ok _
  · exact blames_error (.invalid _)

end Operation

theorem Outline.blames_declaredSchemes [Machine] (document : Object) :
    BlamesDocument (Outline.declaredSchemes document) := by
  refine (Object.blames_inner document "components").bind fun components _ => ?_
  refine (Object.blames_inner components "securitySchemes").bind fun schemes _ => ?_
  refine BlamesDocument.mapM fun e _ => ?_
  exact (Reference.blames_resolve e.2).bind fun t _ => blames_ok _

end ApiOutline
