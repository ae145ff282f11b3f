import ApiOutline.Outline
import ApiOutline.Proofs.Operation.Hereditary
import ApiOutline.Proofs.Reference.Local

/-! What an operation takes from its document: the item of its path, the components, and the
security requirements of all operations. Sites that share these make one operation of an endpoint,
if no reference of the document leads out of its components. -/
namespace ApiOutline

open ApiOutline.Tree (entriesAreLocal isLocal_hereditary)

namespace Site

variable {s s' : Site} {t : Tree}

/-- A site in another document, with all that an operation takes from its document. References of
the given site's document lead into the components only. -/
structure Agrees [Machine] (s' s : Site) : Prop where
  whole : entriesAreLocal s.document = true
  path : s'.path = s.path
  method : s'.method = s.method
  item : s'.item = s.item
  components : Object.get? s'.document (.text "components") =
    Object.get? s.document (.text "components")
  requirements : Object.get? s'.document (.text "security") =
    Object.get? s.document (.text "security")

namespace Agrees

variable [Machine]

theorem root_local (agrees : s'.Agrees s) : s.root.isLocal = true := agrees.whole

theorem resolve (agrees : s'.Agrees s) (h : t.isLocal = true) : s'.resolve t = s.resolve t :=
  Reference.resolve_congr agrees.components agrees.whole h

theorem endpoint (agrees : s'.Agrees s) : s'.endpoint = s.endpoint := by
  refine Except.bind_congr agrees.item fun item is_item => ?_
  have inside := isLocal_hereditary.siteItem agrees.root_local is_item
  rw [agrees.method, agrees.resolve (isLocal_hereditary.getD inside s.method)]

theorem responses (agrees : s'.Agrees s) : s'.responses = s.responses :=
  Except.bind_congr agrees.endpoint fun _ _ => rfl

theorem response (agrees : s'.Agrees s) : s'.response = s.response := by
  refine Except.bind_congr agrees.responses fun responses declared => ?_
  have inside := isLocal_hereditary.responses agrees.root_local declared
  refine Except.bind_congr rfl fun status _ => ?_
  cases status with
  | none => rfl
  | some status =>
    refine Except.bind_congr rfl fun chosen shown => ?_
    cases chosen with
    | none => rfl
    | some e =>
      obtain ⟨entry, he, same⟩ := mem_of_findShown (Except.lift_malformed_eq_ok.mp shown)
      have e_local := isLocal_hereditary.entry inside he
      rw [same] at e_local
      simp only [agrees.resolve e_local]

theorem named (agrees : s'.Agrees s) (h : t.isLocal = true) (required : Bool) :
    s'.named t required = s.named t required := by
  simp only [Site.named, pathName, agrees.path, agrees.resolve h]

theorem request (agrees : s'.Agrees s) : s'.request = s.request := by
  refine Except.bind_congr agrees.endpoint fun endpoint is_endpoint => ?_
  have inside := isLocal_hereditary.field
    (isLocal_hereditary.endpoint agrees.root_local is_endpoint) "requestBody"
  refine Except.bind_congr (agrees.resolve inside) fun body resolved => ?_
  have body_local := isLocal_hereditary.resolve agrees.root_local inside resolved
  cases body with
  | object body loop =>
    refine Except.bind_congr rfl fun schema extracted => ?_
    have content := isLocal_hereditary.field body_local "content"
    rw [agrees.named (isLocal_hereditary.ofContent content extracted)]
  | _ => rfl

theorem result (agrees : s'.Agrees s) : s'.result = s.result := by
  refine Except.bind_congr agrees.response fun response is_response => ?_
  have inside := isLocal_hereditary.response agrees.root_local is_response
  refine Except.bind_congr rfl fun schema extracted => ?_
  have content := isLocal_hereditary.field inside "content"
  rw [agrees.named (isLocal_hereditary.ofContent content extracted)]

theorem declarations (agrees : s'.Agrees s) (h : t.isLocal = true) :
    s'.declarations t = s.declarations t := by
  cases t with
  | list items loop =>
    have items_local := Tree.itemsAreLocal_iff.mp h
    exact Except.bind_congr (Except.mapM_congr fun u hu => agrees.resolve (items_local u hu))
      fun _ _ => rfl
  | _ => rfl

theorem parameters (agrees : s'.Agrees s) : s'.parameters = s.parameters := by
  unfold Site.parameters
  rw [agrees.method]
  split
  · rfl
  · refine Except.bind_congr agrees.item fun item is_item => ?_
    have inside := isLocal_hereditary.field
      (isLocal_hereditary.siteItem agrees.root_local is_item) "parameters"
    refine Except.bind_congr (agrees.declarations inside) fun ofPath _ => ?_
    refine Except.bind_congr agrees.endpoint fun endpoint is_endpoint => ?_
    have inside := isLocal_hereditary.field
      (isLocal_hereditary.endpoint agrees.root_local is_endpoint) "parameters"
    exact Except.bind_congr (agrees.declarations inside) fun ofOperation _ => rfl

theorem links (agrees : s'.Agrees s) : s'.links = s.links := by
  refine Except.bind_congr agrees.response fun response is_response => ?_
  have inside := isLocal_hereditary.field
    (isLocal_hereditary.response agrees.root_local is_response) "links"
  cases declared : Object.field response "links" with
  | object entries loop =>
    rw [declared] at inside
    refine Except.bind_congr (Except.mapM_congr fun e he => ?_) fun _ _ => rfl
    exact Except.bind_congr (agrees.resolve (isLocal_hereditary.entry inside he)) fun _ _ => rfl
  | _ => rfl

theorem asksFor (agrees : s'.Agrees s) (h : t.isLocal = true) (key : Scalar) :
    s'.asksFor t key = s.asksFor t key := by
  refine Except.bind_congr ?_ fun _ _ => rfl
  cases t with
  | object entries loop => exact agrees.resolve (isLocal_hereditary.getD h key)
  | _ => rfl

theorem security (agrees : s'.Agrees s) : s'.security = s.security := by
  have asked : Object.field s'.document "security" = Object.field s.document "security" := by
    rw [Object.field, agrees.requirements, Object.field]
  have components :
      Object.inner s'.document "components" = Object.inner s.document "components" := by
    rw [Object.inner, Object.field, agrees.components, Object.inner, Object.field]
  refine Except.bind_congr agrees.endpoint fun endpoint _ => ?_
  rw [asked]
  refine Except.bind_congr components fun inner found => ?_
  have inside := isLocal_hereditary.field
    (isLocal_hereditary.inner agrees.root_local found) "securitySchemes"
  simp only [agrees.asksFor inside]

end Agrees

end Site

namespace Operation

variable {s s' : Site}

variable [Machine]

theorem quoted_congr (agrees : s'.Agrees s) : quoted s' = quoted s := by
  simp only [quoted, agrees.path, agrees.method]

theorem assignRequest_congr (agrees : s'.Agrees s) (c : Catalog) :
    assignRequest Catalog.assign s' c = assignRequest Catalog.assign s c := by
  simp only [assignRequest, agrees.request, quoted_congr agrees]

theorem assignResponse_congr (agrees : s'.Agrees s) (c : Catalog) :
    assignResponse Catalog.assign s' c = assignResponse Catalog.assign s c := by
  simp only [assignResponse, agrees.result, quoted_congr agrees]

/-- Sites that agree make one operation of an endpoint, with the same notes. -/
theorem ofSite_congr (agrees : s'.Agrees s) (options : Options) (method : Method)
    (endpoint : Object) (c : Catalog) :
    ofSite Catalog.assign options s' method endpoint c =
      ofSite Catalog.assign options s method endpoint c := by
  simp only [ofSite, identify, assignRequest_congr agrees, assignResponse_congr agrees,
    agrees.security, agrees.parameters, agrees.links, agrees.path, agrees.method]

end Operation

end ApiOutline
