import ApiOutline.Operation.Site
import ApiOutline.Proofs.Log
import ApiOutline.Proofs.Reference

/-! Operations that are found without following any reference. -/
namespace ApiOutline.Site

variable {s : Site} {paths item endpoint : Object} {loop : Option Nat}

variable [Machine]

theorem item_of_plain (given : Object.inner s.document "paths" = .ok paths)
    (found : Object.get? paths s.path = some (.object item loop))
    (plain : Object.get? item (.text "$ref") = none) : s.item = .ok item := by
  have itself : s.resolve (.object item loop) = .ok (.object item loop) :=
    Reference.resolve_of_plain plain
  rw [Site.item, given]
  show s.resolve ((Object.get? paths s.path).getD .null) >>= _ = _
  rw [found, Option.getD_some, itself]
  rfl

theorem endpoint_of_plain (is_item : s.item = .ok item)
    (found : Object.get? item s.method = some (.object endpoint loop))
    (plain : Object.get? endpoint (.text "$ref") = none) : s.endpoint = .ok endpoint := by
  have itself : s.resolve (.object endpoint loop) = .ok (.object endpoint loop) :=
    Reference.resolve_of_plain plain
  rw [Site.endpoint, is_item]
  show s.resolve ((Object.get? item s.method).getD .null) >>= _ = _
  rw [found, Option.getD_some, itself]
  rfl

end ApiOutline.Site
