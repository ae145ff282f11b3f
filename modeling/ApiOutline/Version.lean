import ApiOutline.Failure
import ApiOutline.Tree.Display

/-!
The version of a description. Every 3.x version is accepted; a description of the older kind, which
names its version under another key, is refused whatever else it holds.
-/
namespace ApiOutline.Version

def check [Machine] (document : Object) : Except Failure String := do
  match Object.get? document (.text "swagger") with
  | some version =>
    let version ← version.display
    .error (.version (.swagger version))
  | none =>
    let version := Object.field document "openapi"
    if version.isNull then .error (.version .missing)
    else
      let version ← version.display
      if "3.".toList.isPrefixOf version.toList then .ok version
      else .error (.version (.unsupported version))

end ApiOutline.Version
