import ApiOutline.Proofs.Operation.Failures
import ApiOutline.Proofs.Operation.Warnings

/-! What a visit of operations says when it fails, and what it notes. It fails only because of the
document, and none of its notes tells of a security scheme. -/
namespace ApiOutline

open ApiOutline.Except (BlamesDocument blames_error)
open Logged (Within within_lift within_lift_malformed within_pure within_note)

namespace Note

def skippedWords : String := "; skipping it"

theorem skippedWords_last : skippedWords.toList.getLast? = some 't' := by decide

def isSkipped : Note → Bool := warns skippedWords

def TellsOfNoScheme (n : Note) : Prop := n.isSkipped = false

theorem tellsOfNoScheme_of_level {n : Note} (other : n.level ≠ .warning) : n.TellsOfNoScheme :=
  warns_of_level _ other

theorem tellsOfNoScheme_of_debug (n : Note) (detail : n.level = .debug) : n.TellsOfNoScheme :=
  tellsOfNoScheme_of_level (by simp [detail])

theorem tellsOfNoScheme_of_last {tail : String} {c : Char} (last : tail.toList.getLast? = some c)
    (not_t : 't' ≠ c) (before : String) (level : Level) :
    TellsOfNoScheme ⟨level, before ++ tail⟩ :=
  warns_of_last skippedWords_last last not_t _ _

end Note

open Note (TellsOfNoScheme tellsOfNoScheme_of_last)

namespace Operation

variable {options : Options} (s : Site) (c : Catalog)

theorem within_assignResponse [Machine] :
    (assignResponse Catalog.assign s c).Within TellsOfNoScheme := by
  refine (within_lift s.blames_result).bind fun payload extracted => ?_
  have hinted := Site.hinted_of_result extracted
  split
  · exact c.within_assign Note.tellsOfNoScheme_of_debug hinted
  · refine (within_note ?_).bind fun _ _ => within_pure _
    exact tellsOfNoScheme_of_last (c := '.') (by decide) (by decide) _ _

theorem tellsOfNoScheme_ignored (shown : String) : TellsOfNoScheme
    ⟨.warning, s!"{shown} has a non-object request schema; ignoring the request body"⟩ :=
  tellsOfNoScheme_of_last (c := 'y') (by decide) (by decide) _ _

theorem within_ofSite [Machine] (method : Method) (endpoint : Object) :
    (ofSite Catalog.assign options s method endpoint c).Within TellsOfNoScheme := by
  have request := within_assignRequest s c Note.tellsOfNoScheme_of_debug tellsOfNoScheme_ignored
  refine request.bind fun asked _ => ?_
  refine (within_assignResponse s asked.2).bind fun answered _ => ?_
  obtain ⟨response, c'⟩ := answered
  cases response with
  | none => exact within_pure _
  | some response =>
    have keys : (if options.viewer then Logged.ofExcept s.security else pure []).Within
        TellsOfNoScheme := by
      split
      · exact within_lift s.blames_security
      · exact within_pure []
    dsimp only
    -- both branches go on in the same way
    rw [← apply_ite (· >>= _)]
    refine keys.bind fun keys _ => ?_
    refine (within_lift s.blames_parameters).bind fun parameters _ => ?_
    refine (within_lift s.blames_links).bind fun links _ => ?_
    refine (within_lift_malformed _).bind fun id _ => ?_
    refine (within_lift_malformed _).bind fun path _ => ?_
    exact (within_lift (blames_requireTexts keys)).bind fun security _ => within_pure _

end Operation

namespace Outline

variable {document : Object} {options : Options}

theorem within_add (p : Progress) (s : Site) (o : Operation) :
    (p.add s o).Within TellsOfNoScheme := by
  unfold Progress.add
  split
  · refine (within_note ?_).bind fun _ _ => within_pure _
    exact tellsOfNoScheme_of_last (c := 'd') (by decide) (by decide) _ _
  · exact within_pure _

variable [Machine]

theorem within_visitMethod (path : Scalar) (p : Progress) (entry : Scalar × Tree) :
    (visitMethod Catalog.assign document options path p entry).Within TellsOfNoScheme := by
  unfold visitMethod
  split
  · refine (Operation.within_ofSite _ _ _ _).bind fun built _ => ?_
    obtain ⟨operation, catalog⟩ := built
    cases operation with
    | none => exact within_pure _
    | some o => exact within_add _ _ o
  · exact within_pure p

/-- A visit can fail only because of its document, and it does not note any security scheme. -/
theorem within_visit (document : Object) (options : Options) :
    (visit Catalog.assign document options).Within TellsOfNoScheme := by
  refine (within_lift (Object.blames_inner document "paths")).bind fun paths _ => ?_
  refine Within.foldlM fun p entry => ?_
  refine (within_lift (Reference.blames_resolve entry.2)).bind fun item _ => ?_
  cases item with
  | object methods loop => exact Within.foldlM fun p e => within_visitMethod entry.1 p e
  | _ => exact within_pure p

end Outline

end ApiOutline
