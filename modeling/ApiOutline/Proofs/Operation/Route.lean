import Mathlib.Data.List.Nodup
import ApiOutline.Operation.Route
import ApiOutline.Proofs.Text.Pieces

/-! Sub-operations of a route are other GET operations on paths that contain its path, each of them
once. Those of a sub-operation are among them. -/
namespace ApiOutline

theorem Text.hasPart_iff {part cs : List Char} : Text.hasPart part cs = true ↔ part <:+: cs := by
  induction cs with
  | nil => simp [hasPart]
  | cons c cs ih => simp [hasPart, ih, List.infix_cons_iff]

namespace Route

variable {r : Route} {all : List Route} {id : String}

theorem subOperations_sublist (r : Route) (all : List Route) :
    (r.subOperations all).Sublist (all.map (·.id)) := by
  unfold subOperations
  split
  · exact List.filter_sublist.map _
  · exact List.nil_sublist _

theorem mem_subOperations : id ∈ r.subOperations all ↔ r.method = .get ∧
    hasParameter r.path = true ∧ ∃ c ∈ all, c.id = id ∧ c.id ≠ r.id ∧ c.method = .get ∧
      r.path.toList <:+: c.path.toList := by
  unfold subOperations
  split
  · rename_i eligible
    simp only [Bool.and_eq_true, decide_eq_true_eq] at eligible
    simp only [List.mem_map, List.mem_filter, Bool.and_eq_true, decide_eq_true_eq, bne_iff_ne,
      contains, Text.hasPart_iff]
    constructor
    · rintro ⟨c, ⟨inside, ⟨is_get, other⟩, part⟩, rfl⟩
      exact ⟨eligible.1, eligible.2, c, inside, rfl, other, is_get, part⟩
    · rintro ⟨_, _, c, inside, rfl, other, is_get, part⟩
      exact ⟨c, ⟨inside, ⟨is_get, other⟩, part⟩, rfl⟩
  · rename_i other
    simp only [Bool.and_eq_true, decide_eq_true_eq] at other
    constructor
    · nofun
    · rintro ⟨is_get, parameter, _⟩
      exact absurd ⟨is_get, parameter⟩ other

/-! ### Sub-operations of sub-operations -/

def HasBraces (cs : List Char) : Prop :=
  ∃ within, '\n' ∉ within ∧ '{' :: within ++ ['}'] <:+: cs

theorem mem_dropWhile_iff {cs : List Char} :
    '}' ∈ cs.dropWhile (· != '{') ↔ ∃ within, '{' :: within ++ ['}'] <:+: cs := by
  induction cs with
  | nil => simp
  | cons c cs ih =>
    rw [List.dropWhile_cons]
    split
    · rename_i other
      have other : c ≠ '{' := by simpa using other
      simp [List.infix_cons_iff, ih, other.symm]
    · rename_i opens
      have opens : c = '{' := by simpa using opens
      subst opens
      constructor
      · intro closes
        have closes : '}' ∈ cs := by simpa using closes
        obtain ⟨within, after, rfl⟩ := List.append_of_mem closes
        exact ⟨within, [], after, by simp⟩
      · rintro ⟨within, part⟩
        exact part.subset (by simp)

theorem hasBraces_line {line : List Char} (one_line : '\n' ∉ line) :
    HasBraces line ↔ '}' ∈ line.dropWhile (· != '{') := by
  rw [mem_dropWhile_iff]
  constructor
  · rintro ⟨within, _, part⟩
    exact ⟨within, part⟩
  · rintro ⟨within, part⟩
    refine ⟨within, ?_, part⟩
    intro broken
    exact one_line (part.subset (by simp [broken]))

theorem hasBraces_lines (line rest : List Char) :
    HasBraces (line ++ '\n' :: rest) ↔ HasBraces line ∨ HasBraces rest := by
  have unbroken {within : List Char} (inside : '\n' ∉ within) :
      '\n' ∉ '{' :: within ++ ['}'] := by simp [inside]
  constructor
  · rintro ⟨within, inside, part⟩
    rcases (Text.infix_separated (unbroken inside)).mp part with left | right
    · exact .inl ⟨within, inside, left⟩
    · exact .inr ⟨within, inside, right⟩
  · rintro (⟨within, inside, left⟩ | ⟨within, inside, right⟩)
    · exact ⟨within, inside, (Text.infix_separated (unbroken inside)).mpr (.inl left)⟩
    · exact ⟨within, inside, (Text.infix_separated (unbroken inside)).mpr (.inr right)⟩

theorem hasParameter_iff {path : String} : hasParameter path = true ↔ HasBraces path.toList := by
  unfold hasParameter
  induction path.toList using Text.pieces_induction (p := (· == '\n')) with
  | piece line inside =>
    have one_line : '\n' ∉ line := fun broken => by simpa using inside _ broken
    rw [List.splitOn_eq_singleton one_line, List.any_cons, List.any_nil, Bool.or_false,
      List.contains_iff_mem, hasBraces_line one_line]
  | separated line separator rest inside ends ih =>
    have one_line : '\n' ∉ line := fun broken => by simpa using inside _ broken
    have feed : separator = '\n' := by simpa using ends
    subst feed
    rw [List.splitOn_append_cons_self_of_not_mem one_line, List.any_cons, Bool.or_eq_true, ih,
      List.contains_iff_mem, hasBraces_lines, hasBraces_line one_line]

theorem HasBraces.of_part {part cs : List Char} (braces : HasBraces part) (inside : part <:+: cs) :
    HasBraces cs := by
  obtain ⟨within, unbroken, found⟩ := braces
  exact ⟨within, unbroken, found.trans inside⟩

/-- Whatever contains a path with a parameter has one as well. So a sub-operation may have
sub-operations in its turn, and all of them are sub-operations of the first route. -/
theorem subOperations_transitive (unique : (all.map (·.id)).Nodup) :
    (∀ a ∈ all, ∀ b ∈ all, ∀ c ∈ all, a ≠ c → b.id ∈ a.subOperations all →
      c.id ∈ b.subOperations all → c.id ∈ a.subOperations all) ∧
    ∀ a : Route, ∀ b ∈ all, b.id ∈ a.subOperations all →
      b.method = .get ∧ hasParameter b.path = true := by
  have below {a b : Route} (hb : b ∈ all) (listed : b.id ∈ a.subOperations all) :
      a.method = .get ∧ hasParameter a.path = true ∧ b.method = .get ∧
        a.path.toList <:+: b.path.toList := by
    obtain ⟨is_get, parameter, found, inside, same, _, found_get, part⟩ :=
      mem_subOperations.mp listed
    cases List.inj_on_of_nodup_map unique inside hb same
    exact ⟨is_get, parameter, found_get, part⟩
  constructor
  · intro a ha b hb c hc different first second
    obtain ⟨is_get, parameter, _, part⟩ := below hb first
    obtain ⟨_, _, c_get, part'⟩ := below hc second
    have other : c.id ≠ a.id := fun same =>
      different (List.inj_on_of_nodup_map unique ha hc same.symm)
    exact mem_subOperations.mpr
      ⟨is_get, parameter, c, hc, rfl, other, c_get, part.trans part'⟩
  · intro a b hb listed
    obtain ⟨_, parameter, b_get, part⟩ := below hb listed
    exact ⟨b_get, hasParameter_iff.mpr ((hasParameter_iff.mp parameter).of_part part)⟩

def stable : Route := ⟨"stable", "/stables/{id}", .get⟩

def horses : Route := ⟨"horses", "v2\n/stables/{id}/horses", .get⟩

def horse : Route := ⟨"horse", "v2\n/stables/{id}/horses/{name}", .get⟩

def farm : List Route := [⟨"rename", "/stables/{id}", .patch⟩, horse, stable, horses]

theorem farm_nested : (farm.map (·.id)).Nodup ∧ "horses" ∈ stable.subOperations farm ∧
    "horse" ∈ horses.subOperations farm ∧ "horse" ∈ stable.subOperations farm ∧
    hasParameter horses.path = true := by
  have unique : (farm.map (·.id)).Nodup := by decide
  have first : "horses" ∈ stable.subOperations farm := by decide
  have second : "horse" ∈ horses.subOperations farm := by decide
  have law := subOperations_transitive unique
  have whole := law.1 stable (by decide) horses (by decide) horse (by decide) (by decide) first
    second
  have eligible := law.2 stable horses (by decide) first
  exact ⟨unique, first, second, whole, eligible.2⟩

end Route

end ApiOutline
