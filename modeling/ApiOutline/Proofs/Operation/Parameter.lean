import Mathlib.Data.List.Nodup
import ApiOutline.Operation.Parameter
import ApiOutline.Proofs.Operation.Site

/-! Parameters that are declared for a path and again for one of its operations. Which declaration
replaces another is told by what is written, and where a parameter belongs by what is read; a
location that is left out is written like an empty text and read as the query. -/
namespace ApiOutline

namespace Parameter

variable {o p q : Object} {r : Parameter} {k : String × Location}

def place (r : Parameter) : String × Location := (r.name, r.location)

def place? (o : Object) : Option (String × Location) := do
  let location ← locationOf o
  let name ← ((Object.get? o (.text "name")).getD (.text "")).fieldText?
  some (name, location)

def read? (o : Object) : Option Parameter :=
  (locationOf o).bind fun location => (ofObject location o).toOption

theorem place_of_ofObject {location : Location} (read : ofObject location o = .ok r) :
    ((Object.get? o (.text "name")).getD (.text "")).fieldText? = some r.name ∧
      r.location = location := by
  unfold ofObject at read
  extract_lets name schema faults at read
  split at read
  · rename_i none_found
    cases read
    have fits : FieldFault.ofText "name" name = [] := by
      have all := List.isEmpty_iff.mp none_found
      exact (List.append_eq_nil_iff.mp (List.append_eq_nil_iff.mp all).1).1
    unfold FieldFault.ofText at fits
    split at fits
    · rename_i given
      obtain ⟨word, given⟩ := Option.isSome_iff_exists.mp given
      refine ⟨?_, rfl⟩
      show name.fieldText? = some (name.fieldText?.getD "")
      rw [given, Option.getD_some]
    · cases fits
  · cases read

theorem read?_eq_some : read? o = some r ↔
    ∃ location, locationOf o = some location ∧ ofObject location o = .ok r := by
  unfold read?
  rw [Option.bind_eq_some_iff]
  constructor
  · rintro ⟨location, known, found⟩
    refine ⟨location, known, ?_⟩
    cases read : ofObject location o with
    | error e =>
      rw [read] at found
      cases found
    | ok r' =>
      rw [read] at found
      cases found
      rfl
  · rintro ⟨location, known, read⟩
    exact ⟨location, known, by rw [read]; rfl⟩

theorem place?_of_read? (read : read? o = some r) : place? o = some r.place := by
  obtain ⟨location, known, read⟩ := read?_eq_some.mp read
  obtain ⟨name, rfl⟩ := place_of_ofObject read
  simp only [place?, known, name, Option.bind_eq_bind, Option.bind_some, place]

def reading (o : Object) : Except Failure (Option Parameter) :=
  match locationOf o with
  | none => .ok none
  | some location => (ofObject location o).map some

theorem reading_eq_ok {found : Option Parameter} (run : reading o = .ok found) :
    read? o = found ∧ place? o = found.map place := by
  unfold reading at run
  split at run
  · rename_i unknown
    cases run
    exact ⟨by simp [read?, unknown], by simp [place?, unknown]⟩
  · rename_i location known
    obtain ⟨r, read, rfl⟩ := Except.map_eq_ok.mp run
    have is_read : read? o = some r := read?_eq_some.mpr ⟨location, known, read⟩
    exact ⟨is_read, place?_of_read? is_read⟩

theorem readings_eq_ok {os : List Object} {found : List (Option Parameter)}
    (run : os.mapM reading = .ok found) : found.filterMap id = os.filterMap read? ∧
      ∀ o ∈ os, place? o = (read? o).map place := by
  have results := Except.forall₂_of_mapM run
  clear run
  induction results with
  | nil => exact ⟨rfl, nofun⟩
  | @cons o found _ _ first _ ih =>
    obtain ⟨is_read, at_place⟩ := reading_eq_ok first
    constructor
    · rw [List.filterMap_cons, List.filterMap_cons, is_read, ih.1]
      rfl
    · rw [List.forall_mem_cons, is_read]
      exact ⟨at_place, ih.2⟩

/-! ### What is written -/

theorem identity_of_location {location : Location} (known : locationOf o = some location) :
    identity o "in" = .ok (.text (if Object.has o "in" then location.word else "")) := by
  unfold locationOf at known
  unfold identity Object.has
  cases given : Object.get? o (.text "in") with
  | none => rfl
  | some t =>
    rw [given] at known
    simp only at known ⊢
    unfold Location.ofTree? at known
    split at known <;> cases known <;> rfl

theorem exists_identity_of_name {word : String}
    (read : ((Object.get? o (.text "name")).getD (.text "")).fieldText? = some word) :
    ∃ i, identity o "name" = .ok i := by
  unfold identity
  cases given : Object.get? o (.text "name") with
  | none => exact ⟨_, rfl⟩
  | some t =>
    rw [given, Option.getD_some] at read
    cases t with
    | scalar s => exact ⟨_, rfl⟩
    | _ => cases read

theorem word_ne_empty (location : Location) : location.word ≠ "" := by
  cases location <;> decide

/-- Declarations that are read alike are written alike if both give their location or neither does,
and if their names are written alike. -/
theorem key_eq_iff (hp : place? p = some k) (hq : place? q = some k) :
    key p = key q ↔
      Object.has p "in" = Object.has q "in" ∧ identity p "name" = identity q "name" := by
  have parts {o : Object} (h : place? o = some k) : ∃ i, identity o "name" = .ok i ∧
      identity o "in" = .ok (.text (if Object.has o "in" then k.2.word else "")) := by
    obtain ⟨location, known, h⟩ := Option.bind_eq_some_iff.mp h
    obtain ⟨word, name, h⟩ := Option.bind_eq_some_iff.mp h
    cases h
    obtain ⟨i, written⟩ := exists_identity_of_name name
    exact ⟨i, written, identity_of_location known⟩
  obtain ⟨i, name, location⟩ := parts hp
  obtain ⟨j, name', location'⟩ := parts hq
  have empty := word_ne_empty k.2
  simp only [key, name, name', location, location', bind, Except.bind]
  cases Object.has p "in" <;> cases Object.has q "in" <;> simp [empty, empty.symm]

/-! ### What is replaced -/

variable {ofPath ofOperation merged : List Object}

/-- A declaration is replaced by one with the same name and location as they are written. -/
def Replaced (ofOperation : List Object) (p : Object) : Prop := ∃ q ∈ ofOperation, key q = key p

theorem merge_eq_ok (run : merge ofPath ofOperation = .ok merged) : ∃ kept,
    merged = kept ++ ofOperation ∧ kept.Sublist ofPath ∧
      ∀ p ∈ ofPath, p ∈ kept ↔ ¬ Replaced ofOperation p := by
  obtain ⟨taken, keys, run⟩ := Except.bind_eq_ok.mp run
  obtain ⟨kept, filtered, run⟩ := Except.bind_eq_ok.mp run
  cases run
  obtain ⟨rfl, answered⟩ := Except.filterM_eq_ok filtered
  refine ⟨_, rfl, List.filter_sublist, ?_⟩
  intro p hp
  obtain ⟨_, answer⟩ := answered p hp
  obtain ⟨k, written, _⟩ := Except.bind_eq_ok.mp answer
  have taken_iff : k ∈ taken ↔ Replaced ofOperation p := by
    constructor
    · intro inside
      obtain ⟨q, hq, same⟩ := Except.exists_of_mem_mapM keys inside
      exact ⟨q, hq, same.trans written.symm⟩
    · rintro ⟨q, hq, same⟩
      exact Except.mem_of_mapM keys hq (same.trans written)
  rw [← taken_iff]
  simp [hp, written, bind, Except.bind, Except.toOption]

end Parameter

namespace Site

open Parameter (place place? read? Replaced)

variable {s : Site} {ofPath ofOperation : List Object} {ps : List Parameter}

section

variable [Machine]

/-- What an operation and its path declare as parameters, with references followed. -/
structure Declares (s : Site) (ofPath ofOperation : List Object) : Prop where
  method : (Method.ofKey? s.method).isSome = true
  ofPath : ∃ item, s.item = .ok item ∧
    s.declarations (Object.field item "parameters") = .ok ofPath
  ofOperation : ∃ endpoint, s.endpoint = .ok endpoint ∧
    s.declarations (Object.field endpoint "parameters") = .ok ofOperation

theorem parameters_eq (declares : s.Declares ofPath ofOperation) : s.parameters =
    Parameter.merge ofPath ofOperation >>= fun merged =>
      merged.mapM Parameter.reading >>= fun found => .ok (found.filterMap id) := by
  obtain ⟨method, is_method⟩ := Option.isSome_iff_exists.mp declares.method
  obtain ⟨item, is_item, declared⟩ := declares.ofPath
  obtain ⟨endpoint, is_endpoint, declared'⟩ := declares.ofOperation
  unfold parameters
  rw [is_method, is_item, is_endpoint]
  simp only [bind, Except.bind, declared, declared']
  rfl

theorem exists_of_parameters (declares : s.Declares ofPath ofOperation)
    (run : s.parameters = .ok ps) : ∃ kept, kept.Sublist ofPath ∧
      (∀ p ∈ ofPath, p ∈ kept ↔ ¬ Replaced ofOperation p) ∧
      ps = (kept ++ ofOperation).filterMap read? ∧
      ∀ o ∈ kept ++ ofOperation, place? o = (read? o).map place := by
  rw [parameters_eq declares] at run
  obtain ⟨merged, merging, run⟩ := Except.bind_eq_ok.mp run
  obtain ⟨found, reading, run⟩ := Except.bind_eq_ok.mp run
  cases run
  obtain ⟨kept, rfl, sublist, kept_iff⟩ := Parameter.merge_eq_ok merging
  exact ⟨kept, sublist, kept_iff, Parameter.readings_eq_ok reading⟩

omit [Machine] in
theorem nodup_places_iff {kept : List Object} (once : (ofPath.filterMap place?).Nodup)
    (once' : (ofOperation.filterMap place?).Nodup) (sublist : kept.Sublist ofPath)
    (kept_iff : ∀ p ∈ ofPath, p ∈ kept ↔ ¬ Replaced ofOperation p) :
    (kept.filterMap place? ++ ofOperation.filterMap place?).Nodup ↔
      ∀ p ∈ ofPath, ∀ q ∈ ofOperation, ∀ k, place? p = some k → place? q = some k →
        Replaced ofOperation p := by
  rw [List.nodup_append']
  constructor
  · rintro ⟨_, _, apart⟩ p hp q hq k p_place q_place
    by_contra not_replaced
    have in_kept := (kept_iff p hp).mpr not_replaced
    apply apart (List.mem_filterMap.mpr ⟨p, in_kept, p_place⟩)
    exact List.mem_filterMap.mpr ⟨q, hq, q_place⟩
  · intro replaced
    refine ⟨once.sublist (sublist.filterMap _), once', ?_⟩
    intro k inside inside'
    obtain ⟨p, hp, p_place⟩ := List.mem_filterMap.mp inside
    obtain ⟨q, hq, q_place⟩ := List.mem_filterMap.mp inside'
    have in_path := sublist.subset hp
    exact (kept_iff p in_path).mp hp (replaced p in_path q hq k p_place q_place)

/-- Every parameter of an operation has a name and a location of its own, and is the one that the
operation declares if its path declares one there as well, exactly if each declaration of the path
that is read like one of the operation is also written like one. To be written alike, both of them
or neither must give a location. -/
theorem parameters_replaced_iff (s : Site) (ofPath ofOperation : List Object)
    (ps : List Parameter) (declares : s.Declares ofPath ofOperation)
    (run : s.parameters = .ok ps) (once : (ofPath.filterMap place?).Nodup)
    (once' : (ofOperation.filterMap place?).Nodup) :
    (((ps.map place).Nodup ∧ ∀ p ∈ ofPath, ∀ q ∈ ofOperation, ∀ k, place? p = some k →
        place? q = some k → ∃ r ∈ ps, read? q = some r ∧ ∀ r' ∈ ps, r'.place = k → r' = r) ↔
      ∀ p ∈ ofPath, ∀ q ∈ ofOperation, ∀ k, place? p = some k → place? q = some k →
        Replaced ofOperation p) ∧
    ∀ p q k, place? p = some k → place? q = some k → (Parameter.key p = Parameter.key q ↔
      Object.has p "in" = Object.has q "in" ∧
        Parameter.identity p "name" = Parameter.identity q "name") := by
  refine ⟨?_, fun p q k => Parameter.key_eq_iff⟩
  obtain ⟨kept, sublist, kept_iff, read, at_place⟩ := exists_of_parameters declares run
  have places : ps.map place = kept.filterMap place? ++ ofOperation.filterMap place? := by
    rw [read, List.map_filterMap, ← List.filterMap_append]
    exact List.filterMap_congr fun o ho => (at_place o ho).symm
  rw [← nodup_places_iff once once' sublist kept_iff, ← places]
  constructor
  · intro own
    exact own.1
  · intro apart
    refine ⟨apart, ?_⟩
    intro p hp q hq k _ q_place
    -- The operation's own declaration is always kept, so it has been read.
    have in_both : q ∈ kept ++ ofOperation := List.mem_append_right kept hq
    have found := (at_place q in_both).symm.trans q_place
    obtain ⟨r, q_read, rfl⟩ := Option.map_eq_some_iff.mp found
    have inside : r ∈ ps := by
      rw [read]
      exact List.mem_filterMap.mpr ⟨q, in_both, q_read⟩
    refine ⟨r, inside, q_read, ?_⟩
    intro r' hr' same
    exact List.inj_on_of_nodup_map apart hr' inside same

theorem declarations_of_plain {os : List Object} (loop : Option Nat)
    (plain : ∀ o ∈ os, Object.get? o (.text "$ref") = none) :
    s.declarations (.list (os.map fun o => .object o) loop) = .ok os := by
  have resolved : (os.map fun o => Tree.object o).mapM s.resolve =
      .ok (os.map fun o => .object o) := by
    induction os with
    | nil => rfl
    | cons o os ih =>
      have first : s.resolve (.object o) = .ok (.object o) :=
        Reference.resolve_of_plain (plain o List.mem_cons_self)
      rw [List.map_cons, List.mapM_cons, first, ih fun p hp => plain p (List.mem_cons_of_mem o hp)]
      rfl
  have objects : (os.map fun o => Tree.object o).filterMap Tree.object? = os := by
    rw [List.filterMap_map]
    exact List.filterMap_some
  rw [declarations, resolved]
  exact congrArg Except.ok objects

def gallery (ofPath ofOperation : List Object) : Site where
  document := [(.text "paths", .record [("/rooms", .record [
    ("parameters", .list (ofPath.map fun o => .object o)),
    ("get", .record [("parameters", .list (ofOperation.map fun o => .object o))])])])]
  path := .text "/rooms"
  method := .text "get"

theorem declares_gallery {ofPath ofOperation : List Object}
    (plain : ∀ o ∈ ofPath, Object.get? o (.text "$ref") = none)
    (plain' : ∀ o ∈ ofOperation, Object.get? o (.text "$ref") = none) :
    (gallery ofPath ofOperation).Declares ofPath ofOperation := by
  have item : (gallery ofPath ofOperation).item = .ok [
      (.text "parameters", .list (ofPath.map fun o => .object o)),
      (.text "get", .record [("parameters", .list (ofOperation.map fun o => .object o))])] :=
    item_of_plain rfl rfl rfl
  have endpoint : (gallery ofPath ofOperation).endpoint =
      .ok [(.text "parameters", .list (ofOperation.map fun o => .object o))] :=
    endpoint_of_plain item rfl rfl
  exact ⟨rfl, ⟨_, item, declarations_of_plain none plain⟩,
    ⟨_, endpoint, declarations_of_plain none plain'⟩⟩

end

def room : Object := [(.text "name", .text "id"), (.text "in", .text "path")]

def page : Object := [(.text "name", .text "page"), (.text "in", .text "query")]

def newerPage : Object := page ++ [(.text "deprecated", .bool true)]

def barePage : Object := [(.text "name", .text "page")]

theorem gallery_replaces : ∃ ps,
    (gallery [page, room] [newerPage]).Declares [page, room] [newerPage] ∧
    (gallery [page, room] [newerPage]).parameters = .ok ps ∧
    ([page, room].filterMap place?).Nodup ∧ ([newerPage].filterMap place?).Nodup ∧
    (ps.map place).Nodup ∧ ∃ r ∈ ps, read? newerPage = some r ∧
      ∀ r' ∈ ps, r'.place = ("page", .query) → r' = r := by
  have declares : (gallery [page, room] [newerPage]).Declares [page, room] [newerPage] :=
    declares_gallery (by decide) (by decide)
  obtain ⟨ps, run⟩ : ∃ ps, (gallery [page, room] [newerPage]).parameters = .ok ps := by
    rw [parameters_eq declares]
    exact ⟨_, rfl⟩
  have once : ([page, room].filterMap place?).Nodup := by decide
  have once' : ([newerPage].filterMap place?).Nodup := by decide
  have law := (parameters_replaced_iff _ _ _ ps declares run once once').1
  have replaced : ∀ p ∈ [page, room], ∀ q ∈ [newerPage], ∀ k, place? p = some k →
      place? q = some k → Replaced [newerPage] p := by
    intro p hp q hq k p_place q_place
    cases List.mem_singleton.mp hq
    rcases List.mem_pair.mp hp with rfl | rfl
    · exact ⟨newerPage, List.mem_cons_self, rfl⟩
    · have different : place? room ≠ place? newerPage := by decide
      exact absurd (p_place.trans q_place.symm) different
  obtain ⟨apart, own⟩ := law.mpr replaced
  exact ⟨ps, declares, run, once, once', apart, own page (by simp) newerPage (by simp) _ rfl rfl⟩

/-- The page of the path leaves its location out, so it is not replaced by the one in the query, and
both of them are in the query. -/
theorem gallery_doubles : ∃ ps, (gallery [barePage] [page]).Declares [barePage] [page] ∧
    (gallery [barePage] [page]).parameters = .ok ps ∧
    ([barePage].filterMap place?).Nodup ∧ ([page].filterMap place?).Nodup ∧
    place? barePage = some ("page", .query) ∧ place? page = some ("page", .query) ∧
    ps.map place = [("page", .query), ("page", .query)] ∧ ¬ (ps.map place).Nodup := by
  have declares : (gallery [barePage] [page]).Declares [barePage] [page] :=
    declares_gallery (by decide) (by decide)
  obtain ⟨ps, run, twice⟩ : ∃ ps, (gallery [barePage] [page]).parameters = .ok ps ∧
      ps.map place = [("page", .query), ("page", .query)] := by
    rw [parameters_eq declares]
    exact ⟨_, rfl, rfl⟩
  refine ⟨ps, declares, run, by decide, by decide, rfl, rfl, twice, ?_⟩
  rw [twice]
  decide

end Site

end ApiOutline
