import ApiOutline.Scalar

/-!
What differs from one machine to another: how deep a walk through a value can go before it has to
stop, which depends on the kind of walk, and the order in which the members of a set are listed.
-/
namespace ApiOutline

/-- The most levels of values that are compared, shown, written, and read from either kind of text,
and the order of the members of a set. -/
class Machine where
  comparedLevels : Nat
  shownLevels : Nat
  writtenLevels : Nat
  jsonLevels : Nat
  yamlLevels : Nat
  order : List Scalar → List Scalar
  order_perm : ∀ members, (order members).Perm members

/-- A machine that lists the members of a set in the order in which they were given. -/
instance Machine.usual : Machine where
  comparedLevels := 331
  shownLevels := 990
  writtenLevels := 985
  jsonLevels := 990
  yamlLevels := 490
  order := id
  order_perm := fun _ => .refl _

end ApiOutline
