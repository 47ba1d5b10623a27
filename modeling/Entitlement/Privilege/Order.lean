/-
This file holds the order in which privileges are listed: by component, service, action, scope,
grant option and path, where an unsaid grant option comes first and a yes last.
-/

import Entitlement.Privilege

namespace Entitlement

instance : Ord Step :=
  ⟨compareLex (compareOn Step.type) (compareOn Step.name)⟩

instance : Std.TransOrd Step :=
  inferInstanceAs (Std.TransCmp (compareLex _ _))

namespace Privilege

/-- The place of a grant option among the three. -/
def grantOptionRank : Option Bool → Nat
  | none => 0
  | some false => 1
  | some true => 2

instance : Ord Privilege :=
  ⟨compareLex (compareOn component) <| compareLex (compareOn service) <|
    compareLex (compareOn action) <| compareLex (compareOn scope) <|
    compareLex (compareOn fun privilege => grantOptionRank privilege.grantOption)
      (compareOn steps)⟩

instance : Std.TransOrd Privilege :=
  inferInstanceAs (Std.TransCmp (compareLex _ (compareLex _ (compareLex _ (compareLex _
    (compareLex _ _))))))

/-- Whether a privilege may stand before another one in a list. -/
def isBefore (left right : Privilege) : Bool :=
  (compare left right).isLE

theorem isBefore_trans (left middle right : Privilege) (first : left.isBefore middle = true)
    (second : middle.isBefore right = true) : left.isBefore right = true :=
  Std.TransOrd.isLE_trans first second

theorem isBefore_total (left right : Privilege) :
    (left.isBefore right || right.isBefore left) = true := by
  unfold isBefore
  rw [Std.OrientedOrd.eq_swap (a := right)]
  cases compare left right <;> rfl

/-- The privileges in order. -/
def sorted (privileges : List Privilege) : List Privilege :=
  privileges.mergeSort isBefore

/-- Sorting neither adds nor loses a privilege. -/
theorem sorted_perm (privileges : List Privilege) : (sorted privileges).Perm privileges :=
  List.mergeSort_perm _ _

theorem pairwise_sorted (privileges : List Privilege) :
    (sorted privileges).Pairwise fun left right => left.isBefore right = true :=
  List.pairwise_mergeSort isBefore_trans isBefore_total _

end Privilege

end Entitlement
