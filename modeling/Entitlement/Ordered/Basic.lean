/-
This file says what it means for a list to be in order, each element once. The rows of the
store's tables are kept in such lists, so two tables with the same rows are the same value and
are always written in the same way.
-/

namespace Entitlement

/-- Each element comes before all that follow it. -/
def Increasing {Key : Type} [Ord Key] (keys : List Key) : Prop :=
  keys.Pairwise fun left right => compare left right = .lt

namespace Increasing

variable {Key : Type} [Ord Key]

theorem nil : Increasing ([] : List Key) :=
  List.Pairwise.nil

theorem sublist {keys fewer : List Key} (sub : fewer.Sublist keys) (increasing : Increasing keys) :
    Increasing fewer :=
  List.Pairwise.sublist sub increasing

theorem head_lt {first : Key} {rest : List Key} (increasing : Increasing (first :: rest)) :
    ∀ key ∈ rest, compare first key = .lt :=
  (List.pairwise_cons.1 increasing).1

theorem tail {first : Key} {rest : List Key} (increasing : Increasing (first :: rest)) :
    Increasing rest :=
  (List.pairwise_cons.1 increasing).2

end Increasing

end Entitlement
