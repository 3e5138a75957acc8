/-
  Receiverless/Order.lean
  =======================
  **Sorting by insertion.**  Modifier lists and the sets shown in answers are
  short, and insertion sort is stable and computes by structural recursion, so
  it is the only sort of the library.
-/

namespace Receiverless.Order

variable {α : Type}

/-- Put `a` in front of the first element that it does not exceed. -/
def insert (le : α → α → Bool) (a : α) : List α → List α
  | [] => [a]
  | b :: bs => if le a b then a :: b :: bs else b :: insert le a bs

/-- A stable sort: elements that compare equal keep their order. -/
def sort (le : α → α → Bool) (as : List α) : List α :=
  as.foldr (insert le) []

/-- Keep one occurrence of each element, the last one. -/
def distinct [DecidableEq α] : List α → List α
  | [] => []
  | a :: as => if a ∈ as then distinct as else a :: distinct as

/-- The elements of a list as a set, written in increasing order. -/
def asSet [DecidableEq α] (le : α → α → Bool) (as : List α) : List α :=
  sort le (distinct as)

end Receiverless.Order
