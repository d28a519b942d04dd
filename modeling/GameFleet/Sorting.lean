/-!
# Sorting

Items are sorted one by one, and those that nothing tells apart stay in the order in which they
came.

- `Sorting.place`: sorted items with one more, before all that it need not follow.
- `Sorting.sorted`: the items in order.
- `Sorting.sorted_perm`: sorting neither loses nor makes up an item.
-/

namespace GameFleet.Sorting

variable {α : Type} (le : α → α → Bool)

/-- Sorted items with one more. -/
def place (a : α) : List α → List α
  | [] => [a]
  | b :: rest => if le a b then a :: b :: rest else b :: place a rest

/-- The items in order. -/
def sorted : List α → List α
  | [] => []
  | a :: rest => place le a (sorted rest)

theorem place_perm (a : α) (items : List α) : (place le a items).Perm (a :: items) := by
  induction items with
  | nil => exact .refl _
  | cons b rest ih =>
    rw [place]
    split
    · exact .refl _
    · exact (ih.cons b).trans (.swap a b rest)

/-- Sorting only changes the order: it neither loses nor makes up an item. -/
theorem sorted_perm (items : List α) : (sorted le items).Perm items := by
  induction items with
  | nil => exact .refl _
  | cons a rest ih => exact (place_perm le a _).trans (ih.cons a)

end GameFleet.Sorting
