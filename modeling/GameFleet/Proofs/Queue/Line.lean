import GameFleet.Proofs.Queue.Deeds
import Mathlib.Data.List.Nodup

/-!
# The line of dispatches

Dispatches stand in line, and only the first of them has a task in hand, or what follows one.

- `LineUp`: the invariant: who stands in line, and who is busy.
- `LineUp.of_does`: every move keeps it.
- `LineUp.eq_of_busy`, `LineUp.length_inHand_le`: at most one thread is busy, and one task in hand.
-/

namespace GameFleet

/-- The threads in line are those that have something in hand, and only the first is busy. -/
structure LineUp (hands : List Hand) (line : List Nat) : Prop where
  nodup : line.Nodup
  mem_iff : ∀ tid, tid ∈ line ↔ ∃ h, hands[tid]? = some h ∧ h ≠ .free
  head : ∀ tid t, hands[tid]? = some (.busy t) → line.head? = some tid

/-- A hand with a task is busy. -/
theorem Hand.busy_of_task? {h : Hand} {t : Task} (ht : h.task? = some t) : ∃ s, h = .busy s := by
  cases h with
  | busy s => exact ⟨s, rfl⟩
  | free => cases ht
  | inLine => cases ht

/-- Something comes of one element of a list at most. -/
theorem length_filterMap_le_one {α β : Type} {f : α → Option β} {l : List α}
    (h : ∀ (i j : Nat) (a b : α) (x y : β), l[i]? = some a → l[j]? = some b → f a = some x →
      f b = some y → i = j) :
    (l.filterMap f).length ≤ 1 := by
  induction l with
  | nil => exact Nat.zero_le 1
  | cons a rest ih =>
    have hrest := ih fun i j b c x y hb hc hx hy =>
      Nat.succ.inj (h (i + 1) (j + 1) b c x y hb hc hx hy)
    cases ha : f a with
    | none => rwa [List.filterMap_cons_none ha]
    | some x =>
      have hnone : rest.filterMap f = [] := by
        refine List.filterMap_eq_nil_iff.mpr fun b hb => ?_
        obtain ⟨j, hj⟩ := List.mem_iff_getElem?.mp hb
        by_contra hne
        obtain ⟨y, hy⟩ := Option.ne_none_iff_exists'.mp hne
        cases h 0 (j + 1) a b x y rfl hj ha hy
      rw [List.filterMap_cons_some ha, hnone]
      exact Nat.le_refl 1

/-- What the hands are once one of them has changed. -/
theorem getElem?_set_iff {hands : List Hand} {tid k : Nat} {h h' x : Hand}
    (hhand : hands[tid]? = some h) :
    (hands.set tid h')[k]? = some x ↔ (k = tid ∧ x = h') ∨ (k ≠ tid ∧ hands[k]? = some x) := by
  by_cases hk : k = tid
  · subst hk
    rw [List.getElem?_set_self (List.getElem?_eq_some_iff.mp hhand).1]
    constructor
    · intro hx
      exact .inl ⟨rfl, (Option.some.inj hx).symm⟩
    · rintro (⟨-, rfl⟩ | ⟨hne, -⟩)
      · rfl
      · exact absurd rfl hne
  · rw [List.getElem?_set_ne fun h => hk h.symm]
    constructor
    · exact fun hx => .inr ⟨hk, hx⟩
    · rintro (⟨heq, -⟩ | ⟨-, hx⟩)
      · exact absurd heq hk
      · exact hx

namespace LineUp

variable {hands : List Hand} {line : List Nat} {tid : Nat} {hand : Hand} {t : Option Task}

/-- Only one thread is busy. -/
theorem eq_of_busy (h : LineUp hands line) {i j : Nat} {s t : Option Task}
    (hi : hands[i]? = some (.busy s)) (hj : hands[j]? = some (.busy t)) : i = j :=
  Option.some.inj ((h.head i s hi).symm.trans (h.head j t hj))

/-- Another thread comes. -/
theorem append_free (h : LineUp hands line) : LineUp (hands ++ [.free]) line := by
  have hiff : ∀ (k : Nat) (x : Hand), (hands ++ [Hand.free])[k]? = some x → x ≠ Hand.free →
      hands[k]? = some x := by
    intro k x hx hne
    by_cases hk : k < hands.length
    · rwa [List.getElem?_append_left hk] at hx
    · rw [List.getElem?_append_right (Nat.le_of_not_lt hk)] at hx
      obtain ⟨hlt, hx⟩ := List.getElem?_eq_some_iff.mp hx
      rw [List.getElem_singleton] at hx
      exact absurd hx.symm hne
  refine ⟨h.nodup, fun k => ?_, fun k s hk => h.head k s (hiff k _ hk nofun)⟩
  rw [h.mem_iff]
  constructor
  · rintro ⟨x, hx, hne⟩
    have hlt := (List.getElem?_eq_some_iff.mp hx).1
    exact ⟨x, by rwa [List.getElem?_append_left hlt], hne⟩
  · rintro ⟨x, hx, hne⟩
    exact ⟨x, hiff k x hx hne, hne⟩

/-- A thread joins the line at its end. -/
theorem set_inLine (h : LineUp hands line) (hhand : hands[tid]? = some .free) :
    LineUp (hands.set tid .inLine) (line ++ [tid]) := by
  have hout : tid ∉ line := by
    intro hmem
    obtain ⟨x, hx, hne⟩ := (h.mem_iff tid).mp hmem
    rw [hhand] at hx
    exact hne (Option.some.inj hx).symm
  refine ⟨?_, fun k => ?_, fun k s hk => ?_⟩
  -- The head of the line stays, since whoever is busy stands there already.
  · rw [List.nodup_append]
    refine ⟨h.nodup, List.nodup_singleton _, fun x hx y hy => ?_⟩
    rw [List.mem_singleton.mp hy]
    rintro rfl
    exact hout hx
  · rw [List.mem_append, List.mem_singleton, h.mem_iff]
    simp only [getElem?_set_iff hhand]
    constructor
    · rintro (⟨x, hx, hne⟩ | rfl)
      · refine ⟨x, .inr ⟨?_, hx⟩, hne⟩
        rintro rfl
        exact hout ((h.mem_iff k).mpr ⟨x, hx, hne⟩)
      · exact ⟨.inLine, .inl ⟨rfl, rfl⟩, nofun⟩
    · rintro ⟨x, ⟨rfl, -⟩ | ⟨-, hx⟩, hne⟩
      · exact .inr rfl
      · exact .inl ⟨x, hx, hne⟩
  · obtain ⟨-, hx⟩ | ⟨-, hx⟩ := (getElem?_set_iff hhand).mp hk
    · cases hx
    · rw [List.head?_append, h.head k s hx]
      rfl

/-- The thread that is first in line has something else in hand. -/
theorem set_busy (h : LineUp hands line) (hhand : hands[tid]? = some hand)
    (hhead : line.head? = some tid) : LineUp (hands.set tid (.busy t)) line := by
  refine ⟨h.nodup, fun k => ?_, fun k s hk => ?_⟩
  · rw [h.mem_iff]
    simp only [getElem?_set_iff hhand]
    constructor
    · rintro ⟨x, hx, hne⟩
      by_cases hk : k = tid
      · exact ⟨_, .inl ⟨hk, rfl⟩, nofun⟩
      · exact ⟨x, .inr ⟨hk, hx⟩, hne⟩
    · rintro ⟨x, ⟨rfl, rfl⟩ | ⟨-, hx⟩, hne⟩
      · exact (h.mem_iff k).mp (List.mem_of_head? hhead)
      · exact ⟨x, hx, hne⟩
  · obtain ⟨rfl, -⟩ | ⟨-, hx⟩ := (getElem?_set_iff hhand).mp hk
    · exact hhead
    · exact h.head k s hx

/-- A thread leaves the line. -/
theorem set_free (h : LineUp hands line) (hhand : hands[tid]? = some hand) :
    LineUp (hands.set tid .free) (line.erase tid) := by
  refine ⟨h.nodup.erase tid, fun k => ?_, fun k s hk => ?_⟩
  · rw [h.nodup.mem_erase_iff, h.mem_iff]
    simp only [getElem?_set_iff hhand]
    constructor
    · rintro ⟨hne, x, hx, hfree⟩
      exact ⟨x, .inr ⟨hne, hx⟩, hfree⟩
    · rintro ⟨x, ⟨-, rfl⟩ | ⟨hne, hx⟩, hfree⟩
      · exact absurd rfl hfree
      · exact ⟨hne, x, hx, hfree⟩
  · obtain ⟨-, hx⟩ | ⟨hne, hx⟩ := (getElem?_set_iff hhand).mp hk
    · cases hx
    · have hhead := h.head k s hx
      match line, hhead with
      | k' :: rest, hhead =>
        obtain rfl : k' = k := Option.some.inj hhead
        rw [List.erase_cons_tail (by simpa using hne)]
        rfl

variable {ω : Type} {c c' : Control ω} {e : Option Deed}

/-- With every move only the first in line is busy. -/
theorem of_does (h : LineUp c.hands c.line) (hd : Control.Does c c' e) :
    LineUp c'.hands c'.line := by
  cases hd with
  | nothing hc => exact hc.hands ▸ hc.line ▸ h
  | spawns hc => exact hc.hands ▸ hc.line ▸ h.append_free
  | enqueues _ hc => exact hc.hands ▸ hc.line ▸ h
  | joins hhand hc => exact hc.hands ▸ hc.line ▸ h.set_inLine hhand
  | takes hhand hhead _ hc => exact hc.hands ▸ hc.line ▸ h.set_busy hhand hhead
  | leaves hhand _ hc => exact hc.hands ▸ hc.line ▸ h.set_free hhand
  | runs _ _ _ hc => exact hc.hands ▸ hc.line ▸ h
  | drops hhand _ hc => exact hc.hands ▸ hc.line ▸ h.set_free hhand
  | returns hhand _ hc => exact hc.hands ▸ hc.line ▸ h.set_free hhand
  | retries hhand _ _ _ _ _ hc => exact hc.hands ▸ hc.line ▸ h.set_free hhand
  | succeeds hhand hc => exact hc.hands ▸ hc.line ▸ h.set_busy hhand (h.head _ _ hhand)
  | fails hhand _ _ hc => exact hc.hands ▸ hc.line ▸ h.set_busy hhand (h.head _ _ hhand)

/-- At most one task is in hand. -/
theorem length_inHand_le (h : LineUp c.hands c.line) : c.inHand.length ≤ 1 := by
  refine length_filterMap_le_one fun i j _ _ _ _ hi hj hx hy => ?_
  obtain ⟨s, rfl⟩ := Hand.busy_of_task? hx
  obtain ⟨t, rfl⟩ := Hand.busy_of_task? hy
  exact h.eq_of_busy hi hj

end LineUp

end GameFleet
