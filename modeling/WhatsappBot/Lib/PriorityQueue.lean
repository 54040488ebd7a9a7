import Mathlib.Data.List.Perm.Basic
import Mathlib.Order.Basic

/-!
# Draining a priority queue

A pop answers nothing, or it answers something of an entry with the least key
and leaves the other entries (`Pops`). Popped until it answers nothing, the
queue gives every entry once, in the order of the keys (`Pops.drained`).
-/

namespace Lib.PriorityQueue

universe u v w x y

variable {σ : Type u} {α : Type v} {β : Type w} {ε : Type x} {κ : Type y}

/-- Repeated pops, to the first that answers nothing. -/
inductive Drains (pop : σ → Except ε (Option β × σ)) : σ → List β → σ → Prop where
  | nil {s s' : σ} (empty : pop s = .ok (none, s')) : Drains pop s [] s'
  | cons {s t u : σ} {b : β} {bs : List β} (popped : pop s = .ok (some b, t))
    (rest : Drains pop t bs u) : Drains pop s (b :: bs) u

/-- What one pop does: `contents` are the entries of a state, and `out` what
the pop of an entry answers. -/
inductive PopsAt (contents : σ → List α) (key : α → κ) [LE κ] (out : α → β)
    (pop : σ → Except ε (Option β × σ)) (s : σ) : Prop where
  | empty (spent : contents s = []) {s' : σ} (answer : pop s = .ok (none, s'))
  | least {a : α} {t : σ} (answer : pop s = .ok (some (out a), t))
    (le : ∀ b ∈ contents s, key a ≤ key b) (removed : (a :: contents t).Perm (contents s))

/-- **A drained queue gives every entry once, in order.** -/
theorem drained [LE κ] {contents : σ → List α} {key : α → κ} {out : α → β}
    {pop : σ → Except ε (Option β × σ)}
    (pops : ∀ s, PopsAt contents key out pop s) (s : σ) :
    ∃ (order : List α) (t : σ), Drains pop s (order.map out) t ∧ order.Perm (contents s) ∧
      order.Pairwise fun a b => key a ≤ key b := by
  generalize size : (contents s).length = n
  induction n generalizing s with
  | zero =>
    cases pops s with
    | empty spent answer =>
      rw [spent]
      exact ⟨[], _, .nil answer, .refl _, .nil⟩
    | least answer le removed =>
      have length := removed.length_eq
      rw [size] at length
      cases length
  | succ n ih =>
    cases pops s with
    | empty spent answer =>
      rw [spent] at size
      cases size
    | @least a t answer le removed =>
      have length := removed.length_eq
      rw [size, List.length_cons, Nat.add_right_cancel_iff] at length
      obtain ⟨order, u, drains, perm, ordered⟩ := ih t length
      refine ⟨a :: order, u, .cons answer drains, (perm.cons a).trans removed, ?_⟩
      rw [List.pairwise_cons]
      refine ⟨fun b hb => le b ?_, ordered⟩
      exact removed.subset (List.mem_cons_of_mem a (perm.subset hb))

end Lib.PriorityQueue
