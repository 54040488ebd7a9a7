import Mathlib.Logic.Function.Iterate

/-!
# Programs that run alone

A program that nothing interleaves with is a function on its states. A state
*leads* to every state that it reaches by some number of steps. A state that
steps to itself is an end, and a state leads to at most one end, so what a
program does is known once one path to an end of it is.
-/

namespace Lib.Execution

universe u v

variable {σ : Type u} {τ : Type v} {step : σ → σ} {s t t' : σ}

/-- `t` is reached from `s` by some number of steps. -/
def Leads (step : σ → σ) (s t : σ) : Prop := ∃ n, step^[n] s = t

namespace Leads

theorem refl (s : σ) : Leads step s s := ⟨0, rfl⟩

theorem of_step (h : step s = t) : Leads step s t := ⟨1, h⟩

theorem single (s : σ) : Leads step s (step s) := .of_step rfl

theorem trans {u : σ} (h : Leads step s t) (h' : Leads step t u) : Leads step s u := by
  obtain ⟨n, rfl⟩ := h
  obtain ⟨m, rfl⟩ := h'
  exact ⟨m + n, Function.iterate_add_apply step m n s⟩

theorem head (h : Leads step (step s) t) : Leads step s t := (single s).trans h

/-- A path to an end goes through the first step. -/
theorem tail (h : Leads step s t) (fixed : step t = t) : Leads step (step s) t := by
  obtain ⟨n, rfl⟩ := h
  exact ⟨n, by rw [← Function.iterate_succ_apply, Function.iterate_succ_apply', fixed]⟩

theorem of_fixed (h : Leads step s t) (fixed : step s = s) : t = s := by
  obtain ⟨n, rfl⟩ := h
  exact Function.iterate_fixed fixed n

/-- Whatever lies between a state and its end leads to that end. -/
theorem through (h : Leads step s t) (fixed : step t = t) (mid : Leads step s t') :
    Leads step t' t := by
  obtain ⟨n, rfl⟩ := mid
  induction n generalizing s with
  | zero => exact h
  | succ n ih => exact ih (h.tail fixed)

/-- **A state leads to at most one end.** -/
theorem unique (h : Leads step s t) (fixed : step t = t) (h' : Leads step s t')
    (fixed' : step t' = t') : t = t' :=
  (h.through fixed h').of_fixed fixed'

/-- What every step keeps holds in every state that is reached. -/
theorem invariant {I : σ → Prop} (keeps : ∀ s, I s → I (step s)) (h : Leads step s t)
    (hs : I s) : I t := by
  obtain ⟨n, rfl⟩ := h
  induction n generalizing s with
  | zero => exact hs
  | succ n ih => exact ih (keeps s hs)

/-- One program follows another when it catches up with each of its steps. -/
theorem simulate {step' : τ → τ} (image : σ → τ)
    (follows : ∀ s, Leads step' (image s) (image (step s))) (h : Leads step s t) :
    Leads step' (image s) (image t) := by
  obtain ⟨n, rfl⟩ := h
  induction n generalizing s with
  | zero => exact refl _
  | succ n ih => exact (follows s).trans ih

end Leads

/-- **The loop rule**: a loop whose counter climbs to `n` unless it stops before
reaches `n` or a counter that stops it. -/
theorem leads_climb {n k : Nat} (state : Nat → σ) (stops : Nat → Prop)
    (turns : ∀ k < n, ¬stops k → ∃ k', k < k' ∧ k' ≤ n ∧ step (state k) = state k')
    (le : k ≤ n) : ∃ k', k' ≤ n ∧ (k' = n ∨ stops k') ∧ Leads step (state k) (state k') := by
  induction left : n - k using Nat.strongRecOn generalizing k with
  | ind m ih =>
    by_cases goes : k < n ∧ ¬stops k
    · obtain ⟨k', lt, le', turned⟩ := turns k goes.1 goes.2
      obtain ⟨k'', le'', exits, leads⟩ := ih (n - k') (by omega) le' rfl
      exact ⟨k'', le'', exits, (Leads.of_step turned).trans leads⟩
    · refine ⟨k, le, ?_, .refl _⟩
      by_cases stop : stops k
      · exact Or.inr stop
      · exact Or.inl (by by_contra differs; exact goes ⟨by omega, stop⟩)

end Lib.Execution
