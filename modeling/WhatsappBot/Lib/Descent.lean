import Mathlib.Algebra.BigOperators.Group.List.Basic
import Mathlib.Algebra.Ring.Nat

/-!
# Programs that come to rest

A program that takes an input at each step, driven by a stream of inputs. If a
measure falls with every step that does not start at rest, the program is at
rest after no more steps than the measure of its start (`rests_within`). For
programs on a table, a measure is often a sum over its rows; `sum_map_change`
compares two such sums that differ in one row.
-/

namespace Lib.Descent

universe u v w

variable {σ : Type u} {ι : Type v}

/-- The state after the first `n` inputs. -/
def drive (step : σ → ι → σ) (inputs : Nat → ι) (s : σ) : Nat → σ
  | 0 => s
  | n + 1 => step (drive step inputs s n) (inputs n)

/-- What one step keeps and lowers. -/
structure Descends (step : σ → ι → σ) (G : ι → Prop) (I Rest : σ → Prop) (μ : σ → Nat) : Prop where
  keeps : ∀ {s i}, I s → ¬Rest s → G i → I (step s i)
  falls : ∀ {s i}, I s → ¬Rest s → G i → μ (step s i) < μ s

variable {step : σ → ι → σ} {G : ι → Prop} {I Rest : σ → Prop} {μ : σ → Nat}
  {inputs : Nat → ι} {s : σ}

/-- Up to a step there was rest, or the measure has paid for each step. -/
theorem Descends.paid (h : Descends step G I Rest μ) (granted : ∀ n, G (inputs n)) (start : I s)
    (n : Nat) :
    (∃ m ≤ n, Rest (drive step inputs s m) ∧ ∀ k < m, I (drive step inputs s k) ∧
        ¬Rest (drive step inputs s k)) ∨
      ((∀ k ≤ n, I (drive step inputs s k) ∧ ¬Rest (drive step inputs s k)) ∧
        μ (drive step inputs s n) + n ≤ μ s) := by
  induction n with
  | zero =>
    by_cases rest : Rest s
    · exact Or.inl ⟨0, Nat.le_refl 0, rest, fun k below => absurd below (Nat.not_lt_zero k)⟩
    · refine Or.inr ⟨fun k below => ?_, Nat.le_refl _⟩
      rw [Nat.le_zero.mp below]
      exact ⟨start, rest⟩
  | succ n ih =>
    rcases ih with ⟨m, below, rest, before⟩ | ⟨before, paid⟩
    · exact Or.inl ⟨m, Nat.le_succ_of_le below, rest, before⟩
    · obtain ⟨holds, unrest⟩ := before n (Nat.le_refl n)
      by_cases rest : Rest (drive step inputs s (n + 1))
      · exact Or.inl ⟨n + 1, Nat.le_refl _, rest, fun k below => before k (Nat.le_of_lt_succ below)⟩
      · have lower := h.falls holds unrest (granted n)
        refine Or.inr ⟨fun k below => ?_, ?_⟩
        · rcases Nat.lt_or_ge n k with above | below'
          · rw [Nat.le_antisymm below above]
            exact ⟨h.keeps holds unrest (granted n), rest⟩
          · exact before k below'
        · change μ (step _ _) + (n + 1) ≤ μ s
          omega

/-- **The measure rule**: rest comes within the measure of the start, and up to
it every state satisfied the invariant and was not at rest. -/
theorem Descends.rests_within (h : Descends step G I Rest μ) (granted : ∀ n, G (inputs n))
    (start : I s) :
    ∃ n ≤ μ s, Rest (drive step inputs s n) ∧ ∀ k < n, I (drive step inputs s k) ∧
      ¬Rest (drive step inputs s k) := by
  rcases h.paid granted start (μ s) with ⟨n, below, rest, before⟩ | ⟨before, paid⟩
  · exact ⟨n, below, rest, before⟩
  · obtain ⟨holds, unrest⟩ := before (μ s) (Nat.le_refl _)
    have lower := h.falls holds unrest (granted (μ s))
    omega

/-! ## Sums over tables -/

variable {ρ : Type w} {rows : List ρ} {f g : ρ → Nat}

theorem sum_map_le (le : ∀ a ∈ rows, f a ≤ g a) : (rows.map f).sum ≤ (rows.map g).sum := by
  induction rows with
  | nil => exact Nat.le_refl _
  | cons a rows ih =>
    have head := le a List.mem_cons_self
    have tail := ih fun b hb => le b (List.mem_cons_of_mem _ hb)
    simp only [List.map_cons, List.sum_cons]
    omega

/-- Two sums whose terms grow at one row only. -/
theorem sum_map_change [DecidableEq ρ] (distinct : rows.Nodup) {a : ρ} (mem : a ∈ rows)
    (others : ∀ b ∈ rows, b ≠ a → f b ≤ g b) :
    (rows.map f).sum + g a ≤ (rows.map g).sum + f a := by
  have rest : ((rows.erase a).map f).sum ≤ ((rows.erase a).map g).sum := by
    refine sum_map_le fun b hb => ?_
    obtain ⟨ne, hb⟩ := (List.Nodup.mem_erase_iff distinct).mp hb
    exact others b hb ne
  have left := List.sum_map_erase f mem
  have right := List.sum_map_erase g mem
  omega

end Lib.Descent
