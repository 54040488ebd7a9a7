import Mathlib.Algebra.GroupWithZero.Nat
import Mathlib.Data.Int.Basic
import Mathlib.Data.Prod.Lex
import Mathlib.Order.Interval.Basic
import Mathlib.Order.Monotone.Basic

/-!
# The proleptic Gregorian calendar

Days are counted from 1970-01-01 and may be negative. A day number splits
into `yearFromDay` and `monthDay`. The split is strictly monotone for the
lexicographic order (`civil_lex`), which is what makes a text that spells out
the fields from the most significant one sort like the instants it names, and
`dayFromCivil` undoes it.
-/

namespace Lib.Calendar

/-- The day number of the first of January. -/
def dayFromYear (y : Int) : Int :=
  365 * (y - 1970) + (y - 1969) / 4 - (y - 1901) / 100 + (y - 1601) / 400

/-- The year a day lies in: an estimate by the mean length of a year, which is
off by at most one, and its correction. -/
def yearFromDay (d : Int) : Int :=
  let y := 1970 + 400 * d / 146097
  if d < dayFromYear y then y - 1
  else if dayFromYear (y + 1) ≤ d then y + 1
  else y

theorem yearFromDay_spec (d : Int) :
    dayFromYear (yearFromDay d) ≤ d ∧ d < dayFromYear (yearFromDay d + 1) := by
  unfold yearFromDay
  generalize estimate : 1970 + 400 * d / 146097 = y
  simp only
  split
  · next early =>
    rw [Int.sub_add_cancel]
    refine ⟨?_, early⟩
    unfold dayFromYear at early ⊢
    omega
  · next notEarly =>
    split
    · next late =>
      refine ⟨late, ?_⟩
      unfold dayFromYear at *
      omega
    · next notLate => omega

theorem dayFromYear_succ (y : Int) :
    dayFromYear y + 365 ≤ dayFromYear (y + 1) ∧ dayFromYear (y + 1) ≤ dayFromYear y + 366 := by
  unfold dayFromYear
  omega

theorem dayFromYear_mono {x y : Int} (h : x ≤ y) : dayFromYear x ≤ dayFromYear y := by
  have strict : StrictMono dayFromYear := strictMono_int_of_lt_succ fun y => by
    have := (dayFromYear_succ y).1
    omega
  exact strict.monotone h

theorem yearFromDay_mono {c d : Int} (h : c ≤ d) : yearFromDay c ≤ yearFromDay d := by
  by_contra hlt
  have hyears : yearFromDay d + 1 ≤ yearFromDay c := by omega
  have hstart := dayFromYear_mono hyears
  have hc := (yearFromDay_spec c).1
  have hd := (yearFromDay_spec d).2
  omega

/-! ## Months -/

/-- Walk along month lengths: the number of the month, counted from `m`, that
the `n`-th day falls in, and its day of that month counted from one. -/
def locate : List Nat → Nat → Nat → Nat × Nat
  | [], m, n => (m, n + 1)
  | length :: rest, m, n =>
    if n < length then (m, n + 1) else locate rest (m + 1) (n - length)

theorem le_locate (lengths : List Nat) (m n : Nat) : m ≤ (locate lengths m n).1 := by
  induction lengths generalizing m n with
  | nil => exact Nat.le_refl m
  | cons length rest ih =>
    simp only [locate]
    split
    · exact Nat.le_refl m
    · exact Nat.le_trans (Nat.le_succ m) (ih (m + 1) (n - length))

/-- Later days have a later month, or a later day of the same month. -/
theorem locate_lex (lengths : List Nat) (m : Nat) {j k : Nat} (h : j < k) :
    (locate lengths m j).1 < (locate lengths m k).1 ∨
      (locate lengths m j).1 = (locate lengths m k).1 ∧
        (locate lengths m j).2 < (locate lengths m k).2 := by
  induction lengths generalizing m j k with
  | nil => exact Or.inr ⟨rfl, Nat.succ_lt_succ h⟩
  | cons length rest ih =>
    simp only [locate]
    by_cases hj : j < length
    · simp only [hj, ↓reduceIte]
      split
      · exact Or.inr ⟨rfl, Nat.succ_lt_succ h⟩
      · exact Or.inl (le_locate rest (m + 1) (k - length))
    · have hk : ¬k < length := by omega
      simp only [hj, hk, ↓reduceIte]
      exact ih (m + 1) (by omega)

theorem locate_bounds (lengths : List Nat) (m n b : Nat) (hb : ∀ l ∈ lengths, l ≤ b)
    (hn : n < lengths.sum) :
    (locate lengths m n).1 < m + lengths.length ∧ (locate lengths m n).2 ≤ b := by
  induction lengths generalizing m n with
  | nil => simp only [List.sum_nil, Nat.not_lt_zero] at hn
  | cons length rest ih =>
    simp only [List.sum_cons] at hn
    simp only [locate, List.length_cons]
    split
    · next inside =>
      have := hb length List.mem_cons_self
      exact ⟨by omega, by omega⟩
    · next past =>
      obtain ⟨hmonth, hday⟩ := ih (m + 1) (n - length)
        (fun l hl => hb l (List.mem_cons_of_mem length hl)) (by omega)
      exact ⟨by omega, hday⟩

/-- The lengths of the months of a year; February takes what the others leave. -/
def monthLengths (y : Int) : List Nat :=
  [31, (dayFromYear (y + 1) - dayFromYear y).toNat - 337, 31, 30, 31, 30, 31, 31, 30, 31, 30, 31]

theorem monthLengths_sum (y : Int) :
    ((monthLengths y).sum : Int) = dayFromYear (y + 1) - dayFromYear y := by
  have := dayFromYear_succ y
  simp only [monthLengths, List.sum_cons, List.sum_nil]
  omega

theorem monthLengths_le (y : Int) : ∀ l ∈ monthLengths y, l ≤ 31 := by
  have := dayFromYear_succ y
  intro l hl
  simp only [monthLengths, List.mem_cons, List.not_mem_nil, or_false] at hl
  omega

def monthDay (d : Int) : Nat × Nat :=
  locate (monthLengths (yearFromDay d)) 1 (d - dayFromYear (yearFromDay d)).toNat

theorem monthDay_bounds (d : Int) : (monthDay d).1 ≤ 12 ∧ (monthDay d).2 ≤ 31 := by
  have hspec := yearFromDay_spec d
  have hsum := monthLengths_sum (yearFromDay d)
  have hb := locate_bounds (monthLengths (yearFromDay d)) 1
    (d - dayFromYear (yearFromDay d)).toNat 31 (monthLengths_le _) (by omega)
  have hlen : (monthLengths (yearFromDay d)).length = 12 := rfl
  unfold monthDay
  omega

/-- **The calendar is strictly monotone** in the lexicographic order of year,
month and day. -/
theorem civil_lex {c d : Int} (h : c < d) :
    yearFromDay c < yearFromDay d ∨
      yearFromDay c = yearFromDay d ∧
        ((monthDay c).1 < (monthDay d).1 ∨
          (monthDay c).1 = (monthDay d).1 ∧ (monthDay c).2 < (monthDay d).2) := by
  rcases lt_or_eq_of_le (yearFromDay_mono (le_of_lt h)) with hlt | heq
  · exact Or.inl hlt
  · refine Or.inr ⟨heq, ?_⟩
    have hc := (yearFromDay_spec c).1
    unfold monthDay
    rw [heq] at hc ⊢
    exact locate_lex _ 1 (by omega)

/-! ## From the fields back to the day -/

/-- The place that `locate` has found. -/
theorem locate_place (lengths : List Nat) (m n : Nat) :
    (lengths.take ((locate lengths m n).1 - m)).sum + ((locate lengths m n).2 - 1) = n := by
  induction lengths generalizing m n with
  | nil => simp only [locate, List.take_nil, List.sum_nil, Nat.zero_add, Nat.add_sub_cancel]
  | cons length rest ih =>
    simp only [locate]
    split
    · simp only [Nat.sub_self, List.take_zero, List.sum_nil, Nat.zero_add, Nat.add_sub_cancel]
    · next past =>
      have month := le_locate rest (m + 1) (n - length)
      have place := ih (m + 1) (n - length)
      rw [show (locate rest (m + 1) (n - length)).1 - m =
          (locate rest (m + 1) (n - length)).1 - (m + 1) + 1 by omega,
        List.take_succ_cons, List.sum_cons]
      omega

def dayFromCivil (y : Int) (month date : Nat) : Int :=
  dayFromYear y + (((monthLengths y).take (month - 1)).sum + (date - 1) : Nat)

/-- **A day is determined by its fields.** -/
theorem dayFromCivil_monthDay (d : Int) :
    dayFromCivil (yearFromDay d) (monthDay d).1 (monthDay d).2 = d := by
  have hspec := (yearFromDay_spec d).1
  unfold dayFromCivil monthDay
  rw [locate_place]
  omega

end Lib.Calendar
