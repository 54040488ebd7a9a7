import Mathlib.Data.String.Basic
import Mathlib.Tactic.Ring

/-!
# Fixed-width numerals

A text made of zero-padded decimal fields of fixed width, most significant
field first, sorts as the tuple of its fields does: a smaller field decides
(`pad_append_lt`), and equal fields and separators are
skipped (`List.append_left_lt`, `separator_lt`). Comparing
such texts character by character is comparing their UTF-8 bytes, since every
character is ASCII. The fields can be read back (`numerals_pad`).
-/

namespace Lib.TextOrder

/-- The decimal numeral of `n` in exactly `width` digits; higher digits of a
longer number are dropped. -/
def pad : Nat → Nat → List Char
  | 0, _ => []
  | width + 1, n => Nat.digitChar (n / 10 ^ width % 10) :: pad width n

theorem digitChar_lt {i j : Nat} (hj : j < 10) (h : i < j) :
    Nat.digitChar i < Nat.digitChar j := by
  have table : ∀ j < 10, ∀ i < j, Nat.digitChar i < Nat.digitChar j := by decide
  exact table j hj i h

theorem separator_lt (c : Char) {x y : List Char} (h : x < y) : c :: x < c :: y :=
  List.cons_lt_cons_iff.mpr (Or.inr ⟨rfl, h⟩)

theorem pad_append_lt_mod (width : Nat) {a b : Nat} (x y : List Char)
    (h : a % 10 ^ width < b % 10 ^ width) : pad width a ++ x < pad width b ++ y := by
  induction width with
  | zero => simp only [Nat.pow_zero, Nat.mod_one, Nat.lt_irrefl] at h
  | succ width ih =>
    rw [Nat.mod_pow_succ, Nat.mod_pow_succ] at h
    simp only [pad, List.cons_append]
    rw [List.cons_lt_cons_iff]
    have ha := Nat.mod_lt a (Nat.pow_pos (n := width) (by decide : 0 < 10))
    have hb := Nat.mod_lt b (Nat.pow_pos (n := width) (by decide : 0 < 10))
    rcases Nat.lt_trichotomy (a / 10 ^ width % 10) (b / 10 ^ width % 10) with hlt | heq | hgt
    · exact Or.inl (digitChar_lt (Nat.mod_lt _ (by decide)) hlt)
    · rw [heq] at h ⊢
      exact Or.inr ⟨rfl, ih (by omega)⟩
    · have hmul := Nat.mul_le_mul_left (10 ^ width) (Nat.succ_le_of_lt hgt)
      rw [Nat.mul_succ] at hmul
      omega

/-- **A smaller field decides**, whatever follows it. -/
theorem pad_append_lt (width : Nat) {a b : Nat} (x y : List Char) (hb : b < 10 ^ width)
    (h : a < b) :
    pad width a ++ x < pad width b ++ y := by
  apply pad_append_lt_mod
  rw [Nat.mod_eq_of_lt hb, Nat.mod_eq_of_lt (Nat.lt_trans h hb)]
  exact h

/-- A padded numeral of positive width starts with a digit. -/
theorem pad_eq_cons (width n : Nat) : ∃ d ds, d < 10 ∧
    pad (width + 1) n = Nat.digitChar d :: ds :=
  ⟨n / 10 ^ width % 10, pad width n, Nat.mod_lt _ (by decide), rfl⟩

/-! ## Reading numerals back -/

/-- The number that the first `width` characters spell out, after `n`. -/
def numeralFrom : Nat → Nat → List Char → Nat
  | 0, n, _ => n
  | _ + 1, n, [] => n
  | width + 1, n, c :: cs => numeralFrom width (10 * n + (c.toNat - 48)) cs

def numeral (width : Nat) (cs : List Char) : Nat := numeralFrom width 0 cs

theorem toNat_digitChar {d : Nat} (h : d < 10) : (Nat.digitChar d).toNat - 48 = d := by
  have table : ∀ d < 10, (Nat.digitChar d).toNat - 48 = d := by decide
  exact table d h

theorem numeralFrom_pad (width n k : Nat) (rest : List Char) :
    numeralFrom width n (pad width k ++ rest) = 10 ^ width * n + k % 10 ^ width := by
  induction width generalizing n with
  | zero => simp only [numeralFrom, Nat.pow_zero, Nat.mod_one, Nat.add_zero, Nat.one_mul]
  | succ width ih =>
    simp only [pad, List.cons_append, numeralFrom]
    rw [ih, toNat_digitChar (Nat.mod_lt _ (by decide)), Nat.mod_pow_succ]
    ring

@[simp] theorem numeral_pad (width k : Nat) (rest : List Char) :
    numeral width (pad width k ++ rest) = k % 10 ^ width := by
  rw [numeral, numeralFrom_pad, Nat.mul_zero, Nat.zero_add]

@[simp] theorem length_pad (width k : Nat) : (pad width k).length = width := by
  induction width with
  | zero => rfl
  | succ width ih => rw [pad, List.length_cons, ih]

@[simp] theorem drop_pad (width k : Nat) (rest : List Char) :
    (pad width k ++ rest).drop width = rest := by
  rw [List.drop_append_of_le_length (by rw [length_pad]),
    List.drop_of_length_le (by rw [length_pad]), List.nil_append]

/-- The numerals of these widths, each after one separator. -/
def numerals : List Nat → List Char → List Nat
  | [], _ => []
  | width :: widths, cs =>
    numeral width (cs.drop 1) :: numerals widths ((cs.drop 1).drop width)

@[simp] theorem numerals_pad (width : Nat) (widths : List Nat) (c : Char) (k : Nat)
    (rest : List Char) :
    numerals (width :: widths) (c :: (pad width k ++ rest)) =
      k % 10 ^ width :: numerals widths rest := by
  rw [numerals, List.drop_one, List.tail_cons, numeral_pad, drop_pad]

end Lib.TextOrder
