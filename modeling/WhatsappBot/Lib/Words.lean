import Mathlib.Data.List.Basic
import Mathlib.Data.List.DropRight

/-!
# Words and gaps

A text over any alphabet, cut by a predicate into maximal runs: words of elements
that are not blank, and gaps of blank ones between them. Every text that neither
starts nor ends blank is cut in exactly one way.
-/

namespace Lib.Words

universe u

variable {α : Type u} {blank : α → Bool}

/-- The first word, and each later word after the gap before it. -/
def spread : List α → List (List α × List α) → List α
  | first, [] => first
  | first, (gap, word) :: rest => first ++ (gap ++ spread word rest)

def IsWord (blank : α → Bool) (word : List α) : Prop := word ≠ [] ∧ ∀ c ∈ word, blank c = false

def IsGap (blank : α → Bool) (gap : List α) : Prop := gap ≠ [] ∧ ∀ c ∈ gap, blank c = true

/-- Words and gaps are what they are called. -/
def Spaced (blank : α → Bool) : List α → List (List α × List α) → Prop
  | first, [] => IsWord blank first
  | first, (gap, word) :: rest => IsWord blank first ∧ IsGap blank gap ∧ Spaced blank word rest

variable {first : List α} {rest : List (List α × List α)}

theorem Spaced.word (h : Spaced blank first rest) : IsWord blank first := by
  cases rest with
  | nil => exact h
  | cons _ _ => exact h.1

theorem Spaced.gap (h : Spaced blank first rest) : ∀ step ∈ rest, IsGap blank step.1 := by
  induction rest generalizing first with
  | nil => exact fun step mem => absurd mem List.not_mem_nil
  | cons step rest ih =>
    rw [List.forall_mem_cons]
    exact ⟨h.2.1, ih h.2.2⟩

/-- A text of words starts with its first word. -/
theorem spread_eq_append (first : List α) (rest : List (List α × List α)) :
    ∃ more, spread first rest = first ++ more := by
  cases rest with
  | nil => exact ⟨[], (List.append_nil first).symm⟩
  | cons step rest => exact ⟨_, rfl⟩

theorem spread_head (h : Spaced blank first rest) :
    ∃ c more, spread first rest = c :: more ∧ blank c = false := by
  obtain ⟨more, eq⟩ := spread_eq_append first rest
  obtain ⟨c, others, rfl⟩ := List.exists_cons_of_ne_nil h.word.1
  exact ⟨c, others ++ more, eq, h.word.2 c List.mem_cons_self⟩

theorem spread_last (h : Spaced blank first rest) :
    ∃ before c, spread first rest = before ++ [c] ∧ blank c = false := by
  induction rest generalizing first with
  | nil =>
    have parts := List.dropLast_append_getLast h.1
    exact ⟨_, _, parts.symm, h.2 _ (List.getLast_mem h.1)⟩
  | cons step rest ih =>
    obtain ⟨before, c, eq, visible⟩ := ih h.2.2
    refine ⟨first ++ (step.1 ++ before), c, ?_, visible⟩
    simp only [spread, eq, List.append_assoc]

/-- The white space around a text of words. -/
theorem dropWhile_spread (h : Spaced blank first rest) {lead : List α}
    (around : ∀ c ∈ lead, blank c = true) (trail : List α) :
    (lead ++ (spread first rest ++ trail)).dropWhile blank = spread first rest ++ trail := by
  obtain ⟨c, more, eq, visible⟩ := spread_head h
  rw [List.dropWhile_append_of_pos around, eq, List.cons_append, List.dropWhile_cons_of_neg]
  rw [visible]
  decide

theorem rdropWhile_spread (h : Spaced blank first rest) {trail : List α}
    (around : ∀ c ∈ trail, blank c = true) :
    (spread first rest ++ trail).rdropWhile blank = spread first rest := by
  obtain ⟨before, c, eq, visible⟩ := spread_last h
  rw [List.rdropWhile, List.reverse_append,
    List.dropWhile_append_of_pos fun d mem => around d (List.mem_reverse.mp mem), eq,
    List.reverse_append, List.reverse_singleton, List.singleton_append, List.dropWhile_cons_of_neg,
    List.reverse_cons, List.reverse_reverse]
  rw [visible]
  decide

/-! ## Every text has its words -/

/-- The run that a text starts with. -/
theorem takeWhile_run {p : α → Bool} {run more : List α} (all : ∀ c ∈ run, p c = true)
    (stops : ∀ c ∈ more.head?, p c = false) :
    (run ++ more).takeWhile p = run ∧ (run ++ more).dropWhile p = more := by
  rw [List.takeWhile_append_of_pos all, List.dropWhile_append_of_pos all]
  cases more with
  | nil => exact ⟨List.append_nil _, rfl⟩
  | cons c more =>
    have stop : ¬p c = true := by
      rw [stops c rfl]
      decide
    rw [List.takeWhile_cons_of_neg stop, List.dropWhile_cons_of_neg stop]
    exact ⟨List.append_nil _, rfl⟩

/-- A text that ends in a word is a gap, perhaps an empty one, and words. -/
theorem exists_gap_spread {text : List α}
    (ends : ∃ before c, text = before ++ [c] ∧ blank c = false) :
    ∃ gap first rest, (∀ c ∈ gap, blank c = true) ∧ Spaced blank first rest ∧
      text = gap ++ spread first rest := by
  obtain ⟨before, last, rfl, visible⟩ := ends
  induction before with
  | nil =>
    refine ⟨[], [last], [], fun c mem => absurd mem List.not_mem_nil,
      ⟨List.cons_ne_nil _ _, ?_⟩, rfl⟩
    intro c mem
    rwa [List.mem_singleton.mp mem]
  | cons c before ih =>
    obtain ⟨gap, first, rest, blanks, spaced, eq⟩ := ih
    rw [List.cons_append, eq]
    cases kind : blank c with
    | true =>
      refine ⟨c :: gap, first, rest, fun d mem => ?_, spaced, rfl⟩
      rcases List.mem_cons.mp mem with rfl | mem
      · exact kind
      · exact blanks d mem
    | false =>
      cases gap with
      | nil =>
        refine ⟨[], c :: first, rest, fun d mem => absurd mem List.not_mem_nil, ?_, ?_⟩
        · have word : IsWord blank (c :: first) := by
            refine ⟨List.cons_ne_nil _ _, fun d mem => ?_⟩
            rcases List.mem_cons.mp mem with rfl | mem
            · exact kind
            · exact spaced.word.2 d mem
          cases rest with
          | nil => exact word
          | cons step rest => exact ⟨word, spaced.2⟩
        · cases rest <;> rfl
      | cons d gap =>
        refine ⟨[], [c], (d :: gap, first) :: rest, fun e mem => absurd mem List.not_mem_nil,
          ⟨⟨List.cons_ne_nil _ _, fun e mem => ?_⟩, ⟨List.cons_ne_nil _ _, blanks⟩, spaced⟩, rfl⟩
        rwa [List.mem_singleton.mp mem]

theorem exists_spread {text : List α} (starts : ∃ c more, text = c :: more ∧ blank c = false)
    (ends : ∃ before c, text = before ++ [c] ∧ blank c = false) :
    ∃ first rest, Spaced blank first rest ∧ text = spread first rest := by
  obtain ⟨gap, first, rest, blanks, spaced, rfl⟩ := exists_gap_spread ends
  cases gap with
  | nil => exact ⟨first, rest, spaced, rfl⟩
  | cons d gap =>
    obtain ⟨c, more, same, visible⟩ := starts
    cases same
    rw [blanks d List.mem_cons_self] at visible
    cases visible

/-- What is left of a text after its first word. -/
def afterFirst : List (List α × List α) → List α
  | [] => []
  | (gap, word) :: rest => gap ++ spread word rest

theorem spread_first (h : Spaced blank first rest) :
    spread first rest = first ++ afterFirst rest ∧
      (spread first rest).takeWhile (fun c => !blank c) = first ∧
      (spread first rest).dropWhile (fun c => !blank c) = afterFirst rest := by
  have cut : spread first rest = first ++ afterFirst rest := by
    cases rest with
    | nil => exact (List.append_nil first).symm
    | cons _ _ => rfl
  rw [cut]
  refine ⟨rfl, takeWhile_run (fun c mem => ?_) fun c mem => ?_⟩
  · rw [h.word.2 c mem]
    rfl
  · cases rest with
    | nil => cases mem
    | cons step rest =>
      obtain ⟨-, ⟨some_gap, blanks⟩, -⟩ := h
      obtain ⟨d, gap, eq⟩ := List.exists_cons_of_ne_nil some_gap
      rw [afterFirst, eq] at mem
      cases mem
      rw [blanks c (eq ▸ List.mem_cons_self)]
      rfl

/-- **The words are those of one cut only.** -/
theorem spread_inj {first' : List α} {rest' : List (List α × List α)}
    (h : Spaced blank first rest) (h' : Spaced blank first' rest')
    (same : spread first rest = spread first' rest') : first = first' ∧ rest = rest' := by
  induction rest generalizing first first' rest' with
  | nil =>
    obtain ⟨-, word, after⟩ := spread_first h
    obtain ⟨-, word', after'⟩ := spread_first h'
    rw [same] at word after
    refine ⟨word.symm.trans word', ?_⟩
    cases rest' with
    | nil => rfl
    | cons step rest' =>
      rw [after] at after'
      exact absurd (List.append_eq_nil_iff.mp after'.symm).1 h'.2.1.1
  | cons step rest ih =>
    obtain ⟨-, word, after⟩ := spread_first h
    obtain ⟨-, word', after'⟩ := spread_first h'
    rw [same] at word after
    refine ⟨word.symm.trans word', ?_⟩
    rw [after] at after'
    cases rest' with
    | nil => exact absurd (List.append_eq_nil_iff.mp after').1 h.2.1.1
    | cons step' rest' =>
      have cut : ∀ {gap word : List α} {rest : List (List α × List α)}, IsGap blank gap →
          Spaced blank word rest → (gap ++ spread word rest).takeWhile blank = gap ∧
            (gap ++ spread word rest).dropWhile blank = spread word rest := by
        intro gap word rest isGap spaced
        refine takeWhile_run isGap.2 fun c mem => ?_
        obtain ⟨d, more, eq, visible⟩ := spread_head spaced
        rw [eq] at mem
        cases mem
        exact visible
      obtain ⟨gap, later⟩ := cut h.2.1 h.2.2
      obtain ⟨gap', later'⟩ := cut h'.2.1 h'.2.2
      simp only [afterFirst] at after'
      rw [after'] at gap later
      obtain ⟨words, gaps⟩ := ih h.2.2 h'.2.2 (later.symm.trans later')
      exact congrArg₂ List.cons (Prod.ext (gap.symm.trans gap') words) gaps

theorem filter_splitOnP_gap [DecidableEq α] {gap : List α} (blanks : ∀ c ∈ gap, blank c = true)
    (text : List α) :
    ((gap ++ text).splitOnP blank).filter (fun word => decide (word ≠ [])) =
      (text.splitOnP blank).filter (fun word => decide (word ≠ [])) := by
  induction gap with
  | nil => rfl
  | cons c gap ih =>
    have split := List.splitOnP_append_cons (p := blank) [] (gap ++ text)
      (blanks c List.mem_cons_self)
    rw [List.nil_append] at split
    rw [List.cons_append, split, List.splitOnP_nil, List.filter_append,
      ih fun d mem => blanks d (List.mem_cons_of_mem _ mem)]
    rfl

/-- Splitting at each blank element leaves the words, and nothing between them. -/
theorem filter_splitOnP_spread [DecidableEq α] (h : Spaced blank first rest) :
    ((spread first rest).splitOnP blank).filter (fun word => decide (word ≠ [])) =
      first :: rest.map Prod.snd := by
  induction rest generalizing first with
  | nil =>
    rw [spread, List.splitOnP_eq_singleton h.2,
      List.filter_cons_of_pos (p := fun word => decide (word ≠ [])) (decide_eq_true h.1)]
    rfl
  | cons step rest ih =>
    obtain ⟨c, gap, eq⟩ := List.exists_cons_of_ne_nil h.2.1.1
    rw [spread, eq, List.cons_append, List.splitOnP_append_cons_of_forall_mem h.word.2 c
      (h.2.1.2 c (eq ▸ List.mem_cons_self)),
      List.filter_cons_of_pos (p := fun word => decide (word ≠ [])) (decide_eq_true h.word.1),
      filter_splitOnP_gap fun d mem => h.2.1.2 d (eq ▸ List.mem_cons_of_mem _ mem), ih h.2.2]
    rfl

end Lib.Words
