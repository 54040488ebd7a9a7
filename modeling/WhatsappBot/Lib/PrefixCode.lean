import Mathlib.Logic.Function.Basic

/-!
# Self-delimiting codes

A code is *delimited* when what follows a code word can be cut off in one way
only. Such codes compose: terminated texts, fields one after the other,
optional fields. A delimited code is injective.
-/

namespace Lib.PrefixCode

universe u v w

variable {α : Type u} {β : Type v} {γ : Type w}

/-- What follows a code word is determined, and so is the word. -/
structure Delimited (code : α → List β) : Prop where
  cut : ∀ {a b : α} {x y : List β}, code a ++ x = code b ++ y → a = b ∧ x = y

namespace Delimited

variable {code : α → List β}

theorem injective (h : Delimited code) : Function.Injective code := by
  intro a b same
  have followed : code a ++ [] = code b ++ [] := by rw [same]
  exact (h.cut followed).1

theorem of_decode (decode : List β → Option (α × List β))
    (inverse : ∀ a x, decode (code a ++ x) = some (a, x)) : Delimited code := by
  refine ⟨fun {a b x y} same => ?_⟩
  have decoded := inverse a x
  rw [same, inverse b y] at decoded
  cases decoded
  exact ⟨rfl, rfl⟩

theorem comp (h : Delimited code) {f : γ → α} (inj : Function.Injective f) :
    Delimited fun c => code (f c) := by
  refine ⟨fun {c d x y} same => ?_⟩
  obtain ⟨image, rest⟩ := h.cut same
  exact ⟨inj image, rest⟩

/-- A fixed text in front. -/
theorem after (h : Delimited code) (opening : List β) : Delimited fun a => opening ++ code a := by
  refine ⟨fun {a b x y} same => ?_⟩
  simp only [List.append_assoc, List.append_cancel_left_eq] at same
  exact h.cut same

/-- A fixed text behind. -/
theorem before (h : Delimited code) (closing : List β) : Delimited fun a => code a ++ closing := by
  refine ⟨fun {a b x y} same => ?_⟩
  simp only [List.append_assoc] at same
  obtain ⟨value, rest⟩ := h.cut same
  exact ⟨value, List.append_cancel_left rest⟩

/-- Two fields one after the other. -/
theorem pair {code' : γ → List β} (h : Delimited code) (h' : Delimited code') :
    Delimited fun p : α × γ => code p.1 ++ code' p.2 := by
  refine ⟨fun {p q x y} same => ?_⟩
  simp only [List.append_assoc] at same
  obtain ⟨first, same⟩ := h.cut same
  obtain ⟨second, rest⟩ := h'.cut same
  exact ⟨Prod.ext first second, rest⟩

/-- A field that may be missing, with another text in its place. -/
theorem option (h : Delimited code) {missing : List β}
    (apart : ∀ a x y, missing ++ x ≠ code a ++ y) :
    Delimited fun a : Option α => a.elim missing code := by
  refine ⟨fun {a b x y} same => ?_⟩
  cases a with
  | none =>
    cases b with
    | none => exact ⟨rfl, List.append_cancel_left same⟩
    | some b => exact absurd same (apart b x y)
  | some a =>
    cases b with
    | none => exact absurd same.symm (apart a y x)
    | some b =>
      obtain ⟨value, rest⟩ := h.cut same
      exact ⟨congrArg some value, rest⟩

/-- A text of delimited letters that ends before a letter which starts none of them. -/
theorem terminated (h : Delimited code) (stop : β)
    (starts : ∀ a, ∃ first rest, code a = first :: rest ∧ first ≠ stop) :
    Delimited fun text : List α => text.flatMap code ++ [stop] := by
  refine ⟨fun {text text' x y} same => ?_⟩
  induction text generalizing text' x y with
  | nil =>
    cases text' with
    | nil => exact ⟨rfl, List.append_cancel_left same⟩
    | cons b text' =>
      obtain ⟨first, rest, word, differs⟩ := starts b
      simp only [List.flatMap_nil, List.nil_append, List.flatMap_cons, word, List.cons_append,
        List.cons.injEq] at same
      exact absurd same.1.symm differs
  | cons a text ih =>
    cases text' with
    | nil =>
      obtain ⟨first, rest, word, differs⟩ := starts a
      simp only [List.flatMap_nil, List.nil_append, List.flatMap_cons, word, List.cons_append,
        List.cons.injEq] at same
      exact absurd same.1 differs
    | cons b text' =>
      simp only [List.flatMap_cons, List.append_assoc] at same
      obtain ⟨letter, same⟩ := h.cut same
      have tails : (text.flatMap code ++ [stop]) ++ x = (text'.flatMap code ++ [stop]) ++ y := by
        simpa only [List.append_assoc] using same
      obtain ⟨letters, rest⟩ := ih tails
      exact ⟨by rw [letter, letters], rest⟩

end Delimited

end Lib.PrefixCode
