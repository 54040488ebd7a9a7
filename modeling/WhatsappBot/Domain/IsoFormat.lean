import WhatsappBot.Domain.Time

/-!
# Reading the ISO format

The texts that `toISOString` writes name one date each, and `Date.ofIso` reads
it back.
-/

namespace WhatsappBot

open Lib.Calendar Lib.TextOrder

namespace Date

/-- The year of an ISO text, and what follows it. -/
def readYear (cs : List Char) : Int × List Char :=
  if cs.head? = some '+' then (numeral 6 (cs.drop 1), (cs.drop 1).drop 6)
  else if cs.head? = some '-' then (-(numeral 6 (cs.drop 1) : Int), (cs.drop 1).drop 6)
  else (numeral 4 cs, cs.drop 4)

/-- The date that an ISO text names. -/
def ofIso (text : String) : Option Date :=
  let (year, rest) := readYear text.toList
  match numerals [2, 2, 2, 2, 2, 3] rest with
  | [month, date, hour, minute, second, ms] =>
    (ofMs (dayFromCivil year month date * 86400000 + hour * 3600000 + minute * 60000 +
      second * 1000 + ms)).filter fun read => read.toISOString = text
  | _ => none

theorem readYear_isoYear (d : Date) (rest : List Char) :
    readYear (d.isoYear ++ rest) = (d.year, rest) := by
  have bounds := d.year_bounds
  unfold isoYear
  split
  · next inFour =>
    obtain ⟨c, cs, digit, heq⟩ := pad_eq_cons 3 d.year.toNat
    have unsigned : ∀ c < 10, Nat.digitChar c ≠ '+' ∧ Nat.digitChar c ≠ '-' := by decide
    have head : (pad 4 d.year.toNat ++ rest).head? = some (Nat.digitChar c) := by
      rw [heq]
      rfl
    rw [readYear, head, if_neg fun h => (unsigned c digit).1 (Option.some.inj h),
      if_neg fun h => (unsigned c digit).2 (Option.some.inj h), numeral_pad, drop_pad,
      Nat.mod_eq_of_lt (by omega)]
    exact Prod.ext (by dsimp only; omega) rfl
  · split
    · next negative =>
      rw [readYear, List.cons_append, List.head?_cons, if_neg (by decide), if_pos rfl,
        List.drop_one, List.tail_cons, numeral_pad, drop_pad, Nat.mod_eq_of_lt (by omega)]
      exact Prod.ext (by dsimp only; omega) rfl
    · next positive =>
      rw [readYear, List.cons_append, List.head?_cons, if_pos rfl, List.drop_one,
        List.tail_cons, numeral_pad, drop_pad, Nat.mod_eq_of_lt (by omega)]
      exact Prod.ext (by dsimp only; omega) rfl

theorem ofMs_ms (d : Date) : ofMs d.ms = some d := dif_pos d.inRange

/-- **The text of a date is read back as that date.** -/
theorem ofIso_toISOString (d : Date) : ofIso d.toISOString = some d := by
  obtain ⟨month, date⟩ := monthDay_bounds d.day
  have clock : d.timeWithinDay < 86400000 := by
    unfold timeWithinDay
    omega
  have text : d.toISOString.toList = d.isoYear ++ d.isoRest := by
    rw [toISOString, String.toList_ofList]
  have rest : numerals [2, 2, 2, 2, 2, 3] d.isoRest =
      [(monthDay d.day).1, (monthDay d.day).2, d.timeWithinDay / 3600000,
        d.timeWithinDay / 60000 % 60, d.timeWithinDay / 1000 % 60, d.timeWithinDay % 1000] := by
    rw [isoRest, numerals_pad, numerals_pad, numerals_pad, numerals_pad, numerals_pad,
      numerals_pad, numerals]
    simp (disch := omega) only [Nat.mod_eq_of_lt]
  have instant : dayFromCivil d.year (monthDay d.day).1 (monthDay d.day).2 * 86400000 +
      (d.timeWithinDay / 3600000 : Nat) * 3600000 + (d.timeWithinDay / 60000 % 60 : Nat) * 60000 +
        (d.timeWithinDay / 1000 % 60 : Nat) * 1000 + (d.timeWithinDay % 1000 : Nat) = d.ms := by
    rw [year, dayFromCivil_monthDay]
    unfold day timeWithinDay
    omega
  rw [ofIso, text, readYear_isoYear]
  dsimp only
  rw [rest]
  dsimp only
  rw [instant, ofMs_ms, Option.filter_some, if_pos (decide_eq_true rfl)]

example : ofIso "2030-01-01T08:30:00.000Z" = some ⟨1893486600000, by decide⟩ := by decide +kernel

end Date

end WhatsappBot
