import WhatsappBot.Lib.Calendar
import WhatsappBot.Lib.TextOrder

/-!
# Dates and their stored text

Timestamps are stored as the text that `Date.prototype.toISOString` produces
and SQLite compares them byte by byte. `Date.le_of_toISOString_le` and its
converse `Date.toISOString_lt_of_lt` say for which pairs of instants that
comparison is the comparison of the instants (`Date.TextAgrees`).
-/

namespace WhatsappBot

open Lib.Calendar Lib.TextOrder

abbrev Timestamp := String

/-- A valid JavaScript `Date`: a time value in milliseconds since the epoch
inside the range that `Date` can represent. -/
structure Date where
  ms : Int
  inRange : -8640000000000000 ≤ ms ∧ ms ≤ 8640000000000000
deriving DecidableEq

namespace Date

/-- `new Date(ms)`, when it is valid. -/
def ofMs (ms : Int) : Option Date :=
  if inRange : -8640000000000000 ≤ ms ∧ ms ≤ 8640000000000000 then some ⟨ms, inRange⟩ else none

theorem ms_of_ofMs {ms : Int} {d : Date} (h : ofMs ms = some d) : d.ms = ms := by
  unfold ofMs at h
  split at h
  · cases h
    rfl
  · cases h

/-- The day number of the instant. -/
def day (d : Date) : Int := d.ms / 86400000

/-- Milliseconds since the start of the day. -/
def timeWithinDay (d : Date) : Nat := (d.ms % 86400000).toNat

def year (d : Date) : Int := yearFromDay d.day

/-- Year field of the ISO text: four digits, or a sign and six digits. -/
def isoYear (d : Date) : List Char :=
  if 0 ≤ d.year ∧ d.year ≤ 9999 then pad 4 d.year.toNat
  else if d.year < 0 then '-' :: pad 6 (-d.year).toNat
  else '+' :: pad 6 d.year.toNat

/-- The ISO text after the year: `-MM-DDTHH:mm:ss.sssZ`. -/
def isoRest (d : Date) : List Char :=
  '-' :: (pad 2 (monthDay d.day).1 ++ '-' :: (pad 2 (monthDay d.day).2 ++ 'T' ::
    (pad 2 (d.timeWithinDay / 3600000) ++ ':' :: (pad 2 (d.timeWithinDay / 60000 % 60) ++ ':' ::
      (pad 2 (d.timeWithinDay / 1000 % 60) ++ '.' :: (pad 3 (d.timeWithinDay % 1000) ++ ['Z']))))))

def toISOString (d : Date) : Timestamp := String.ofList (d.isoYear ++ d.isoRest)

theorem toISOString_ne_empty (d : Date) : d.toISOString ≠ "" := by
  intro empty
  have text := congrArg String.toList empty
  rw [toISOString, String.toList_ofList, isoRest] at text
  exact List.append_ne_nil_of_right_ne_nil _ (List.cons_ne_nil _ _) text

example : (Date.mk 1893486600000 (by decide)).toISOString = "2030-01-01T08:30:00.000Z" := by decide

example : (Date.mk 253402300800000 (by decide)).toISOString = "+010000-01-01T00:00:00.000Z" := by
  decide

theorem toISOString_lt_iff {a b : Date} :
    a.toISOString < b.toISOString ↔ a.isoYear ++ a.isoRest < b.isoYear ++ b.isoRest := by
  rw [String.lt_iff_toList_lt, toISOString, toISOString, String.toList_ofList, String.toList_ofList]

/-! ## The fields -/

theorem day_mono {a b : Date} (h : a.ms ≤ b.ms) : a.day ≤ b.day := by
  unfold day
  omega

theorem year_mono {a b : Date} (h : a.ms ≤ b.ms) : a.year ≤ b.year :=
  yearFromDay_mono (day_mono h)

theorem year_bounds (d : Date) : -271821 ≤ d.year ∧ d.year ≤ 275760 := by
  have hrange := d.inRange
  have hlow : (-100000000 : Int) ≤ d.day := by unfold day; omega
  have hhigh : d.day ≤ (100000000 : Int) := by unfold day; omega
  have hfirst : yearFromDay (-100000000) = -271821 := by decide
  have hlast : yearFromDay 100000000 = 275760 := by decide
  exact ⟨hfirst ▸ yearFromDay_mono hlow, hlast ▸ yearFromDay_mono hhigh⟩

theorem clock_lt {a b : Date} (hday : a.day = b.day) (h : a.ms < b.ms) :
    a.timeWithinDay < b.timeWithinDay ∧ b.timeWithinDay < 86400000 := by
  unfold day at hday
  unfold timeWithinDay
  omega

theorem isoRest_lt {a b : Date} (hyear : a.year = b.year) (h : a.ms < b.ms) :
    a.isoRest < b.isoRest := by
  obtain ⟨hmonth, hdate⟩ := monthDay_bounds b.day
  unfold isoRest
  apply separator_lt
  rcases lt_or_eq_of_le (day_mono (le_of_lt h)) with hlt | hday
  · rcases civil_lex hlt with hy | ⟨-, hm | ⟨hm, hd⟩⟩
    · exact absurd hyear (ne_of_lt hy)
    · exact pad_append_lt 2 _ _ (by omega) hm
    · rw [hm]
      apply List.append_left_lt
      apply separator_lt
      exact pad_append_lt 2 _ _ (by omega) hd
  · obtain ⟨hclock, hbound⟩ := clock_lt hday h
    rw [hday]
    apply List.append_left_lt
    apply separator_lt
    apply List.append_left_lt
    apply separator_lt
    -- the most significant of hour, minute, second and millisecond that differs decides
    by_cases hhour : a.timeWithinDay / 3600000 < b.timeWithinDay / 3600000
    · exact pad_append_lt 2 _ _ (by omega) hhour
    rw [show a.timeWithinDay / 3600000 = b.timeWithinDay / 3600000 by omega]
    apply List.append_left_lt
    apply separator_lt
    by_cases hminute : a.timeWithinDay / 60000 % 60 < b.timeWithinDay / 60000 % 60
    · exact pad_append_lt 2 _ _ (by omega) hminute
    rw [show a.timeWithinDay / 60000 % 60 = b.timeWithinDay / 60000 % 60 by omega]
    apply List.append_left_lt
    apply separator_lt
    by_cases hsecond : a.timeWithinDay / 1000 % 60 < b.timeWithinDay / 1000 % 60
    · exact pad_append_lt 2 _ _ (by omega) hsecond
    rw [show a.timeWithinDay / 1000 % 60 = b.timeWithinDay / 1000 % 60 by omega]
    apply List.append_left_lt
    apply separator_lt
    exact pad_append_lt 3 _ _ (by omega) (by omega)

/-! ## Order of the texts -/

/-- The stored texts of `due` and `now` compare as the instants do, as far as
the years tell: `due` has a four-digit year, both years are past 9999, or both
are the same year before 0. -/
def TextAgrees (due now : Date) : Prop :=
  (0 ≤ due.year ∧ due.year ≤ 9999) ∨ (9999 < due.year ∧ 9999 < now.year) ∨
    (due.year < 0 ∧ now.year = due.year)

instance (due now : Date) : Decidable (due.TextAgrees now) :=
  inferInstanceAs (Decidable (_ ∨ _))

theorem sign_lt_pad {c : Char} (hc : c < '0') (x y : List Char) (n : Nat) :
    c :: x < pad 4 n ++ y := by
  obtain ⟨d, ds, hd, heq⟩ := pad_eq_cons 3 n
  have digits : ∀ d < 10, '0' ≤ Nat.digitChar d := by decide
  rw [heq]
  exact List.cons_lt_cons_iff.mpr (Or.inl (lt_of_lt_of_le hc (digits d hd)))

/-- Where the years agree, an earlier instant has a smaller text. -/
theorem toISOString_lt_of_lt {due now : Date} (agree : due.TextAgrees now)
    (h : now.ms < due.ms) : now.toISOString < due.toISOString := by
  rw [toISOString_lt_iff]
  have hyears := year_mono (le_of_lt h)
  have hdue := year_bounds due
  rcases lt_or_eq_of_le hyears with hlt | heq
  · rcases agree with hfour | ⟨hd, hn⟩ | ⟨-, heq⟩
    · have hdueYear : due.isoYear = pad 4 due.year.toNat := if_pos hfour
      by_cases hnow : 0 ≤ now.year
      · have hnowYear : now.isoYear = pad 4 now.year.toNat := if_pos ⟨hnow, by omega⟩
        rw [hdueYear, hnowYear]
        exact pad_append_lt 4 _ _ (by omega) (by omega)
      · have hnowYear : now.isoYear = '-' :: pad 6 (-now.year).toNat := by
          unfold isoYear
          rw [if_neg (by omega), if_pos (by omega)]
        rw [hdueYear, hnowYear]
        exact sign_lt_pad (by decide) _ _ _
    · have hyear : ∀ d : Date, 9999 < d.year → d.isoYear = '+' :: pad 6 d.year.toNat := by
        intro d hd
        unfold isoYear
        rw [if_neg (by omega), if_neg (by omega)]
      rw [hyear due hd, hyear now hn]
      exact separator_lt '+' (pad_append_lt 6 _ _ (by omega) (by omega))
    · exact absurd heq (ne_of_lt hlt)
  · have hsame : now.isoYear = due.isoYear := by
      unfold isoYear
      rw [heq]
    rw [hsame]
    exact List.append_left_lt (isoRest_lt heq h)

/-- **Where the years agree, the text test `due <= now` is never passed early.** -/
theorem le_of_toISOString_le {due now : Date} (agree : due.TextAgrees now)
    (h : due.toISOString ≤ now.toISOString) : due.ms ≤ now.ms := by
  by_contra hlt
  exact absurd h (not_le_of_gt (toISOString_lt_of_lt agree (by omega)))

end Date

end WhatsappBot
