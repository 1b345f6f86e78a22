import ExamFilter.Calendar.Reading
import ExamFilter.Proofs.Calendar.Positional
import ExamFilter.Proofs.Text.Blank
import ExamFilter.Proofs.Text.Numeral

/-!
# Dates that are written in digits

A date that is written with its day first or with its year first is the day that its digits say,
if there is such a day, and no date otherwise. The dates of the calendar are read back from both
of the forms in which they are written out.
-/
namespace ExamFilter.Calendar
open Text

/-- A number as it is written in decimal digits of ASCII, at least `least` and at most `most`. -/
structure Numeral (least most : Nat) where
  digits : List Char
  least_le : least ≤ digits.length
  le_most : digits.length ≤ most
  isDigit : ∀ c ∈ digits, c.isDigit = true

def Numeral.value {least most : Nat} (n : Numeral least most) : Nat :=
  Nat.ofDigitChars 10 n.digits 0

namespace Numeral
variable {least most : Nat}

theorem isRun (n : Numeral least most) : IsRun (least, most) n.digits :=
  ⟨n.least_le, n.le_most, fun c hc => isDecimalDigit_of_isDigit (n.isDigit c hc)⟩

theorem numberOf_digits (n : Numeral least most) : numberOf n.digits = n.value :=
  numberOf_eq_ofDigitChars n.isDigit

theorem isBlank_eq_false (n : Numeral least most) : ∀ c ∈ n.digits, isBlank c = false :=
  fun c hc => isBlank_of_isDecimalDigit (isDecimalDigit_of_isDigit (n.isDigit c hc))

theorem ne_nil (n : Numeral (least + 1) most) : n.digits ≠ [] :=
  List.ne_nil_of_length_pos (Nat.lt_of_lt_of_le (Nat.succ_pos least) n.least_le)

def ofChars (ds : List Char)
    (h : least ≤ ds.length ∧ ds.length ≤ most ∧ ds.all Char.isDigit = true) :
    Numeral least most where
  digits := ds
  least_le := h.1
  le_most := h.2.1
  isDigit := List.all_eq_true.1 h.2.2

/-- The digits of a number that are filled up with zeros. -/
def ofPadded (width n : Nat) (hwidth : 0 < width) (hn : n < 10 ^ width) (h : least ≤ width) :
    Numeral least width where
  digits := (padded width n).toList
  least_le := by rwa [length_padded hwidth hn]
  le_most := (length_padded hwidth hn).le
  isDigit _ := isDigit_of_mem_padded

theorem value_ofPadded {width n : Nat} {hwidth : 0 < width} {hn : n < 10 ^ width}
    {h : least ≤ width} : (ofPadded width n hwidth hn h).value = n := by
  rw [value, ofPadded, ofDigitChars_padded]

end Numeral

section Ends
variable {x y z before after : List Char} {p q : Char}

/-- White space around three parts of digits is dropped, and of what follows them only an end. -/
theorem trimChars_joined (hbefore : ∀ c ∈ before, isBlank c = true) (hx : x ≠ []) (hz : z ≠ [])
    (hxblank : ∀ c ∈ x, isBlank c = false) (hzblank : ∀ c ∈ z, isBlank c = false)
    (after : List Char) :
    ∃ rest, rest <+: after ∧
      trimChars (before ++ joined x p y q z ++ after) = joined x p y q z ++ rest := by
  have hcore : joined x p y q z ≠ [] := by simp [joined]
  have hhead : (joined x p y q z).head hcore = x.head hx := by
    simp only [joined]
    exact List.head_append_of_ne_nil hx
  have hlast : (joined x p y q z).getLast hcore = z.getLast hz := by
    simp [joined, List.getLast_cons, hz]
  refine trimChars_append hbefore hcore ?_ ?_ after
  · rw [hhead]
    exact hxblank _ (List.head_mem hx)
  · rw [hlast]
    exact hzblank _ (List.getLast_mem hz)

end Ends

theorem readDateWith_text (general : List Char → Except Breakdown (Option Date)) {s : String}
    (hs : s ≠ "") : readDateWith general (.text s) = readTextWith general (trimChars s.toList) := by
  rw [readDateWith, if_pos (by simpa [Value.isGiven] using hs)]
  rfl

theorem Date.year_lt (d : Date) : d.year < 10 ^ 4 := by
  have := d.day_exists.1.2
  omega

theorem Date.month_lt (d : Date) : d.month < 10 ^ 2 := by
  have := d.day_exists.2.1.2
  omega

theorem daysIn_le (year month : Nat) : daysIn year month ≤ 31 := by
  unfold daysIn
  split <;> (try split) <;> decide

theorem Date.day_lt (d : Date) : d.day < 10 ^ 2 := by
  have := d.day_exists.2.2.2.trans (daysIn_le d.year d.month)
  omega

/-- A day, a month and a year in digits and the two characters between them. -/
structure Written where
  day : Numeral 1 2
  month : Numeral 1 2
  year : Numeral 4 4
  first : Char
  second : Char
  first_eq : first = '-' ∨ first = '/'
  second_eq : second = '-' ∨ second = '/'

namespace Written
variable {before after rest : List Char}

def dayFirst (w : Written) : List Char :=
  joined w.day.digits w.first w.month.digits w.second w.year.digits

def yearFirst (w : Written) : List Char :=
  joined w.year.digits w.first w.month.digits w.second w.day.digits

/-- The day that the numbers say, if there is such a day. -/
def date? (w : Written) : Option Date :=
  Date.ofNumbers? w.year.value w.month.value w.day.value

/-- No further digit stands right after a day of one digit. -/
def DayEnds (w : Written) (rest : List Char) : Prop :=
  w.day.digits.length = 1 → ∀ c, rest.head? = some c → isDecimalDigit c = false

theorem readThree?_dayFirst (w : Written) (rest : List Char) :
    readThree? (1, 2) (1, 2) (4, 4) (w.dayFirst ++ rest) =
      some (w.day.value, w.month.value, w.year.value) := by
  have hyear : readNumber? 4 4 (w.year.digits ++ rest) = some (numberOf w.year.digits, rest) :=
    w.year.isRun.readNumber? (.inl w.year.isRun.length_eq)
  rw [dayFirst, readThree?_joined w.day.isRun (isSeparator_iff.2 w.first_eq) w.month.isRun
    (isSeparator_iff.2 w.second_eq) hyear]
  simp only [Numeral.numberOf_digits]

theorem readThree?_yearFirst (w : Written) (hends : w.DayEnds rest) :
    readThree? (4, 4) (1, 2) (1, 2) (w.yearFirst ++ rest) =
      some (w.year.value, w.month.value, w.day.value) := by
  have hlength : w.day.digits.length = 2 ∨ w.day.digits.length = 1 := by
    have := w.day.least_le
    have := w.day.le_most
    omega
  have hday : readNumber? 1 2 (w.day.digits ++ rest) = some (numberOf w.day.digits, rest) :=
    w.day.isRun.readNumber? (hlength.imp_right hends)
  rw [yearFirst, readThree?_joined w.year.isRun (isSeparator_iff.2 w.first_eq) w.month.isRun
    (isSeparator_iff.2 w.second_eq) hday]
  simp only [Numeral.numberOf_digits]

theorem positional?_dayFirst (w : Written) (rest : List Char) :
    positional? (w.dayFirst ++ rest) = some (w.year.value, w.month.value, w.day.value) := by
  rw [positional?, w.readThree?_dayFirst]

theorem positional?_yearFirst (w : Written) (hends : w.DayEnds rest) :
    positional? (w.yearFirst ++ rest) = some (w.year.value, w.month.value, w.day.value) := by
  -- the pattern with the day first is looked for before, but the text has only one of the two
  have hread := w.readThree?_yearFirst hends
  have hnone : readThree? (1, 2) (1, 2) (4, 4) (w.yearFirst ++ rest) = none :=
    (readThree?_eq_none_or _).resolve_right (by simp [hread])
  rw [positional?, hnone, hread]

theorem trimChars_dayFirst (w : Written) (hbefore : ∀ c ∈ before, isBlank c = true)
    (after : List Char) :
    ∃ rest, rest <+: after ∧ trimChars (before ++ w.dayFirst ++ after) = w.dayFirst ++ rest :=
  trimChars_joined hbefore w.day.ne_nil w.year.ne_nil w.day.isBlank_eq_false
    w.year.isBlank_eq_false after

theorem trimChars_yearFirst (w : Written) (hbefore : ∀ c ∈ before, isBlank c = true)
    (after : List Char) :
    ∃ rest, rest <+: after ∧ trimChars (before ++ w.yearFirst ++ after) = w.yearFirst ++ rest :=
  trimChars_joined hbefore w.year.ne_nil w.day.ne_nil w.year.isBlank_eq_false
    w.day.isBlank_eq_false after

theorem DayEnds.of_prefix {w : Written} (h : w.DayEnds after) (hrest : rest <+: after) :
    w.DayEnds rest := by
  intro hone c hc
  obtain ⟨tail, rfl⟩ := hrest
  exact h hone c (by rw [List.head?_append, hc]; rfl)

section Reading
variable (general : List Char → Except Breakdown (Option Date))

theorem readDateWith_dayFirst (w : Written) (hbefore : ∀ c ∈ before, isBlank c = true)
    (after : List Char) :
    readDateWith general (.text (String.ofList (before ++ w.dayFirst ++ after))) =
      .ok w.date? := by
  obtain ⟨rest, -, htrim⟩ := w.trimChars_dayFirst hbefore after
  rw [readDateWith_text general (by simp [dayFirst, joined]), String.toList_ofList, htrim,
    readTextWith, w.positional?_dayFirst]
  rfl

theorem readDateWith_yearFirst (w : Written) (hbefore : ∀ c ∈ before, isBlank c = true)
    (hends : w.DayEnds after) :
    readDateWith general (.text (String.ofList (before ++ w.yearFirst ++ after))) =
      .ok w.date? := by
  obtain ⟨rest, hrest, htrim⟩ := w.trimChars_yearFirst hbefore after
  rw [readDateWith_text general (by simp [yearFirst, joined]), String.toList_ofList, htrim,
    readTextWith, w.positional?_yearFirst (hends.of_prefix hrest)]
  rfl

end Reading

/-- The numbers of a date with zeros before them, so that they have their full width. -/
def ofDate (d : Date) (separator : Char) (h : separator = '-' ∨ separator = '/') : Written where
  day := .ofPadded 2 d.day (by decide) d.day_lt (by decide)
  month := .ofPadded 2 d.month (by decide) d.month_lt (by decide)
  year := .ofPadded 4 d.year (by decide) d.year_lt (by decide)
  first := separator
  second := separator
  first_eq := h
  second_eq := h

section Dates
variable {d : Date} {separator : Char} {h : separator = '-' ∨ separator = '/'}

theorem date?_ofDate : (ofDate d separator h).date? = some d := by
  simp [date?, ofDate, Numeral.value_ofPadded, Date.ofNumbers?_self]

end Dates

end Written

theorem Date.toList_dayFirst (d : Date) :
    d.dayFirst.toList = (Written.ofDate d '/' (.inr rfl)).dayFirst := by
  simp [Date.dayFirst, Written.dayFirst, Written.ofDate, Numeral.ofPadded, joined]

theorem Date.toList_iso (d : Date) :
    d.iso.toList = (Written.ofDate d '-' (.inl rfl)).yearFirst := by
  simp [Date.iso, Written.yearFirst, Written.ofDate, Numeral.ofPadded, joined]

section Dates
variable (general : List Char → Except Breakdown (Option Date))

theorem readDateWith_date_dayFirst (d : Date) :
    readDateWith general (.text d.dayFirst) = .ok (some d) := by
  have hread := (Written.ofDate d '/' (.inr rfl)).readDateWith_dayFirst general
    (List.forall_mem_nil _) []
  rw [List.nil_append, List.append_nil, ← d.toList_dayFirst, String.ofList_toList,
    Written.date?_ofDate] at hread
  exact hread

theorem readDateWith_date_iso (d : Date) :
    readDateWith general (.text d.iso) = .ok (some d) := by
  have hends : (Written.ofDate d '-' (.inl rfl)).DayEnds [] := by simp [Written.DayEnds]
  have hread := (Written.ofDate d '-' (.inl rfl)).readDateWith_yearFirst general
    (List.forall_mem_nil _) hends
  rw [List.nil_append, List.append_nil, ← d.toList_iso, String.ofList_toList,
    Written.date?_ofDate] at hread
  exact hread

/-- What a text means that begins with one of the two patterns does not depend on how other texts
are read. -/
theorem readDateWith_eq_of_isPositional {v : Value}
    (h : IsPositional (trimChars v.asText.toList))
    (other : List Char → Except Breakdown (Option Date)) :
    readDateWith general v = readDateWith other v := by
  obtain ⟨numbers, hread⟩ := Option.isSome_iff_exists.1 (isSome_positional?_iff.2 h)
  rw [readDateWith, readDateWith, readTextWith, readTextWith, hread]

/-- Dates in digits are read by position, however all other texts are read. With the day first or
with the year first, between white space and any text that does not go on with the last number,
the numbers are the day that they say, or no date if there is no such day. No text begins with
both patterns, and one that begins with either of them is never read in another way. So both
forms in which dates are written out are read back. -/
theorem reads_positional_dates :
    (∀ (w : Written) (before after : List Char), (∀ c ∈ before, isBlank c = true) →
      readDateWith general (.text (String.ofList (before ++ w.dayFirst ++ after))) =
          .ok w.date? ∧
        (w.DayEnds after →
          readDateWith general (.text (String.ofList (before ++ w.yearFirst ++ after))) =
            .ok w.date?)) ∧
      (∀ cs, readThree? (1, 2) (1, 2) (4, 4) cs = none ∨
        readThree? (4, 4) (1, 2) (1, 2) cs = none) ∧
      (∀ (v : Value) (other : List Char → Except Breakdown (Option Date)),
        IsPositional (trimChars v.asText.toList) →
          readDateWith general v = readDateWith other v) ∧
      ∀ d : Date, readDateWith general (.text d.dayFirst) = .ok (some d) ∧
        readDateWith general (.text d.iso) = .ok (some d) := by
  refine ⟨fun w before after hbefore => ⟨?_, fun hends => ?_⟩, readThree?_eq_none_or,
    fun v other h => readDateWith_eq_of_isPositional general h other, fun d => ⟨?_, ?_⟩⟩
  · exact w.readDateWith_dayFirst general hbefore after
  · exact w.readDateWith_yearFirst general hbefore hends
  · exact readDateWith_date_dayFirst general d
  · exact readDateWith_date_iso general d

/-- The leap day of 2024 with its day first, and the thirteenth month with its year first. -/
theorem reads_positional_dates_leap_day :
    readDate (.text "\t29-2/2024th") = .ok (some ⟨2024, 2, 29, by decide⟩) ∧
      readDate (.text "2023/13-1 3") = .ok none ∧
      readDate (.text "2023/13-1 3") =
        readDateWith (fun _ => .error .quotient) (.text "2023/13-1 3") := by
  have hread := reads_positional_dates freeForm
  have hleap := hread.1
    { day := .ofChars ['2', '9'] (by decide)
      month := .ofChars ['2'] (by decide)
      year := .ofChars ['2', '0', '2', '4'] (by decide)
      first := '-', second := '/', first_eq := .inl rfl, second_eq := .inr rfl }
    ['\t'] ['t', 'h'] (List.all_eq_true.1 rfl)
  have hmonth := hread.1
    { day := .ofChars ['1'] (by decide)
      month := .ofChars ['1', '3'] (by decide)
      year := .ofChars ['2', '0', '2', '3'] (by decide)
      first := '/', second := '-', first_eq := .inr rfl, second_eq := .inl rfl }
    [] [' ', '3'] (List.forall_mem_nil _)
  have hends : ∀ c, [' ', '3'].head? = some c → isDecimalDigit c = false := by
    intro c hc
    cases hc
    rfl
  refine ⟨hleap.1, hmonth.2 fun _ => hends, hread.2.2.1 _ _ ?_⟩
  rw [← isSome_positional?_iff]
  decide

end Dates

end ExamFilter.Calendar
