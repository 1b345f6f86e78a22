import ExamFilter.Calendar.Date
import ExamFilter.Proofs.Text.Numeral

/-!
# Reading dates that are written as year, month and day
-/
namespace ExamFilter.Calendar

/-- The number that a run of digits stands for. -/
def digitsNumber? (cs : List Char) : Option Nat :=
  if cs.all Char.isDigit then some (Nat.ofDigitChars 10 cs 0) else none

/-- The date that three numbers joined by hyphens stand for, the year being first. -/
def Date.ofIso? (s : String) : Option Date :=
  match s.toList.splitOn '-' with
  | [y, m, d] => do Date.ofNumbers? (← digitsNumber? y) (← digitsNumber? m) (← digitsNumber? d)
  | _ => none

theorem digitsNumber?_padded (width n : Nat) :
    digitsNumber? (Text.padded width n).toList = some n := by
  have hdigits : (Text.padded width n).toList.all Char.isDigit = true :=
    List.all_eq_true.2 fun c hc => Text.isDigit_of_mem_padded hc
  rw [digitsNumber?, if_pos hdigits, Text.ofDigitChars_padded]

theorem hyphen_notMem_padded (width n : Nat) : '-' ∉ (Text.padded width n).toList := by
  intro h
  have hdigit := Text.isDigit_of_mem_padded h
  revert hdigit
  decide

/-- A date that is written out is read back. -/
theorem Date.ofIso?_iso (d : Date) : Date.ofIso? d.iso = some d := by
  have hparts : d.iso.toList = ['-'].intercalate [(Text.padded 4 d.year).toList,
      (Text.padded 2 d.month).toList, (Text.padded 2 d.day).toList] := by
    simp [Date.iso, List.intercalate]
  have hsplit : d.iso.toList.splitOn '-' = [(Text.padded 4 d.year).toList,
      (Text.padded 2 d.month).toList, (Text.padded 2 d.day).toList] := by
    rw [hparts]
    refine List.splitOn_intercalate '-' ?_ (by simp)
    simp [hyphen_notMem_padded]
  rw [Date.ofIso?, hsplit]
  simp [digitsNumber?_padded, Date.ofNumbers?_self]

end ExamFilter.Calendar
