import ExamFilter.Proofs.Calendar.Written

/-!
# Normalized dates

What is made of a value by normalizing it is read as the value is, and normalizing it once more
changes nothing: a date that is written out is read by position, and a text that is no date stays
as it is. This holds for every way to read the texts that begin with no date by position.
-/
namespace ExamFilter.Calendar
open Text

theorem Date.length_dayFirst (d : Date) : d.dayFirst.length = 10 := by
  have hday := length_padded (by decide) d.day_lt
  have hmonth := length_padded (by decide) d.month_lt
  have hyear := length_padded (by decide) d.year_lt
  simp only [String.length_toList] at hday hmonth hyear
  simp only [Date.dayFirst, String.length_append, hday, hmonth, hyear]
  rfl

theorem Date.dayFirst_ne_empty (d : Date) : d.dayFirst ≠ "" := by
  intro hempty
  have hlength := d.length_dayFirst
  rw [hempty] at hlength
  exact absurd hlength (by decide)

section Reading
variable {general : List Char → Except Breakdown (Option Date)} {v : Value} {date? : Option Date}

/-- Reading a date breaks down only where the reading of its text does. -/
theorem readDateWith_cases (general : List Char → Except Breakdown (Option Date)) (v : Value) :
    (∃ date?, readDateWith general v = .ok date?) ∨
      ∃ b, general (trimChars v.asText.toList) = .error b ∧ readDateWith general v = .error b := by
  rw [readDateWith]
  split
  · rw [readTextWith]
    split
    · exact .inl ⟨_, rfl⟩
    · cases hgeneral : general (trimChars v.asText.toList) with
      | ok date? => exact .inl ⟨date?, rfl⟩
      | error b => exact .inr ⟨b, rfl, rfl⟩
  · exact .inl ⟨none, rfl⟩

/-- A text that is no date is no date either when it is read by itself. -/
theorem readDateWith_asText (h : readDateWith general v = .ok none) :
    readDateWith general (.text (normalized v none)) = .ok none := by
  rw [normalized]
  split
  · next hgiven =>
    rw [readDateWith, if_pos hgiven] at h
    by_cases hempty : v.asText = ""
    · rw [hempty]
      rfl
    · rw [readDateWith_text general hempty, h]
  · rfl

/-- The normalized text is read as the value is. -/
theorem readDateWith_normalized (h : readDateWith general v = .ok date?) :
    readDateWith general (.text (normalized v date?)) = .ok date? := by
  cases date? with
  | none => exact readDateWith_asText h
  | some d => exact readDateWith_date_dayFirst general d

theorem normalized_normalized (v : Value) (date? : Option Date) :
    normalized (.text (normalized v date?)) date? = normalized v date? := by
  cases date? with
  | some d => rfl
  | none =>
    by_cases hempty : normalized v none = ""
    · rw [hempty]
      rfl
    · have hgiven : (Value.text (normalized v none)).isGiven = true := by
        simpa [Value.isGiven] using hempty
      rw [normalized, if_pos hgiven]
      rfl

theorem normalizeWith_of_readDateWith (h : readDateWith general v = .ok date?) :
    normalizeWith general v = .ok (normalized v date?) := by
  rw [normalizeWith, h]
  rfl

/-- What a normalized text was made from. -/
theorem exists_of_normalizeWith {text : String} (h : normalizeWith general v = .ok text) :
    ∃ date?, readDateWith general v = .ok date? ∧ text = normalized v date? := by
  obtain ⟨date?, hread⟩ | ⟨b, -, hread⟩ := readDateWith_cases general v
  · rw [normalizeWith_of_readDateWith hread] at h
    exact ⟨date?, hread, (Except.ok.inj h).symm⟩
  · rw [normalizeWith, hread] at h
    cases h

/-- Normalizing twice is normalizing once. -/
theorem normalizeWith_normalized (h : readDateWith general v = .ok date?) :
    normalizeWith general (.text (normalized v date?)) = .ok (normalized v date?) := by
  rw [normalizeWith_of_readDateWith (readDateWith_normalized h), normalized_normalized]

end Reading

end ExamFilter.Calendar
