import ExamFilter.Report.Where

/-!
# The limits of the date

When a request limits the date, and when it leaves the date open. A text that breaks the reading of
dates does neither.
-/
namespace ExamFilter.Report

/-- The field of a request holds a text that names the day. -/
def IsLimit (field : Option String) (day : Calendar.Date) : Prop :=
  ∃ text, field = some text ∧ Calendar.readDate (.text text) = .ok (some day)

/-- The field of a request is absent or holds a text that names no day. -/
def IsOpen (field : Option String) : Prop :=
  ∀ text, field = some text → Calendar.readDate (.text text) = .ok none

variable {field : Option String} {name : String}

theorem readDate_empty : Calendar.readDate (.text "") = .ok none := rfl

/-- What a text that is not empty makes of the day that it names or does not name. -/
def limitOf (name text : String) : Option Calendar.Date → Option Calendar.Date × List Warning
  | some day => (some day, [])
  | none => (none, [.unreadableDate name text])

theorem readLimit_some {text : String} (h : text ≠ "") :
    readLimit name (some text) = (Calendar.readDate (.text text)).map (limitOf name text) := by
  rw [readLimit, if_neg h]
  rfl

theorem readLimit_of_isLimit {day : Calendar.Date} (h : IsLimit field day) :
    readLimit name field = .ok (some day, []) := by
  obtain ⟨text, rfl, hread⟩ := h
  have hne : text ≠ "" := by
    rintro rfl
    rw [readDate_empty] at hread
    cases hread
  rw [readLimit_some hne, hread]
  rfl

theorem readLimit_of_isOpen (h : IsOpen field) : ∃ ws, readLimit name field = .ok (none, ws) := by
  cases field with
  | none => exact ⟨[], rfl⟩
  | some text =>
    by_cases hempty : text = ""
    · exact ⟨[], by rw [readLimit, if_pos hempty]⟩
    · refine ⟨[.unreadableDate name text], ?_⟩
      rw [readLimit_some hempty, h text rfl]
      rfl

/-- A limit that is read is the day that the field names. -/
theorem eq_some_iff_isLimit {limit : Option Calendar.Date} {ws : List Warning}
    (h : readLimit name field = .ok (limit, ws)) (day : Calendar.Date) :
    limit = some day ↔ IsLimit field day := by
  constructor
  · rintro rfl
    cases field with
    | none => cases h
    | some text =>
      refine ⟨text, rfl, ?_⟩
      by_cases hempty : text = ""
      · rw [readLimit, if_pos hempty] at h
        cases h
      · rw [readLimit_some hempty] at h
        cases hread : Calendar.readDate (.text text) with
        | error f =>
          rw [hread] at h
          cases h
        | ok date? =>
          rw [hread] at h
          cases date? <;> cases h
          rfl
  · intro hday
    rw [readLimit_of_isLimit hday] at h
    cases h
    rfl

theorem readLimit_eq_error_iff {f : Calendar.Breakdown} :
    readLimit name field = .error f ↔
      ∃ text, field = some text ∧ Calendar.readDate (.text text) = .error f := by
  cases field with
  | none => simp [readLimit]
  | some text =>
    by_cases hempty : text = ""
    · subst hempty
      simp [readLimit, readDate_empty]
    · rw [readLimit_some hempty]
      cases hread : Calendar.readDate (.text text) <;> simp [Except.map, hread]

theorem read_eq_ok {r : Request} {first last : Option Calendar.Date} {before after : List Warning}
    (hfirst : readLimit "date_from" r.dateFrom = .ok (first, before))
    (hlast : readLimit "date_to" r.dateTo = .ok (last, after)) :
    DateLimits.read r = .ok { first, last, warnings := before ++ after } := by
  rw [DateLimits.read, hfirst]
  change (readLimit "date_to" r.dateTo >>= _) = _
  rw [hlast]
  rfl

/-- Reading the limits breaks down only where the reading of one of the two texts does. -/
theorem read_cases (r : Request) :
    (∃ limits, DateLimits.read r = .ok limits ∧
      (∀ day, limits.first = some day ↔ IsLimit r.dateFrom day) ∧
      ∀ day, limits.last = some day ↔ IsLimit r.dateTo day) ∨
    ∃ f text, DateLimits.read r = .error f ∧ (r.dateFrom = some text ∨ r.dateTo = some text) ∧
      Calendar.readDate (.text text) = .error f := by
  cases hfirst : readLimit "date_from" r.dateFrom with
  | error f =>
    obtain ⟨text, hfield, hread⟩ := readLimit_eq_error_iff.1 hfirst
    refine .inr ⟨f, text, ?_, .inl hfield, hread⟩
    rw [DateLimits.read, hfirst]
    rfl
  | ok first =>
    cases hlast : readLimit "date_to" r.dateTo with
    | error f =>
      obtain ⟨text, hfield, hread⟩ := readLimit_eq_error_iff.1 hlast
      refine .inr ⟨f, text, ?_, .inr hfield, hread⟩
      rw [DateLimits.read, hfirst]
      change (readLimit "date_to" r.dateTo >>= _) = _
      rw [hlast]
      rfl
    | ok last =>
      exact .inl ⟨_, read_eq_ok hfirst hlast, eq_some_iff_isLimit hfirst, eq_some_iff_isLimit hlast⟩

end ExamFilter.Report
