import ExamFilter.Proofs.Text.Blank
import ExamFilter.Proofs.Text.Numeral
import ExamFilter.Value.Text

/-!
# How printed values begin

Numbers, truth values, bytes and dates are printed with a letter, a digit or a sign at the
beginning. So trimming does not reach into their texts from that side.
-/
namespace ExamFilter

namespace Text

/-- The text begins with a character that is neither white space nor an underscore. -/
def OpensVisibly (cs : List Char) : Prop :=
  ∃ c rest, cs = c :: rest ∧ isBlank c = false ∧ c ≠ '_'

theorem OpensVisibly.append {cs : List Char} (h : OpensVisibly cs) (ds : List Char) :
    OpensVisibly (cs ++ ds) := by
  obtain ⟨c, rest, rfl, hblank, hne⟩ := h
  exact ⟨c, rest ++ ds, rfl, hblank, hne⟩

theorem opensVisibly_of_isDigit {c : Char} (h : c.isDigit = true) (rest : List Char) :
    OpensVisibly (c :: rest) := by
  refine ⟨c, rest, rfl, isBlank_of_isDecimalDigit (isDecimalDigit_of_isDigit h), ?_⟩
  rintro rfl
  cases h

theorem exists_toDigits_eq_cons (n : Nat) :
    ∃ c rest, Nat.toDigits 10 n = c :: rest ∧ c.isDigit = true := by
  obtain ⟨c, rest, hdigits⟩ := List.exists_cons_of_ne_nil (Nat.toDigits_ne_nil (n := n) (b := 10))
  have hmem : c ∈ Nat.toDigits 10 n := by simp [hdigits]
  exact ⟨c, rest, hdigits, Nat.isDigit_of_mem_toDigits (by decide) (by decide) hmem⟩

theorem opensVisibly_toDigits (n : Nat) : OpensVisibly (Nat.toDigits 10 n) := by
  obtain ⟨c, rest, hdigits, hc⟩ := exists_toDigits_eq_cons n
  rw [hdigits]
  exact opensVisibly_of_isDigit hc rest

theorem opensVisibly_padded (width n : Nat) : OpensVisibly (padded width n).toList := by
  rw [toList_padded]
  cases width - (Nat.toDigits 10 n).length with
  | zero => exact opensVisibly_toDigits n
  | succ k => exact opensVisibly_of_isDigit (by decide) _

end Text

namespace Decimal
open Text

theorem opensVisibly_positional (n : Nat) (point : Int) :
    OpensVisibly (positional (Nat.toDigits 10 n) point) := by
  unfold positional
  split
  · exact opensVisibly_of_isDigit (by decide) _
  · next hpoint =>
    obtain ⟨c, rest, hdigits, hc⟩ := exists_toDigits_eq_cons n
    obtain ⟨k, hk⟩ : ∃ k, point.toNat = k + 1 := ⟨point.toNat - 1, by omega⟩
    rw [hdigits, hk]
    exact opensVisibly_of_isDigit hc _

theorem opensVisibly_exponential (n : Nat) (point : Int) :
    OpensVisibly (exponential (Nat.toDigits 10 n) point) := by
  obtain ⟨c, rest, hdigits, hc⟩ := exists_toDigits_eq_cons n
  rw [hdigits]
  exact opensVisibly_of_isDigit hc _

theorem opensVisibly_magnitudeText (b : Binary) : OpensVisibly (magnitudeText b).toList := by
  unfold magnitudeText
  split
  · exact opensVisibly_of_isDigit (c := '0') (by decide) _
  · rw [Scaled.text, String.toList_ofList, Nat.toString_eq_repr, Nat.toList_repr]
    split
    · exact opensVisibly_positional _ _
    · exact opensVisibly_exponential _ _

theorem opensVisibly_floatText (x : Float) : OpensVisibly (floatText x).toList := by
  have hsign (rest : List Char) : OpensVisibly ('-' :: rest) := ⟨_, _, rfl, by decide, by decide⟩
  unfold floatText
  cases Binary.ofFloat? x with
  | some b =>
    dsimp only
    rw [String.toList_append]
    split
    · exact (hsign []).append _
    · exact opensVisibly_magnitudeText b
  | none =>
    dsimp only
    split
    · exact ⟨'n', _, rfl, by decide, by decide⟩
    · split
      · exact hsign _
      · exact ⟨'i', _, rfl, by decide, by decide⟩

end Decimal

namespace Value
open Text

/-- What can be selected on its own: a text, a number, a truth value, bytes or a date. -/
def isScalar : Value → Bool
  | text _ | int _ | float _ | bool _ | bytes _ | date _ | moment _ => true
  | _ => false

theorem opensVisibly_int (n : Int) : OpensVisibly (toString n).toList := by
  cases n with
  | ofNat n =>
    have hdigits : (toString (Int.ofNat n)).toList = Nat.toDigits 10 n := by
      change (Nat.repr n).toList = _
      rw [Nat.toList_repr]
    rw [hdigits]
    exact opensVisibly_toDigits n
  | negSucc n =>
    change OpensVisibly ("-" ++ Nat.repr (n + 1)).toList
    rw [String.toList_append]
    exact ⟨'-', _, rfl, by decide, by decide⟩

/-- Every scalar but a text is printed with a visible beginning. -/
theorem opensVisibly_asText {v : Value} (hscalar : v.isScalar = true) (htext : ∀ s, v ≠ .text s) :
    OpensVisibly v.asText.toList := by
  cases v with
  | text s => exact absurd rfl (htext s)
  | int n => exact opensVisibly_int n
  | float x => exact Decimal.opensVisibly_floatText x
  | bool b => cases b <;> exact ⟨_, _, rfl, by decide, by decide⟩
  | bytes octets => exact ⟨'b', _, String.toList_ofList, by decide, by decide⟩
  | date d =>
    rw [asText, Calendar.Date.iso]
    simp only [String.toList_append, List.append_assoc]
    exact (opensVisibly_padded 4 d.year).append _
  | moment m =>
    rw [asText, Calendar.Moment.text, Calendar.Moment.textWith, Calendar.Date.iso]
    simp only [String.toList_append, List.append_assoc]
    exact (opensVisibly_padded 4 m.date.year).append _
  | _ => cases hscalar

end Value

end ExamFilter
