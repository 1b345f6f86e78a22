import ExamFilter.Calendar.Positional
import ExamFilter.Proofs.Text.Numeral
import Mathlib.Algebra.Group.Nat.Defs

/-!
# Texts that begin with a date by position

Two patterns of separated digits are looked for at the beginning of a text. No text has both.
-/
namespace ExamFilter.Calendar
open Text

/-- The number that decimal digits of any script stand for. -/
def numberOf : List Char → Nat
  | [] => 0
  | c :: cs => (digitValue? c).getD 0 * 10 ^ cs.length + numberOf cs

theorem numberOf_eq_ofDigitChars {ds : List Char} (h : ∀ c ∈ ds, c.isDigit = true) :
    numberOf ds = Nat.ofDigitChars 10 ds 0 := by
  induction ds with
  | nil => rfl
  | cons c ds ih =>
    have hsplit : Nat.ofDigitChars 10 ds (c.toNat - '0'.toNat) =
        10 ^ ds.length * (c.toNat - '0'.toNat) + Nat.ofDigitChars 10 ds 0 :=
      Nat.ofDigitChars_eq_ofDigitChars_zero
    rw [numberOf, digitValue?_of_isDigit (h c (by simp)), ih fun d hd => h d (by simp [hd]),
      Nat.ofDigitChars_cons, Nat.mul_zero, Nat.zero_add, hsplit, Option.getD_some, Nat.mul_comm]

section Numbers
variable {most : Nat} {ds rest : List Char}

/-- Digits at the beginning are read, and then as many more as there is room for. -/
theorem leadingNumber_append (hdigits : ∀ c ∈ ds, isDecimalDigit c = true)
    (hlength : ds.length ≤ most) :
    leadingNumber most (ds ++ rest) =
      (numberOf ds * 10 ^ (leadingNumber (most - ds.length) rest).2.1 +
          (leadingNumber (most - ds.length) rest).1,
        ds.length + (leadingNumber (most - ds.length) rest).2.1,
        (leadingNumber (most - ds.length) rest).2.2) := by
  induction ds generalizing most with
  | nil => simp [numberOf]
  | cons c ds ih =>
    obtain ⟨v, hv⟩ := Option.isSome_iff_exists.1 (hdigits c (by simp))
    obtain ⟨n, rfl⟩ : ∃ n, most = n + 1 := ⟨most - 1, by simp at hlength; omega⟩
    have hread := @ih n (fun d hd => hdigits d (by simp [hd])) (by simpa using hlength)
    rw [List.cons_append, leadingNumber, hv]
    dsimp only
    rw [hread, numberOf, hv]
    simp [Nat.add_mul, Nat.mul_assoc, Nat.pow_add, Nat.add_assoc]
    omega

/-- No digit is read where none may be or none is. -/
theorem leadingNumber_of_ends
    (h : most = 0 ∨ ∀ c, rest.head? = some c → isDecimalDigit c = false) :
    leadingNumber most rest = (0, 0, rest) := by
  cases most with
  | zero => rfl
  | succ n =>
    cases rest with
    | nil => rfl
    | cons c rest =>
      have hc : digitValue? c = none := by
        simpa [isDecimalDigit] using h
      rw [leadingNumber, hc]

end Numbers

/-- Decimal digits of any script, as many as the bounds allow. -/
structure IsRun (width : Nat × Nat) (ds : List Char) : Prop where
  least_le : width.1 ≤ ds.length
  le_most : ds.length ≤ width.2
  digits : ∀ c ∈ ds, isDecimalDigit c = true

theorem IsRun.length_eq {n : Nat} {ds : List Char} (h : IsRun (n, n) ds) : ds.length = n :=
  Nat.le_antisymm h.le_most h.least_le

section Runs
variable {width : Nat × Nat} {ds rest : List Char}

/-- A run of digits is read to its end if there is no room for more or no digit follows. -/
theorem IsRun.readNumber? (h : IsRun width ds)
    (hends : ds.length = width.2 ∨ ∀ c, rest.head? = some c → isDecimalDigit c = false) :
    readNumber? width.1 width.2 (ds ++ rest) = some (numberOf ds, rest) := by
  have hnone : leadingNumber (width.2 - ds.length) rest = (0, 0, rest) :=
    leadingNumber_of_ends (hends.imp_left fun heq => by omega)
  rw [Calendar.readNumber?, leadingNumber_append h.digits h.le_most, hnone]
  simp [h.least_le]

/-- After a run of digits there is always a number to be read. -/
theorem IsRun.exists_readNumber? (h : IsRun width ds) (rest : List Char) :
    ∃ n rest', Calendar.readNumber? width.1 width.2 (ds ++ rest) = some (n, rest') := by
  have hleast := h.least_le
  rw [Calendar.readNumber?, leadingNumber_append h.digits h.le_most]
  dsimp only
  rw [if_pos (by omega)]
  exact ⟨_, _, rfl⟩

/-- What is read at the beginning of a text are digits. -/
theorem exists_leadingNumber (most : Nat) (cs : List Char) :
    ∃ n ds rest, cs = ds ++ rest ∧ ds.length ≤ most ∧ (∀ c ∈ ds, isDecimalDigit c = true) ∧
      leadingNumber most cs = (n, ds.length, rest) := by
  induction most generalizing cs with
  | zero => exact ⟨0, [], cs, rfl, Nat.le_refl 0, by simp, rfl⟩
  | succ most ih =>
    cases cs with
    | nil => exact ⟨0, [], [], rfl, by simp, by simp, rfl⟩
    | cons c cs =>
      cases hc : digitValue? c with
      | none => exact ⟨0, [], c :: cs, rfl, by simp, by simp, by rw [leadingNumber, hc]; rfl⟩
      | some v =>
        obtain ⟨n, ds, rest, rfl, hlength, hdigits, hread⟩ := ih cs
        refine ⟨v * Nat.pow 10 ds.length + n, c :: ds, rest, rfl, by simpa using hlength, ?_, ?_⟩
        · simpa [isDecimalDigit, hc] using hdigits
        · rw [leadingNumber, hc]
          dsimp only
          rw [hread]
          rfl

theorem exists_run_of_readNumber? {cs : List Char} {n : Nat}
    (h : Calendar.readNumber? width.1 width.2 cs = some (n, rest)) :
    ∃ ds, IsRun width ds ∧ cs = ds ++ rest := by
  obtain ⟨n', ds, rest', rfl, hlength, hdigits, hread⟩ := exists_leadingNumber width.2 cs
  rw [Calendar.readNumber?, hread] at h
  dsimp only at h
  split at h
  · next hleast =>
    cases h
    exact ⟨ds, ⟨hleast, hlength, hdigits⟩, rfl⟩
  · cases h

end Runs

/-- Three parts with separators between them. -/
def joined (x : List Char) (p : Char) (y : List Char) (q : Char) (z : List Char) : List Char :=
  x ++ p :: (y ++ q :: z)

/-- The text begins with three runs of digits of the given widths, separated. -/
def BeginsWith (a b c : Nat × Nat) (cs : List Char) : Prop :=
  ∃ x p y q z rest, IsRun a x ∧ isSeparator p = true ∧ IsRun b y ∧ isSeparator q = true ∧
    IsRun c z ∧ cs = joined x p y q z ++ rest

theorem isSeparator_iff {c : Char} : isSeparator c = true ↔ c = '-' ∨ c = '/' := by
  simp [isSeparator]

theorem isDecimalDigit_of_isSeparator {c : Char} (h : isSeparator c = true) :
    isDecimalDigit c = false := by
  rcases isSeparator_iff.1 h with rfl | rfl <;> rfl

section Patterns
variable {a b c : Nat × Nat} {x y z rest cs : List Char} {p q : Char}

/-- The first two numbers are read to the separators after them. -/
theorem readThree?_joined (hx : IsRun a x) (hp : isSeparator p = true) (hy : IsRun b y)
    (hq : isSeparator q = true) {n : Nat} {rest' : List Char}
    (hz : readNumber? c.1 c.2 (z ++ rest) = some (n, rest')) :
    readThree? a b c (joined x p y q z ++ rest) = some (numberOf x, numberOf y, n) := by
  have hfirst : readNumber? a.1 a.2 (x ++ p :: (y ++ q :: (z ++ rest))) =
      some (numberOf x, p :: (y ++ q :: (z ++ rest))) :=
    hx.readNumber? (.inr fun c hc => by cases hc; exact isDecimalDigit_of_isSeparator hp)
  have hsecond : readNumber? b.1 b.2 (y ++ q :: (z ++ rest)) =
      some (numberOf y, q :: (z ++ rest)) :=
    hy.readNumber? (.inr fun c hc => by cases hc; exact isDecimalDigit_of_isSeparator hq)
  have hjoined : joined x p y q z ++ rest = x ++ p :: (y ++ q :: (z ++ rest)) := by
    simp [joined]
  rw [readThree?, hjoined, hfirst]
  simp [readSeparator?, hp, hq, hsecond, hz]

theorem exists_eq_cons_of_readSeparator? (h : readSeparator? cs = some rest) :
    ∃ p, isSeparator p = true ∧ cs = p :: rest := by
  cases cs with
  | nil => cases h
  | cons p cs =>
    rw [readSeparator?] at h
    split at h
    · next hp =>
      cases h
      exact ⟨p, hp, rfl⟩
    · cases h

theorem isSome_readThree?_iff : (readThree? a b c cs).isSome = true ↔ BeginsWith a b c cs := by
  constructor
  · intro h
    obtain ⟨numbers, hread⟩ := Option.isSome_iff_exists.1 h
    simp only [readThree?, bind, Option.bind_eq_some_iff, Prod.exists] at hread
    obtain ⟨_, cs₁, hx, cs₂, hp, _, cs₃, hy, cs₄, hq, _, rest, hz, -⟩ := hread
    obtain ⟨x, hxrun, rfl⟩ := exists_run_of_readNumber? hx
    obtain ⟨p, hpsep, rfl⟩ := exists_eq_cons_of_readSeparator? hp
    obtain ⟨y, hyrun, rfl⟩ := exists_run_of_readNumber? hy
    obtain ⟨q, hqsep, rfl⟩ := exists_eq_cons_of_readSeparator? hq
    obtain ⟨z, hzrun, rfl⟩ := exists_run_of_readNumber? hz
    exact ⟨x, p, y, q, z, rest, hxrun, hpsep, hyrun, hqsep, hzrun, by simp [joined]⟩
  · rintro ⟨x, p, y, q, z, rest, hx, hp, hy, hq, hz, rfl⟩
    obtain ⟨n, rest', hread⟩ := hz.exists_readNumber? rest
    rw [readThree?_joined hx hp hy hq hread]
    rfl

/-- A text whose first run of digits is short does not begin with a longer run. -/
theorem BeginsWith.not_of_lt (h : BeginsWith a b c cs) {a' b' c' : Nat × Nat}
    (hlt : a.2 < a'.1) : ¬ BeginsWith a' b' c' cs := by
  obtain ⟨x, p, y, q, z, rest, hx, hp, -, -, -, rfl⟩ := h
  rintro ⟨x', p', y', q', z', rest', hx', -, -, -, -, heq⟩
  have hlength : x.length < x'.length := by
    have := hx.le_most
    have := hx'.least_le
    omega
  -- right after the short run the one text has a separator and the other one still a digit
  have hseparator : (joined x p y q z ++ rest)[x.length]? = some p := by
    simp [joined]
  have hdigit : (joined x' p' y' q' z' ++ rest')[x.length]? = some x'[x.length] := by
    simp [joined, List.getElem?_append_left hlength]
  have hp' : p = x'[x.length] := by
    rw [heq, hdigit] at hseparator
    exact (Option.some.inj hseparator).symm
  have := hx'.digits _ (List.getElem_mem hlength)
  rw [← hp', isDecimalDigit_of_isSeparator hp] at this
  cases this

end Patterns

/-- At most one of the two patterns stands at the beginning of a text. -/
theorem readThree?_eq_none_or (cs : List Char) :
    readThree? (1, 2) (1, 2) (4, 4) cs = none ∨ readThree? (4, 4) (1, 2) (1, 2) cs = none := by
  by_cases h : BeginsWith (1, 2) (1, 2) (4, 4) cs
  · right
    have hnot : ¬ BeginsWith (4, 4) (1, 2) (1, 2) cs := h.not_of_lt (by decide)
    rw [← isSome_readThree?_iff] at hnot
    simpa using hnot
  · left
    rw [← isSome_readThree?_iff] at h
    simpa using h

/-- One of the two patterns stands at the beginning of the text. -/
def IsPositional (cs : List Char) : Prop :=
  BeginsWith (1, 2) (1, 2) (4, 4) cs ∨ BeginsWith (4, 4) (1, 2) (1, 2) cs

theorem isSome_positional?_iff {cs : List Char} :
    (positional? cs).isSome = true ↔ IsPositional cs := by
  rw [positional?, IsPositional, ← isSome_readThree?_iff, ← isSome_readThree?_iff]
  cases readThree? (1, 2) (1, 2) (4, 4) cs <;> simp

end ExamFilter.Calendar
