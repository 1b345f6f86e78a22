import ExamFilter.Sql.Dialect
import Mathlib.Data.List.Forall2
import Mathlib.Data.List.Infix

/-!
# Patterns

What a text has to look like to be matched by a pattern of `LIKE`. An escaped text is a pattern in
which every character stands for itself.
-/
namespace ExamFilter.Sql

/-- A part of a pattern. -/
inductive PatternPart where
  | anyRun
  | anyOne
  | char (c : Char)
  deriving DecidableEq, Repr

/-- The parts of a pattern. The character after a backslash stands for itself. -/
def patternParts : List Char → List PatternPart
  | [] => []
  | '%' :: cs => .anyRun :: patternParts cs
  | '_' :: cs => .anyOne :: patternParts cs
  | '\\' :: c :: cs => .char c :: patternParts cs
  | c :: cs => .char c :: patternParts cs

/-- The characters are matched by the parts of a pattern, given which characters count as the
same. -/
def matchesParts (same : Char → Char → Bool) : List PatternPart → List Char → Bool
  | [], cs => cs.isEmpty
  | .anyRun :: ps, cs => cs.tails.any (matchesParts same ps)
  | .anyOne :: ps, _ :: cs => matchesParts same ps cs
  | .char p :: ps, c :: cs => same p c && matchesParts same ps cs
  | .anyOne :: _, [] | .char _ :: _, [] => false

def matchesPattern (same : Char → Char → Bool) (pattern s : String) : Bool :=
  matchesParts same (patternParts pattern.toList) s.toList

theorem patternParts_escapeLikeChars (cs rest : List Char) :
    patternParts (escapeLikeChars cs ++ rest) = cs.map .char ++ patternParts rest := by
  induction cs with
  | nil => rfl
  | cons c cs ih =>
    rw [escapeLikeChars]
    split
    · simp [patternParts, ih]
    · next hplain =>
      simp only [Bool.or_eq_true, decide_eq_true_eq, not_or] at hplain
      obtain ⟨⟨hback, hrun⟩, hone⟩ := hplain
      rw [List.cons_append, patternParts.eq_5 _ _ hrun hone, ih, List.map_cons, List.cons_append]
      exact fun _ _ hc => absurd hc hback

theorem matchesParts_anyRun_iff {same : Char → Char → Bool} {ps : List PatternPart}
    {cs : List Char} :
    matchesParts same (.anyRun :: ps) cs = true ↔
      ∃ before after, before ++ after = cs ∧ matchesParts same ps after = true := by
  rw [matchesParts, List.any_eq_true]
  constructor
  · rintro ⟨after, hmem, hps⟩
    obtain ⟨before, happend⟩ := (List.mem_tails _ _).1 hmem
    exact ⟨before, after, happend, hps⟩
  · rintro ⟨before, after, happend, hps⟩
    exact ⟨after, (List.mem_tails _ _).2 ⟨before, happend⟩, hps⟩

theorem matchesParts_anyRun (same : Char → Char → Bool) (cs : List Char) :
    matchesParts same [.anyRun] cs = true :=
  matchesParts_anyRun_iff.2 ⟨cs, [], List.append_nil cs, rfl⟩

/-- Parts that stand for characters match as many characters, one by one. -/
theorem matchesParts_chars_iff {same : Char → Char → Bool} {ps : List PatternPart}
    {wanted cs : List Char} :
    matchesParts same (wanted.map .char ++ ps) cs = true ↔
      ∃ found after, found ++ after = cs ∧ List.Forall₂ (same · ·) wanted found ∧
        matchesParts same ps after = true := by
  induction wanted generalizing cs with
  | nil =>
    constructor
    · intro h
      exact ⟨[], cs, rfl, .nil, h⟩
    · rintro ⟨found, after, rfl, hfound, h⟩
      cases hfound
      exact h
  | cons w wanted ih =>
    cases cs with
    | nil =>
      constructor
      · intro h
        cases h
      · rintro ⟨found, after, happend, hfound, -⟩
        cases hfound
        cases happend
    | cons c cs =>
      rw [List.map_cons, List.cons_append, matchesParts, Bool.and_eq_true, ih]
      constructor
      · rintro ⟨hc, found, after, rfl, hfound, h⟩
        exact ⟨c :: found, after, rfl, .cons hc hfound, h⟩
      · rintro ⟨found, after, happend, hfound, h⟩
        cases hfound with
        | cons hc hfound =>
          cases happend
          exact ⟨hc, _, after, rfl, hfound, h⟩

/-- An escaped text between two wildcards is matched by the texts that contain it. -/
theorem matchesPattern_escapeLike_iff {same : Char → Char → Bool} {wanted s : String} :
    matchesPattern same ("%" ++ escapeLike wanted ++ "%") s = true ↔
      ∃ before found after, s.toList = before ++ (found ++ after) ∧
        List.Forall₂ (same · ·) wanted.toList found := by
  have hparts : patternParts ("%" ++ escapeLike wanted ++ "%").toList =
      .anyRun :: (wanted.toList.map .char ++ [.anyRun]) := by
    have hchars : ("%" ++ escapeLike wanted ++ "%").toList =
        '%' :: (escapeLikeChars wanted.toList ++ ['%']) := by
      simp [escapeLike]
    rw [hchars, patternParts, patternParts_escapeLikeChars]
    rfl
  rw [matchesPattern, hparts, matchesParts_anyRun_iff]
  constructor
  · rintro ⟨before, rest, hs, hrest⟩
    obtain ⟨found, after, rfl, hfound, -⟩ := matchesParts_chars_iff.1 hrest
    exact ⟨before, found, after, hs.symm, hfound⟩
  · rintro ⟨before, found, after, hs, hfound⟩
    exact ⟨before, found ++ after, hs.symm,
      matchesParts_chars_iff.2 ⟨found, after, rfl, hfound, matchesParts_anyRun same after⟩⟩

end ExamFilter.Sql
