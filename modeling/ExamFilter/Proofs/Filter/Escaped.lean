import ExamFilter.Proofs.Filter.Expansion
import ExamFilter.Proofs.Sql.Token
import Mathlib.Data.Prod.Basic

/-!
# Reading escaped texts back

The values of a predicate have their quotes doubled and are otherwise as they were. Put between
quotes, such a value is read back as it was where a backslash is an ordinary character. Where a
backslash escapes, it is read back only if every backslash in it is followed by a wildcard, before
which a backslash is kept.
-/
namespace ExamFilter.Filter
open Sql Text

/-- Every backslash is followed by a wildcard of patterns. -/
def backslashesKept : List Char → Bool
  | [] => true
  | c :: cs =>
    (c ≠ '\\' || cs.head? = some '%' || cs.head? = some '_') && backslashesKept cs

theorem backslashesKept_cons {c : Char} (h : c ≠ '\\') (cs : List Char) :
    backslashesKept (c :: cs) = backslashesKept cs := by
  simp [backslashesKept, h]

theorem backslashesKept_backslash (d : Char) (cs : List Char) :
    backslashesKept ('\\' :: d :: cs) = ((d = '%' || d = '_') && backslashesKept cs) := by
  by_cases hd : d = '\\'
  · subst hd
    simp [backslashesKept]
  · simp [backslashesKept, hd]

theorem length_doubleChars_escaped (c : Char) : (doubleChars '\'' (escaped c)).length ≤ 2 := by
  unfold escaped
  split
  all_goals first
    | decide
    | by_cases hc : c = '\'' <;> simp [doubleChars, hc]

/-- A decoded text with its quotes doubled is not longer than what it was decoded from. -/
theorem length_doubleChars_of_readQuoted {escapes : Bool} {cs : List Char}
    {p : List Char × List Char} (h : readQuoted '\'' escapes cs = some p) :
    (doubleChars '\'' p.1).length + 1 + p.2.length ≤ cs.length := by
  induction cs using readQuoted.induct '\'' escapes generalizing p with
  | case1 => simp [readQuoted] at h
  | case2 =>
    simp only [readQuoted, if_true, Option.some.injEq] at h
    subst h
    simp [doubleChars]
  | case3 rest ih =>
    simp only [readQuoted, if_true, Option.map_eq_some_iff] at h
    obtain ⟨p', hp, rfl⟩ := h
    have hle := ih hp
    simp only [Prod.map_fst, Prod.map_snd, id_eq, doubleChars, if_true, List.length_cons]
    omega
  | case4 d rest hd =>
    simp only [readQuoted, hd, if_true, if_false, Option.some.injEq] at h
    subst h
    simp [doubleChars, Nat.add_comm]
  | case5 c hc hesc => simp [readQuoted, hc, hesc] at h
  | case6 c hc hesc d rest ih =>
    simp only [readQuoted, hc, hesc, if_true, if_false, Option.map_eq_some_iff] at h
    obtain ⟨p', hp, rfl⟩ := h
    have hle := ih hp
    have hd := length_doubleChars_escaped d
    simp only [Prod.map_fst, Prod.map_snd, id_eq, doubleChars_append, List.length_append,
      List.length_cons]
    omega
  | case7 c cs hc hesc ih =>
    rw [readQuoted_cons hc hesc, Option.map_eq_some_iff] at h
    obtain ⟨p', hp, rfl⟩ := h
    have hle := ih hp
    simp only [Prod.map_fst, Prod.map_snd, id_eq, doubleChars, hc, if_false, List.length_cons]
    omega

/-- A backslash is kept before a wildcard, and a doubled one stands for one; otherwise what is read
does not begin with a backslash. -/
theorem escaped_cases (c : Char) :
    ((c = '%' ∨ c = '_') ∧ escaped c = ['\\', c]) ∨ (c = '\\' ∧ escaped c = ['\\']) ∨
      c ≠ '%' ∧ c ≠ '_' ∧ ∃ d, d ≠ '\\' ∧ escaped c = [d] := by
  unfold escaped
  split
  all_goals try exact .inr (.inr ⟨by decide, by decide, _, by decide, rfl⟩)
  · exact .inl ⟨.inl rfl, rfl⟩
  · exact .inl ⟨.inr rfl, rfl⟩
  · next hrun hone =>
    by_cases hc : c = '\\'
    · exact .inr (.inl ⟨hc, by rw [hc]⟩)
    · exact .inr (.inr ⟨hrun, hone, c, hc, rfl⟩)

theorem map_front_eq_some_iff (front : List Char) {v rest : List Char}
    {x : Option (List Char × List Char)} :
    x.map (Prod.map (front ++ ·) id) = some (front ++ v, rest) ↔ x = some (v, rest) := by
  have hinjective : Function.Injective (Prod.map (front ++ ·) (id : List Char → List Char)) :=
    Function.Injective.prodMap (List.append_right_injective front) Function.injective_id
  exact (Option.map_injective hinjective).eq_iff (b := some (v, rest))

/-- After an escape that is neither a wildcard's nor a backslash's no backslash has been read. -/
theorem readQuoted_escape_ne {d : Char} (hrun : d ≠ '%') (hone : d ≠ '_') (hback : d ≠ '\\')
    (more v rest : List Char) :
    readQuoted '\'' true ('\\' :: d :: more) ≠ some ('\\' :: v, rest) := by
  intro h
  rw [readQuoted_escape (by decide), Option.map_eq_some_iff] at h
  obtain ⟨p, -, hp⟩ := h
  rcases escaped_cases d with ⟨hwild, -⟩ | ⟨he, -⟩ | ⟨-, -, x, hx, hescaped⟩
  · exact hwild.elim hrun hone
  · exact hback he
  · rw [hescaped] at hp
    exact hx (List.cons.inj (Prod.mk.inj hp).1).1

section Doubled
variable {rest : List Char}

/-- What follows a backslash decides whether the text goes on to be read as it was. -/
theorem readQuoted_backslash_iff {d : Char} {cs : List Char}
    (ih : readQuoted '\'' true (doubleChars '\'' cs ++ '\'' :: rest) = some (cs, rest) ↔
      backslashesKept cs = true) :
    readQuoted '\'' true (doubleChars '\'' ('\\' :: d :: cs) ++ '\'' :: rest) =
        some ('\\' :: d :: cs, rest) ↔
      backslashesKept ('\\' :: d :: cs) = true := by
  rw [backslashesKept_backslash, doubleChars, if_neg (by decide)]
  rcases escaped_cases d with ⟨hwild, hescaped⟩ | ⟨rfl, hescaped⟩ | ⟨hrun, hone, x, hx, hescaped⟩
  · have hquote : d ≠ '\'' := by rcases hwild with rfl | rfl <;> decide
    have hkept : (decide (d = '%') || decide (d = '_')) = true := by simpa using hwild
    rw [doubleChars, if_neg hquote, List.cons_append, List.cons_append,
      readQuoted_escape (by decide), hescaped, hkept, Bool.true_and, ← ih]
    exact map_front_eq_some_iff ['\\', d]
  · -- two backslashes are read as one, and what follows is too short to make up for it
    refine iff_of_false (fun h => ?_) (by simp)
    rw [doubleChars, if_neg (by decide), List.cons_append, List.cons_append,
      readQuoted_escape (by decide), hescaped] at h
    have hread := (map_front_eq_some_iff ['\\']).1 h
    have hle := length_doubleChars_of_readQuoted hread
    simp only [doubleChars, List.length_append, List.length_cons, if_neg (by decide : '\\' ≠ '\'')]
      at hle
    omega
  · have hback : d ≠ '\\' := by
      rintro rfl
      cases hescaped
      exact hx rfl
    refine iff_of_false ?_ (by simp [hrun, hone])
    rw [doubleChars]
    split
    · exact readQuoted_escape_ne hrun hone hback _ _ _
    · exact readQuoted_escape_ne hrun hone hback _ _ _

/-- A text with its quotes doubled, between quotes, is read back as it was by a reader to which a
backslash is an escape only if the backslashes are kept. -/
theorem readQuoted_quotesDoubled_iff (hrest : rest.head? ≠ some '\'') :
    ∀ s : List Char,
      readQuoted '\'' true (doubleChars '\'' s ++ '\'' :: rest) = some (s, rest) ↔
        backslashesKept s = true
  | [] => by simp [doubleChars, readQuoted_closing hrest, backslashesKept]
  | c :: cs => by
    by_cases hback : c = '\\'
    · subst hback
      cases cs with
      | nil =>
        exact iff_of_false
          (readQuoted_escape_ne (by decide) (by decide) (by decide) rest [] rest) (by decide)
      | cons d cs => exact readQuoted_backslash_iff (readQuoted_quotesDoubled_iff hrest cs)
    · rw [backslashesKept_cons hback, ← readQuoted_quotesDoubled_iff hrest cs]
      by_cases hquote : c = '\''
      · subst hquote
        rw [doubleChars, if_pos rfl, List.cons_append, List.cons_append, readQuoted_doubled]
        exact map_front_eq_some_iff ['\'']
      · rw [doubleChars, if_neg hquote, List.cons_append,
          readQuoted_cons hquote (by simpa using hback)]
        exact map_front_eq_some_iff [c]

end Doubled

/-- The values of a predicate belong to its texts, one by one. -/
theorem values_getElem? {rules : Rules} {dimension : String} {v : Value} {m : Membership}
    (h : rules.compile dimension v = some (.oneOf m)) (i : Nat) :
    m.values[i]? = m.bindValues[i]?.map escapeLiteral := by
  cases compiledFor_of_compile h with
  | oneOf hdimension hvalues => rw [hvalues, List.getElem?_map]

/-- A value of a predicate, put between quotes, is read back as the text that it stands for where a
backslash is an ordinary character, and otherwise if the backslashes of the text are kept. -/
theorem reads_value_iff (rules : Rules) (dimension : String) (v : Value) (m : Membership)
    (h : rules.compile dimension v = some (.oneOf m)) (i : Nat) (value : String)
    (hvalue : m.values[i]? = some value) (b : Builtin) (rest : List Char)
    (hrest : rest.head? ≠ some '\'') :
    ∃ s, m.bindValues[i]? = some s ∧
      (readToken b '\'' (value.toList ++ '\'' :: rest) = some (.string s, rest) ↔
        b.escapes = false ∨ backslashesKept s.toList = true) := by
  rw [values_getElem? h, Option.map_eq_some_iff] at hvalue
  obtain ⟨s, hs, rfl⟩ := hvalue
  refine ⟨s, hs, ?_⟩
  have htoken : readToken b '\'' ((escapeLiteral s).toList ++ '\'' :: rest) = some (.string s, rest) ↔
      readQuoted '\'' b.escapes (doubleChars '\'' s.toList ++ '\'' :: rest) =
        some (s.toList, rest) := by
    rw [readToken_quote, escapeLiteral, toList_double, Option.map_eq_some_iff]
    constructor
    · rintro ⟨⟨cs, rest'⟩, hread, hp⟩
      cases hp
      rw [hread, String.toList_ofList]
      rfl
    · intro hread
      exact ⟨_, hread, by simp⟩
  rw [htoken]
  cases b with
  | mysql => simpa [Builtin.escapes] using readQuoted_quotesDoubled_iff hrest s.toList
  | postgres =>
    have hread := readQuoted_doubleChars (q := '\'') (by decide) hrest false s.toList
    simpa [Builtin.escapes] using hread

/-- A backslash before a wildcard, and a quote. -/
theorem reads_value_wildcard :
    ∃ m, Rules.compile {} "CAMPUS" (.text " 50\\% O'Hara") = some (.oneOf m) ∧
      m.values[0]? = some "50\\% O''Hara" ∧
      readToken .mysql '\'' ("50\\% O''Hara".toList ++ '\'' :: [',']) =
        some (.string "50\\% O'Hara", [',']) := by
  refine ⟨_, rfl, rfl, ?_⟩
  obtain ⟨s, hs, hiff⟩ := reads_value_iff {} "CAMPUS" (.text " 50\\% O'Hara") _ rfl 0
    "50\\% O''Hara" rfl .mysql [','] (by decide)
  obtain rfl : "50\\% O'Hara" = s := Option.some.inj hs
  exact hiff.2 (.inr rfl)

/-- A quote with a backslash before it is taken for a part of the literal, so that what was meant
to be text is read as SQL. -/
theorem value_read_as_code :
    ∃ m, Rules.compile {} "CAMPUS" (.text "\\' OR 1 = 1 --") = some (.oneOf m) ∧
      m.bindValues = ["\\' OR 1 = 1 --"] ∧ m.values = ["\\'' OR 1 = 1 --"] ∧
      readToken .mysql '\'' ("\\'' OR 1 = 1 --".toList ++ ['\'']) =
        some (.string "'", " OR 1 = 1 --'".toList) := by
  refine ⟨_, rfl, rfl, rfl, ?_⟩
  have hvalue : "\\'' OR 1 = 1 --".toList = '\\' :: '\'' :: '\'' :: " OR 1 = 1 --".toList := rfl
  have hcode : " OR 1 = 1 --'".toList = " OR 1 = 1 --".toList ++ ['\''] := rfl
  have hspace : (" OR 1 = 1 --".toList ++ ['\'']).head? ≠ some '\'' := by decide
  rw [readToken_quote, hvalue, hcode, List.cons_append, List.cons_append, List.cons_append,
    Builtin.escapes, readQuoted_escape (by decide), readQuoted_closing hspace]
  rfl

end ExamFilter.Filter
