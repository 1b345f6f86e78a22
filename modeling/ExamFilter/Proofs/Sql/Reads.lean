import ExamFilter.Proofs.Sql.Token
import ExamFilter.Sql.Render

/-!
# Text that is scanned into given tokens

A piece of text reads as a list of tokens if the scanner finds these tokens in it whatever comes
after it, as long as what comes after begins with a gap, a comma or a parenthesis. Pieces that
read so are put together like the text of an expression.
-/
namespace ExamFilter.Sql
open Text

/-- A character that no token goes on with. -/
def endsToken (c : Char) : Bool := c = ' ' || c = '\n' || c = ',' || c = '(' || c = ')'

/-- What may follow a token: nothing, or a character that ends it. -/
def Boundary (rest : List Char) : Prop := ∀ c, rest.head? = some c → endsToken c = true

theorem boundary_nil : Boundary [] := by simp [Boundary]

theorem boundary_cons {c : Char} (h : endsToken c = true) (cs : List Char) :
    Boundary (c :: cs) := by
  intro d hd
  cases hd
  exact h

theorem Boundary.head?_ne {rest : List Char} (h : Boundary rest) {q : Char}
    (hq : endsToken q = false) : rest.head? ≠ some q := by
  intro he
  rw [h q he] at hq
  cases hq

/-- No character of a class goes on after a boundary if none of the class ends a token. -/
theorem Boundary.outside {rest : List Char} (h : Boundary rest) {p : Char → Bool}
    (hp : ∀ c, endsToken c = true → p c = false) : ∀ c, rest.head? = some c → p c = false :=
  fun c hc => hp c (h c hc)

/-- A run of characters of a class is read up to the first character outside. -/
theorem takeWhile_run {p : Char → Bool} {cs rest : List Char} (hcs : ∀ c ∈ cs, p c = true)
    (hrest : ∀ c, rest.head? = some c → p c = false) : (cs ++ rest).takeWhile p = cs := by
  rw [List.takeWhile_append_of_pos hcs]
  cases rest with
  | nil => simp
  | cons c rest => simp [hrest c rfl]

theorem dropWhile_run {p : Char → Bool} {cs rest : List Char} (hcs : ∀ c ∈ cs, p c = true)
    (hrest : ∀ c, rest.head? = some c → p c = false) : (cs ++ rest).dropWhile p = rest := by
  rw [List.dropWhile_append_of_pos hcs]
  cases rest with
  | nil => rfl
  | cons c rest => simp [hrest c rfl]

/-- The text is scanned into the tokens, whatever it is followed by at a boundary. -/
def Reads (b : Builtin) (text : String) (ts : List Token) : Prop :=
  ∀ rest, Boundary rest → scan b (text.toList ++ rest) = (scan b rest).map (ts ++ ·)

theorem Reads.lex {b : Builtin} {text : String} {ts : List Token} (h : Reads b text ts) :
    lex b text = some ts := by
  have hs := h [] boundary_nil
  rw [List.append_nil, scan_nil] at hs
  simpa [Sql.lex] using hs

/-- A text that begins with a character of no gap reads as one token if it is read as one. -/
theorem Reads.of_readToken {b : Builtin} {c : Char} {cs : List Char} {t : Token}
    (hc : isGap c = false)
    (h : ∀ rest, Boundary rest → readToken b c (cs ++ rest) = some (t, rest)) :
    Reads b (String.ofList (c :: cs)) [t] := by
  intro rest hrest
  rw [String.toList_ofList, List.cons_append, scan_token hc (h rest hrest)]
  rfl

theorem not_isWordPart_of_endsToken (c : Char) (h : endsToken c = true) :
    isWordPart c = false := by
  simp only [endsToken, Bool.or_eq_true, decide_eq_true_eq] at h
  rcases h with (((rfl | rfl) | rfl) | rfl) | rfl <;> decide

theorem not_isDigit_of_endsToken (c : Char) (h : endsToken c = true) : c.isDigit = false := by
  have hp := not_isWordPart_of_endsToken c h
  simp only [isWordPart, Bool.or_eq_false_iff] at hp
  exact hp.2

theorem not_isSign_of_endsToken (c : Char) (h : endsToken c = true) : isSign c = false := by
  simp only [endsToken, Bool.or_eq_true, decide_eq_true_eq] at h
  rcases h with (((rfl | rfl) | rfl) | rfl) | rfl <;> decide

theorem not_isWordStart_of_isDigit {c : Char} (h : c.isDigit = true) : isWordStart c = false := by
  have hlow : c ≠ '_' := by
    rintro rfl
    cases h
  simp only [isWordStart, hlow, decide_false, Bool.or_false]
  simp only [Char.isDigit, Bool.and_eq_true, decide_eq_true_eq, ge_iff_le,
    UInt32.le_iff_toNat_le] at h
  have halpha : c.isAlpha = (decide (c.val ≥ 'A'.val ∧ c.val ≤ 'Z'.val) ||
      (decide (c.val ≥ 'a'.val) && decide (c.val ≤ 'z'.val))) := rfl
  rw [halpha, Bool.decide_and]
  simp only [Bool.or_eq_false_iff, Bool.and_eq_false_iff, decide_eq_false_iff_not, ge_iff_le,
    UInt32.le_iff_toNat_le]
  have h9 : '9'.val.toNat = 57 := rfl
  have hA : 'A'.val.toNat = 65 := rfl
  have ha : 'a'.val.toNat = 97 := rfl
  omega

theorem not_isGap_of_isWordPart {c : Char} (h : isWordPart c = true) : isGap c = false := by
  rw [Bool.eq_false_iff]
  intro hg
  simp only [isGap, Bool.or_eq_true, decide_eq_true_eq] at hg
  rcases hg with ((rfl | rfl) | rfl) | rfl <;> revert h <;> decide

theorem not_isGap_of_isSign {c : Char} (h : isSign c = true) : isGap c = false := by
  simp only [isSign, Bool.or_eq_true, decide_eq_true_eq] at h
  rcases h with (((((((rfl | rfl) | rfl) | rfl) | rfl) | rfl) | rfl) | rfl) | rfl <;> decide

theorem not_isSign_of_isDigit {c : Char} (h : c.isDigit = true) : isSign c = false := by
  rw [Bool.eq_false_iff]
  intro hs
  simp only [isSign, Bool.or_eq_true, decide_eq_true_eq] at hs
  rcases hs with (((((((rfl | rfl) | rfl) | rfl) | rfl) | rfl) | rfl) | rfl) | rfl <;>
    revert h <;> decide

/-- A plain word, such as the name of a function or a type. -/
def isWord (s : String) : Bool :=
  match s.toList with
  | [] => false
  | c :: cs => isWordStart c && cs.all isWordPart

theorem reads_word {w : String} (h : isWord w = true) (b : Builtin) : Reads b w [.word w] := by
  unfold isWord at h
  split at h
  · cases h
  · next c cs hw =>
    simp only [Bool.and_eq_true, List.all_eq_true] at h
    have hgap : isGap c = false := not_isGap_of_isWordPart (by simp [isWordPart, h.1])
    have hr : Reads b (String.ofList (c :: cs)) [.word (String.ofList (c :: cs))] := by
      refine Reads.of_readToken hgap fun rest hrest => ?_
      have hout := hrest.outside not_isWordPart_of_endsToken
      rw [readToken, if_pos h.1, takeWhile_run h.2 hout, dropWhile_run h.2 hout]
    rwa [← hw, String.ofList_toList] at hr

/-- The number that a run of decimal digits is read as. -/
theorem readToken_digits (b : Builtin) (n : Nat) {rest : List Char} (hrest : Boundary rest) :
    ∃ c cs, Nat.toDigits 10 n = c :: cs ∧ isGap c = false ∧ c.isDigit = true ∧
      readToken b c (cs ++ rest) = some (.number n, rest) := by
  have hdigit : ∀ c ∈ Nat.toDigits 10 n, c.isDigit = true := fun c hc =>
    Nat.isDigit_of_mem_toDigits (by omega) (by omega) hc
  cases hd : Nat.toDigits 10 n with
  | nil => exact absurd hd Nat.toDigits_ne_nil
  | cons c cs =>
    rw [hd] at hdigit
    have hc : c.isDigit = true := hdigit c (by simp)
    have hcs : ∀ d ∈ cs, d.isDigit = true := fun d hm => hdigit d (by simp [hm])
    refine ⟨c, cs, rfl, not_isGap_of_isWordPart (by simp [isWordPart, hc]), hc, ?_⟩
    have hout := hrest.outside not_isDigit_of_endsToken
    rw [readToken, if_neg (by simp [not_isWordStart_of_isDigit hc]), if_pos hc,
      takeWhile_run hcs hout, dropWhile_run hcs hout, ← hd, Nat.ofDigitChars_ten_toDigits]

theorem reads_number (b : Builtin) (n : Nat) : Reads b (toString n) [.number n] := by
  intro rest hrest
  obtain ⟨c, cs, hd, hgap, -, hread⟩ := readToken_digits b n hrest
  rw [Nat.toString_eq_ofList_toDigits, String.toList_ofList, hd, List.cons_append,
    scan_token hgap hread]
  rfl

theorem not_isWordPart_of_isSign {c : Char} (h : isSign c = true) : isWordPart c = false := by
  simp only [isSign, Bool.or_eq_true, decide_eq_true_eq] at h
  rcases h with (((((((rfl | rfl) | rfl) | rfl) | rfl) | rfl) | rfl) | rfl) | rfl <;> decide

/-- The operator that a run of signs is read as, unless it opens a comment. -/
theorem readToken_signs (b : Builtin) {c : Char} {cs rest : List Char} (hc : isSign c = true)
    (hcs : ∀ d ∈ cs, isSign d = true) (hcomment : opensComment (c :: cs) = false)
    (hrest : ∀ d, rest.head? = some d → isSign d = false) :
    readToken b c (cs ++ rest) = some (.operator (String.ofList (c :: cs)), rest) := by
  have hpart := not_isWordPart_of_isSign hc
  simp only [isWordPart, Bool.or_eq_false_iff] at hpart
  rw [readToken, if_neg (by simp [hpart.1]), if_neg (by simp [hpart.2]), if_pos hc,
    takeWhile_run hcs hrest, dropWhile_run hcs hrest, if_neg (by simp [hcomment])]

/-- A sign and the absolute value. -/
def integerTokens (n : Int) : List Token :=
  if n < 0 then [.operator "-", .number n.natAbs] else [.number n.natAbs]

theorem reads_integer (b : Builtin) (n : Int) : Reads b (toString n) (integerTokens n) := by
  cases n with
  | ofNat n => exact reads_number b n
  | negSucc n =>
    intro rest hrest
    obtain ⟨c, cs, hd, hgap, hc, hread⟩ := readToken_digits b (n + 1) hrest
    have hminus : readToken b '-' (c :: (cs ++ rest)) =
        some (.operator "-", c :: (cs ++ rest)) := by
      refine @readToken_signs b '-' [] _ (by decide) (by simp) (by decide) fun d hd => ?_
      cases hd
      exact not_isSign_of_isDigit hc
    have htext : (toString (Int.negSucc n)).toList = '-' :: c :: cs := by
      change ("-" ++ (n + 1).repr).toList = _
      simp [hd]
    rw [htext, List.cons_append, List.cons_append, scan_token (by decide) hminus,
      scan_token hgap hread]
    simp [integerTokens, Function.comp_def]

/-- A run of signs that opens no comment. -/
def isSignRun (op : String) : Bool :=
  match op.toList with
  | [] => false
  | c :: cs => isSign c && cs.all isSign && !opensComment (c :: cs)

theorem reads_signs {op : String} (h : isSignRun op = true) (b : Builtin) :
    Reads b op [.operator op] := by
  unfold isSignRun at h
  split at h
  · cases h
  · next c cs hop =>
    simp only [Bool.and_eq_true, List.all_eq_true, Bool.not_eq_true'] at h
    obtain ⟨⟨hc, hcs⟩, hcomment⟩ := h
    have hr : Reads b (String.ofList (c :: cs)) [.operator (String.ofList (c :: cs))] :=
      Reads.of_readToken (not_isGap_of_isSign hc) fun rest hrest =>
        readToken_signs b hc hcs hcomment (hrest.outside not_isSign_of_endsToken)
    rwa [← hop, String.ofList_toList] at hr

theorem reads_string (b : Builtin) (s : String) :
    Reads b ("'" ++ b.dialect.escapeString s ++ "'") [.string s] := by
  have htext : ("'" ++ b.dialect.escapeString s ++ "'") = String.ofList ('\'' ::
      (doubleChars '\'' (if b.escapes then doubleChars '\\' s.toList else s.toList) ++
        ['\''])) := by
    apply String.toList_injective
    cases b <;> simp [Dialect.escapeString, Builtin.dialect, Builtin.escapes, Dialect.mysql,
      Dialect.postgres]
  rw [htext]
  refine Reads.of_readToken (by decide) fun rest hrest => ?_
  have hread := readQuoted_doubleChars (q := '\'') (by decide) (hrest.head?_ne (by decide))
    b.escapes s.toList
  rw [readToken_quote, List.append_assoc, List.singleton_append, hread]
  simp

theorem reads_name (b : Builtin) (n : String) : Reads b (b.dialect.quoteName n) [.name n] := by
  have htext : b.dialect.quoteName n = String.ofList (b.nameDelimiter ::
      (doubleChars b.nameDelimiter n.toList ++ [b.nameDelimiter])) := by
    cases b <;> rfl
  have hgap : isGap b.nameDelimiter = false := by cases b <;> decide
  have hend : endsToken b.nameDelimiter = false := by cases b <;> decide
  have hback : b.nameDelimiter ≠ '\\' := by cases b <;> decide
  rw [htext]
  refine Reads.of_readToken hgap fun rest hrest => ?_
  have hread := readQuoted_doubleChars hback (hrest.head?_ne hend) false n.toList
  rw [if_neg (by decide)] at hread
  rw [readToken, if_neg (by cases b <;> decide), if_neg (by cases b <;> decide),
    if_neg (by cases b <;> decide), if_neg (by cases b <;> decide), if_pos rfl,
    List.append_assoc, List.singleton_append, hread]
  simp

theorem reads_placeholder (b : Builtin) (i : Nat) :
    Reads b (placeholder (placeholderName i)) [.placeholder (placeholder (placeholderName i))] := by
  have hname : (placeholderName i).toList = 'p' :: Nat.toDigits 10 i := by
    simp [placeholderName]
  have hpart : ∀ c ∈ 'p' :: Nat.toDigits 10 i, isWordPart c = true := by
    intro c hc
    rcases List.mem_cons.1 hc with rfl | hc
    · decide
    · simp [isWordPart, Nat.isDigit_of_mem_toDigits (by omega) (by omega) hc]
  have htext : placeholder (placeholderName i) =
      String.ofList ('%' :: '(' :: ('p' :: Nat.toDigits 10 i ++ [')', 's'])) := by
    apply String.toList_injective
    simp [placeholder, hname]
  have hvalue : "%(" ++ String.ofList ('p' :: Nat.toDigits 10 i) ++ ")s" =
      placeholder (placeholderName i) := by
    rw [← hname, String.ofList_toList, placeholder]
  rw [htext]
  refine Reads.of_readToken (by decide) fun rest _ => ?_
  have hout : ∀ c, (')' :: 's' :: rest).head? = some c → isWordPart c = false := by
    intro c hc
    cases hc
    decide
  rw [readToken, if_neg (by decide), if_neg (by decide), if_neg (by decide), if_neg (by decide),
    if_neg (by cases b <;> decide), if_pos rfl, List.cons_append, List.append_assoc]
  simp only [readPlaceholder, List.cons_append, List.nil_append]
  rw [← List.cons_append, takeWhile_run hpart hout, dropWhile_run hpart hout, hvalue, htext]
  rfl

/-- A list of pieces with commas between them. -/
def separated : List (List Token) → List Token
  | [] => []
  | ts :: rest => ts ++ rest.flatMap (.comma :: ·)

theorem separated_cons_cons (ts us : List Token) (rest : List (List Token)) :
    separated (ts :: us :: rest) = ts ++ .comma :: separated (us :: rest) := by
  simp [separated]

theorem scan_mark (b : Builtin) {c : Char} {t : Token} (h : mark? c = some t) (cs : List Char) :
    scan b (c :: cs) = (scan b cs).map (t :: ·) := by
  unfold mark? at h
  split at h
  all_goals cases h
  all_goals exact scan_token (by decide) (by cases b <;> rfl)

namespace Reads
variable {b : Builtin} {s t : String} {ts us : List Token}

theorem empty : Reads b "" [] := by
  intro rest _
  simp

/-- Two pieces with a gap between them. -/
theorem spaced (hs : Reads b s ts) (ht : Reads b t us) : Reads b (s ++ " " ++ t) (ts ++ us) := by
  intro rest hrest
  have htext : (s ++ " " ++ t).toList ++ rest = s.toList ++ ' ' :: (t.toList ++ rest) := by simp
  rw [htext, hs _ (boundary_cons (by decide) _), scan_gap (by decide), ht rest hrest]
  simp [Function.comp_def]

/-- Two pieces on lines of their own. -/
theorem lines (hs : Reads b s ts) (ht : Reads b t us) : Reads b (s ++ "\n" ++ t) (ts ++ us) := by
  intro rest hrest
  have htext : (s ++ "\n" ++ t).toList ++ rest = s.toList ++ '\n' :: (t.toList ++ rest) := by simp
  rw [htext, hs _ (boundary_cons (by decide) _), scan_gap (by decide), ht rest hrest]
  simp [Function.comp_def]

theorem comma (hs : Reads b s ts) (ht : Reads b t us) :
    Reads b (s ++ ", " ++ t) (ts ++ .comma :: us) := by
  intro rest hrest
  have htext : (s ++ ", " ++ t).toList ++ rest = s.toList ++ ',' :: ' ' :: (t.toList ++ rest) := by
    simp
  rw [htext, hs _ (boundary_cons (by decide) _), scan_mark b rfl, scan_gap (by decide),
    ht rest hrest]
  simp [Function.comp_def]

/-- A piece in parentheses after another one, such as the arguments after the name of a function. -/
theorem applied (hs : Reads b s ts) (ht : Reads b t us) :
    Reads b (s ++ "(" ++ t ++ ")") (ts ++ .opening :: (us ++ [.closing])) := by
  intro rest hrest
  have htext : (s ++ "(" ++ t ++ ")").toList ++ rest =
      s.toList ++ '(' :: (t.toList ++ ')' :: rest) := by simp
  rw [htext, hs _ (boundary_cons (by decide) _), scan_mark b rfl,
    ht _ (boundary_cons (by decide) _), scan_mark b rfl]
  simp [Function.comp_def]

theorem bracketed (ht : Reads b t us) :
    Reads b ("(" ++ t ++ ")") (.opening :: (us ++ [.closing])) :=
  by simpa using (empty (b := b)).applied ht

theorem listed {α : Type} {text : α → String} {tokens : α → List Token} {l : List α}
    (h : ∀ a ∈ l, Reads b (text a) (tokens a)) :
    Reads b (Dialect.listed (l.map text)) (separated (l.map tokens)) := by
  induction l with
  | nil => exact empty
  | cons a l ih =>
    have ha := h a (by simp)
    have hl := ih fun a' hm => h a' (by simp [hm])
    cases l with
    | nil => simpa [Dialect.listed, separated] using ha
    | cons a' l => simpa [Dialect.listed, separated_cons_cons] using ha.comma hl

end Reads

end ExamFilter.Sql
