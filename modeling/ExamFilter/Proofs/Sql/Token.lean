import ExamFilter.Sql.Dialect
import Mathlib.Data.List.TakeWhile

/-!
# Tokens of SQL text

How a database cuts SQL text into tokens. The scanner knows nothing of how text is rendered: it
follows the lexical rules of the two databases whose dialects are built in. Comments, semicolons
and unclosed quotes are no tokens, and a text that holds them is not scanned at all.
-/
namespace ExamFilter.Sql
open Text

/-- The databases whose dialects are built in. -/
inductive Builtin where
  | mysql | postgres
  deriving DecidableEq, Repr

namespace Builtin

def dialect : Builtin → Dialect
  | .mysql => .mysql
  | .postgres => .postgres

/-- The character that opens and closes a quoted name. -/
def nameDelimiter : Builtin → Char
  | .mysql => Char.ofNat 0x60
  | .postgres => '"'

/-- A backslash between single quotes escapes the next character. -/
def escapes : Builtin → Bool
  | .mysql => true
  | .postgres => false

end Builtin

/-- String literals and names are decoded; a placeholder is kept as it is written. -/
inductive Token where
  | string (value : String)
  | name (value : String)
  | word (text : String)
  | number (value : Nat)
  | operator (text : String)
  | placeholder (text : String)
  | opening | closing | comma
  deriving DecidableEq, Repr

def isGap (c : Char) : Bool := c = ' ' || c = '\n' || c = '\t' || c = '\r'

def isWordStart (c : Char) : Bool := c.isAlpha || c = '_'

def isWordPart (c : Char) : Bool := isWordStart c || c.isDigit

def isSign (c : Char) : Bool :=
  c = '<' || c = '>' || c = '=' || c = '|' || c = '!' || c = '+' || c = '-' || c = '*' || c = '/'

/-- Two hyphens, or a slash and an asterisk, open a comment. -/
def opensComment : List Char → Bool
  | '-' :: '-' :: _ | '/' :: '*' :: _ => true
  | _ :: cs => opensComment cs
  | [] => false

/-- What a character stands for after a backslash. The wildcards of patterns keep it. -/
def escaped (c : Char) : List Char :=
  match c with
  | '0' => [Char.ofNat 0]
  | 'b' => [Char.ofNat 8]
  | 'n' => ['\n']
  | 'r' => ['\r']
  | 't' => ['\t']
  | 'Z' => [Char.ofNat 26]
  | '%' => ['\\', '%']
  | '_' => ['\\', '_']
  | c => [c]

/-- The decoded text up to the closing delimiter, and what follows. A doubled delimiter stands for
itself. -/
def readQuoted (q : Char) (escapes : Bool) : List Char → Option (List Char × List Char)
  | [] => none
  | c :: cs =>
    if c = q then
      match cs with
      | [] => some ([], [])
      | d :: rest =>
        if d = q then (readQuoted q escapes rest).map (Prod.map (q :: ·) id) else some ([], cs)
    else if escapes && c = '\\' then
      match cs with
      | [] => none
      | d :: rest => (readQuoted q escapes rest).map (Prod.map (escaped d ++ ·) id)
    else (readQuoted q escapes cs).map (Prod.map (c :: ·) id)

/-- A placeholder whose percent sign has been read. -/
def readPlaceholder : List Char → Option (Token × List Char)
  | '(' :: cs =>
    match cs.dropWhile isWordPart with
    | ')' :: 's' :: rest =>
      some (.placeholder ("%(" ++ String.ofList (cs.takeWhile isWordPart) ++ ")s"), rest)
    | _ => none
  | _ => none

def mark? : Char → Option Token
  | '(' => some .opening
  | ')' => some .closing
  | ',' => some .comma
  | _ => none

/-- The token that begins with the given character, and what follows it. -/
def readToken (b : Builtin) (c : Char) (cs : List Char) : Option (Token × List Char) :=
  if isWordStart c then
    some (.word (String.ofList (c :: cs.takeWhile isWordPart)), cs.dropWhile isWordPart)
  else if c.isDigit then
    some (.number (Nat.ofDigitChars 10 (c :: cs.takeWhile Char.isDigit) 0),
      cs.dropWhile Char.isDigit)
  else if isSign c then
    if opensComment (c :: cs.takeWhile isSign) then none
    else some (.operator (String.ofList (c :: cs.takeWhile isSign)), cs.dropWhile isSign)
  else if c = '\'' then
    (readQuoted c b.escapes cs).map (Prod.map (fun v => .string (String.ofList v)) id)
  else if c = b.nameDelimiter then
    (readQuoted c false cs).map (Prod.map (fun v => .name (String.ofList v)) id)
  else if c = '%' then readPlaceholder cs
  else (mark? c).map fun t => (t, cs)

theorem readQuoted_cons {q c : Char} {escapes : Bool} {cs : List Char} (hc : c ≠ q)
    (hesc : ¬(escapes && c = '\\') = true) :
    readQuoted q escapes (c :: cs) = (readQuoted q escapes cs).map (Prod.map (c :: ·) id) := by
  rw [readQuoted.eq_def]
  simp only [hc, if_false]
  rw [if_neg hesc]

theorem length_readQuoted {q : Char} {escapes : Bool} {cs : List Char} {p : List Char × List Char}
    (h : readQuoted q escapes cs = some p) : p.2.length ≤ cs.length := by
  induction cs using readQuoted.induct q escapes generalizing p with
  | case1 => simp [readQuoted] at h
  | case2 =>
    simp only [readQuoted, if_true, Option.some.injEq] at h
    subst h
    simp
  | case3 rest ih =>
    simp only [readQuoted, if_true, Option.map_eq_some_iff] at h
    obtain ⟨p', hp, rfl⟩ := h
    have hle := ih hp
    simp only [Prod.map_snd, id_eq, List.length_cons]
    omega
  | case4 d rest hd =>
    simp only [readQuoted, hd, if_true, if_false, Option.some.injEq] at h
    subst h
    simp
  | case5 c hc hesc => simp [readQuoted, hc, hesc] at h
  | case6 c hc hesc d rest ih =>
    simp only [readQuoted, hc, hesc, if_true, if_false, Option.map_eq_some_iff] at h
    obtain ⟨p', hp, rfl⟩ := h
    have hle := ih hp
    simp only [Prod.map_snd, id_eq, List.length_cons]
    omega
  | case7 c cs hc hesc ih =>
    rw [readQuoted_cons hc hesc, Option.map_eq_some_iff] at h
    obtain ⟨p', hp, rfl⟩ := h
    have hle := ih hp
    simp only [Prod.map_snd, id_eq, List.length_cons]
    omega

theorem readQuoted_closing {q : Char} {rest : List Char} (h : rest.head? ≠ some q)
    (escapes : Bool) : readQuoted q escapes (q :: rest) = some ([], rest) := by
  cases rest with
  | nil => simp [readQuoted]
  | cons d rest =>
    have hd : d ≠ q := fun hdq => h (by simp [hdq])
    simp [readQuoted, hd]

theorem readQuoted_doubled (q : Char) (escapes : Bool) (cs : List Char) :
    readQuoted q escapes (q :: q :: cs) =
      (readQuoted q escapes cs).map (Prod.map (q :: ·) id) := by
  simp [readQuoted]

theorem readQuoted_escape {q : Char} (hq : q ≠ '\\') (c : Char) (cs : List Char) :
    readQuoted q true ('\\' :: c :: cs) =
      (readQuoted q true cs).map (Prod.map (escaped c ++ ·) id) := by
  simp [readQuoted, hq.symm]

/-- Text between quotes is read back as it was, up to the closing quote, provided that the quote
is not doubled by what follows. -/
theorem readQuoted_doubleChars {q : Char} (hq : q ≠ '\\') {rest : List Char}
    (h : rest.head? ≠ some q) (escapes : Bool) (s : List Char) :
    readQuoted q escapes
        (doubleChars q (if escapes then doubleChars '\\' s else s) ++ q :: rest) =
      some (s, rest) := by
  induction s with
  | nil => cases escapes <;> exact readQuoted_closing h _
  | cons c cs ih =>
    by_cases hc : c = q
    · subst hc
      have hstep : doubleChars c (if escapes then doubleChars '\\' (c :: cs) else c :: cs) =
          c :: c :: doubleChars c (if escapes then doubleChars '\\' cs else cs) := by
        cases escapes <;> simp [doubleChars, hq]
      rw [hstep, List.cons_append, List.cons_append, readQuoted_doubled, ih]
      rfl
    · by_cases hesc : (escapes && c = '\\') = true
      · obtain ⟨rfl, hback⟩ : escapes = true ∧ c = '\\' := by simpa using hesc
        subst hback
        simp only [if_true] at ih ⊢
        rw [doubleChars, if_pos rfl, doubleChars, if_neg hc, doubleChars, if_neg hc,
          List.cons_append, List.cons_append, readQuoted_escape hq, ih]
        rfl
      · have hstep : doubleChars q (if escapes then doubleChars '\\' (c :: cs) else c :: cs) =
            c :: doubleChars q (if escapes then doubleChars '\\' cs else cs) := by
          cases escapes
          · simp [doubleChars, hc]
          · have hback : c ≠ '\\' := by simpa using hesc
            simp [doubleChars, hc, hback]
        rw [hstep, List.cons_append, readQuoted_cons hc hesc, ih]
        rfl

theorem readToken_quote (b : Builtin) (cs : List Char) :
    readToken b '\'' cs = (readQuoted '\'' b.escapes cs).map
      (Prod.map (fun v => .string (String.ofList v)) id) := by
  rw [readToken, if_neg (by decide), if_neg (by decide), if_neg (by decide), if_pos rfl]

theorem length_readPlaceholder {cs : List Char} {p : Token × List Char}
    (h : readPlaceholder cs = some p) : p.2.length ≤ cs.length := by
  unfold readPlaceholder at h
  split at h
  · next cs =>
    split at h
    · next rest hr =>
      cases h
      have hle := List.length_dropWhile_le isWordPart cs
      rw [hr] at hle
      simp only [List.length_cons] at hle ⊢
      omega
    · cases h
  · cases h

theorem length_readToken {b : Builtin} {c : Char} {cs : List Char} {p : Token × List Char}
    (h : readToken b c cs = some p) : p.2.length ≤ cs.length := by
  unfold readToken at h
  split_ifs at h
  · cases h
    exact List.length_dropWhile_le _ _
  · cases h
    exact List.length_dropWhile_le _ _
  · cases h
    exact List.length_dropWhile_le _ _
  · obtain ⟨p', hp, rfl⟩ := Option.map_eq_some_iff.1 h
    exact length_readQuoted hp
  · obtain ⟨p', hp, rfl⟩ := Option.map_eq_some_iff.1 h
    exact length_readQuoted hp
  · exact length_readPlaceholder h
  · obtain ⟨t, ht, rfl⟩ := Option.map_eq_some_iff.1 h
    exact le_refl _

/-- The tokens of a text; gaps between them are passed over. -/
def scan (b : Builtin) : List Char → Option (List Token)
  | [] => some []
  | c :: cs =>
    if isGap c then scan b cs
    else match _h : readToken b c cs with
      | none => none
      | some p => (scan b p.2).map (p.1 :: ·)
termination_by cs => cs.length
decreasing_by
  · simp
  · have hle := length_readToken _h
    simp only [List.length_cons]
    omega

theorem scan_nil (b : Builtin) : scan b [] = some [] := by
  rw [scan]

theorem scan_gap {c : Char} (h : isGap c = true) (b : Builtin) (cs : List Char) :
    scan b (c :: cs) = scan b cs := by
  rw [scan, if_pos h]

theorem scan_token {b : Builtin} {c : Char} {cs rest : List Char} {t : Token}
    (hc : isGap c = false) (h : readToken b c cs = some (t, rest)) :
    scan b (c :: cs) = (scan b rest).map (t :: ·) := by
  rw [scan, if_neg (by simp [hc])]
  split
  · next hn => simp [hn] at h
  · next p hp =>
    rw [hp] at h
    cases h
    rfl

/-- The tokens of SQL text in the eyes of the given database. -/
def lex (b : Builtin) (sql : String) : Option (List Token) := scan b sql.toList

end ExamFilter.Sql
