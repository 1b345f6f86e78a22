import ExamFilter.Proofs.Sql.TokenTree

/-!
# Trees read back from SQL text

The text of an expression holds a pair of parentheses for each of its inner nodes. A reader that
goes by these, by commas and by the words after an operand, and that knows of no precedence, gets
the tree back. Hence no two trees have the same text.
-/
namespace ExamFilter.Sql

/-- A reader takes tokens from the front, if it finds what it looks for. -/
abbrev Reader := StateT (List Token) Option

namespace Reader

def next : Reader Token
  | [] => none
  | t :: ts => some (t, ts)

def expect (t : Token) : Reader Unit := do
  if (← next) = t then return () else failure

end Reader

open Reader

/-- The operator that a token stands for. -/
def operator? : Token → Option String
  | .word w => if w ∈ wordOperators then some w else none
  | .operator s => if s ∈ signOperators then some s else none
  | _ => none

section Parts
variable (read : Reader Expr) (n : Nat)

/-- At most `n` operands with commas between them, up to the closing parenthesis. -/
def readItems : Nat → Reader (List Expr)
  | 0 => failure
  | n + 1 => do
    let e ← read
    match ← next with
    | .comma => return e :: (← readItems n)
    | .closing => return [e]
    | _ => failure

/-- The operands of a list whose parenthesis has been opened. -/
def readListed : Reader (List Expr)
  | .closing :: ts => some ([], ts)
  | ts => readItems read n ts

/-- What follows `IS`. -/
def readNullTest (e : Expr) : Reader Expr := do
  match ← next with
  | .word "NULL" =>
    expect .closing
    return .isNull e
  | .word "NOT" =>
    expect (.word "NULL")
    expect .closing
    return .isNotNull e
  | _ => failure

/-- An operator's second operand. -/
def readOperation (e : Expr) : Option String → Reader Expr
  | none => failure
  | some op => do
    let right ← read
    expect .closing
    return .binary e op right

/-- What follows the first operand between parentheses, given the token right after it. -/
def readRest (e : Expr) : Token → Reader Expr
  | .word "IS" => readNullTest e
  | .word "IN" => do
    expect .opening
    let values ← readListed read n
    expect .closing
    return .oneOf e values
  | .word "BETWEEN" => do
    let low ← read
    expect (.word "AND")
    let high ← read
    expect .closing
    return .between e low high
  | t => readOperation read e (operator? t)

def readCast : Reader Expr := do
  expect .opening
  let e ← read
  expect (.word "AS")
  match ← next with
  | .word type =>
    expect .closing
    return .cast e type
  | _ => failure

/-- What begins with a word: null, a cast or a call. -/
def readWord (w : String) : Reader Expr :=
  if w = "NULL" then return .literal .null
  else if w = "CAST" then readCast read
  else do
    expect .opening
    return .call w (← readListed read n)

def readNegative : Reader Expr := do
  match ← next with
  | .number k => return .literal (.int (-k))
  | _ => failure

/-- An expression, given its first token. -/
def readFrom : Token → Reader Expr
  | .string s => return .string s
  | .number k => return .literal (.int k)
  | .operator "-" => readNegative
  | .name c => return .column c
  | .placeholder p => return .raw p
  | .word w => readWord read n w
  | .opening => do
    let e ← read
    readRest read n e (← next)
  | _ => failure

end Parts

/-- An expression that is nested at most `n` times and lists at most `n` operands. -/
def readExpr : Nat → Reader Expr
  | 0 => failure
  | n + 1 => do readFrom (readExpr n) n (← next)

/-- The tree of which SQL text is the rendering. -/
def readTree (b : Builtin) (sql : String) : Option Expr := do
  let ts ← lex b sql
  let (e, rest) ← readExpr ts.length ts
  if rest.isEmpty then some e else none

/-- The reader reads the tokens as the given value, whatever follows them. -/
def Yields {α : Type} (r : Reader α) (ts : List Token) (a : α) : Prop :=
  ∀ rest, r (ts ++ rest) = some (a, rest)

namespace Yields
variable {α β : Type} {a : α} {c : β} {ts us : List Token} {t : Token}

theorem pure (a : α) : Yields (Pure.pure a) [] a := fun _ => rfl

theorem bind {r : Reader α} {k : α → Reader β} (h : Yields r ts a) (hk : Yields (k a) us c) :
    Yields (r >>= k) (ts ++ us) c := by
  intro rest
  have hrun : (r >>= k) (ts ++ us ++ rest) =
      (r (ts ++ (us ++ rest))).bind fun p => k p.1 p.2 := by
    rw [List.append_assoc]
    rfl
  rw [hrun, h]
  exact hk rest

theorem next {k : Token → Reader β} (h : Yields (k t) ts c) :
    Yields (Reader.next >>= k) (t :: ts) c := h

theorem expect {k : Unit → Reader β} (h : Yields (k ()) ts c) :
    Yields (Reader.expect t >>= k) (t :: ts) c := by
  intro rest
  have hrun : (Reader.expect t >>= k) (t :: ts ++ rest) =
      ((if t = t then Pure.pure () else failure : Reader Unit) >>= k) (ts ++ rest) := rfl
  rw [hrun, if_pos rfl]
  exact h rest

/-- A last value is made of what has been read. -/
theorem map {r : Reader α} {f : α → β} (h : Yields r ts a) :
    Yields (r >>= fun x => Pure.pure (f x)) ts (f a) := by
  have hbind := h.bind (k := fun x => Pure.pure (f x)) (Yields.pure (f a))
  rwa [List.append_nil] at hbind

end Yields

/-- The trees that can be told apart by their texts: nothing but the words for null and for casts is
excluded from the names of functions. -/
inductive Readable : Expr → Prop where
  | text (s : String) : Readable (.literal (.text s))
  | int (n : Int) : Readable (.literal (.int n))
  | null : Readable (.literal .null)
  | column (name : String) : Readable (.column name)
  | call {function : String} {args : List Expr} (hfunction : isWord function = true)
      (hnull : function ≠ "NULL") (hcast : function ≠ "CAST") (hargs : ∀ e ∈ args, Readable e) :
      Readable (.call function args)
  | binary {left right : Expr} {op : String} (hop : op ∈ wordOperators ++ signOperators)
      (hleft : Readable left) (hright : Readable right) : Readable (.binary left op right)
  | isNull {e : Expr} (he : Readable e) : Readable (.isNull e)
  | isNotNull {e : Expr} (he : Readable e) : Readable (.isNotNull e)
  | oneOf {e : Expr} {values : List Expr} (he : Readable e) (hvalues : ∀ v ∈ values, Readable v) :
      Readable (.oneOf e values)
  | cast {e : Expr} {type : String} (htype : isWord type = true) (he : Readable e) :
      Readable (.cast e type)
  | bound (i : Nat) : Readable (.raw (placeholder (placeholderName i)))
  | between {e low high : Expr} (he : Readable e) (hlow : Readable low) (hhigh : Readable high) :
      Readable (.between e low high)

theorem Readable.plain {e : Expr} (h : Readable e) : Plain e := by
  induction h with
  | text s => exact .text s
  | int n => exact .int n
  | null => exact .null
  | column name => exact .column name
  | call hfunction _ _ _ ih => exact .call hfunction ih
  | binary hop _ _ ihl ihr => exact .binary hop ihl ihr
  | isNull _ ih => exact .isNull ih
  | isNotNull _ ih => exact .isNotNull ih
  | oneOf _ _ ihe ihvalues => exact .oneOf ihe ihvalues
  | cast htype _ ih => exact .cast htype ih
  | bound i => exact .bound i
  | between _ _ _ ihe ihlow ihhigh => exact .between ihe ihlow ihhigh

/-- No tree begins with a closing parenthesis. -/
theorem Readable.exists_cons {e : Expr} (h : Readable e) :
    ∃ t ts, tokens e = t :: ts ∧ t ≠ .closing := by
  cases h with
  | int n =>
    rw [tokens, literalTokens, integerTokens]
    split
    · exact ⟨_, _, rfl, by decide⟩
    · exact ⟨_, _, rfl, by simp⟩
  | bound i =>
    rw [tokens, rawTokens, if_neg (placeholder_ne_nothing _)]
    exact ⟨_, _, rfl, by simp⟩
  | null => exact ⟨_, _, rfl, by decide⟩
  | _ => exact ⟨_, _, rfl, by simp⟩

section Parts
variable {read : Reader Expr} {n : Nat} {e : Expr}

theorem yields_items {es : List Expr} (hne : es ≠ []) (hn : es.length ≤ n)
    (h : ∀ e ∈ es, Yields read (tokens e) e) :
    Yields (readItems read n) (separated (es.map tokens) ++ [.closing]) es := by
  induction es generalizing n with
  | nil => exact absurd rfl hne
  | cons e es ih =>
    obtain ⟨m, rfl⟩ : ∃ m, n = m + 1 := ⟨n - 1, by simp at hn; omega⟩
    have he := h e (by simp)
    cases es with
    | nil =>
      have hone : separated [tokens e] = tokens e := by simp [separated]
      rw [List.map_cons, List.map_nil, hone]
      exact he.bind (Yields.next (t := .closing) (.pure [e]))
    | cons e' es =>
      have hrest := ih (n := m) (by simp) (by simpa using hn) fun e hm => h e (by simp [hm])
      rw [List.map_cons, List.map_cons, separated_cons_cons, List.append_assoc, List.cons_append]
      exact he.bind (Yields.next (t := .comma) hrest.map)

theorem readListed_of_ne {t : Token} (ht : t ≠ .closing) (ts : List Token) :
    readListed read n (t :: ts) = readItems read n (t :: ts) := by
  unfold readListed
  split
  · next h => exact absurd (List.cons.inj h).1 ht
  · rfl

theorem yields_listed {es : List Expr} (hes : ∀ e ∈ es, Readable e) (hn : es.length ≤ n)
    (h : ∀ e ∈ es, Yields read (tokens e) e) :
    Yields (readListed read n) (separated (tokensEach es) ++ [.closing]) es := by
  rw [tokensEach_eq_map]
  cases es with
  | nil => exact fun rest => rfl
  | cons e es =>
    intro rest
    obtain ⟨t, ts, hts, ht⟩ := (hes e (by simp)).exists_cons
    have hitems := yields_items (List.cons_ne_nil e es) hn h rest
    rw [List.map_cons, separated, hts, List.cons_append, List.cons_append, List.cons_append] at hitems ⊢
    rw [readListed_of_ne ht, hitems]

theorem yields_isNull : Yields (readNullTest e) [.word "NULL", .closing] (.isNull e) :=
  Yields.next (Yields.expect (.pure _))

theorem yields_isNotNull :
    Yields (readNullTest e) [.word "NOT", .word "NULL", .closing] (.isNotNull e) :=
  Yields.next (Yields.expect (Yields.expect (.pure _)))

theorem readRest_operatorToken {op : String} (h : op ∈ wordOperators ++ signOperators) :
    readRest read n e (operatorToken op) = readOperation read e (some op) := by
  simp only [wordOperators, signOperators, List.cons_append, List.nil_append, List.mem_cons,
    List.not_mem_nil, or_false] at h
  rcases h with rfl | rfl | rfl | rfl | rfl | rfl | rfl | rfl <;> rfl

theorem yields_binary {right : Expr} {op : String} (hop : op ∈ wordOperators ++ signOperators)
    (hright : Yields read (tokens right) right) :
    Yields (readRest read n e (operatorToken op)) (tokens right ++ [.closing])
      (.binary e op right) := by
  rw [readRest_operatorToken hop]
  exact hright.bind (Yields.expect (.pure _))

theorem yields_oneOf {values : List Expr}
    (hvalues : Yields (readListed read n) (separated (tokensEach values) ++ [.closing]) values) :
    Yields (readRest read n e (.word "IN"))
      (.opening :: (separated (tokensEach values) ++ [.closing, .closing])) (.oneOf e values) := by
  have h := hvalues.bind (k := fun vs => expect .closing >>= fun _ => return Expr.oneOf e vs)
    (Yields.expect (.pure (Expr.oneOf e values)))
  rw [List.append_assoc] at h
  exact Yields.expect h

theorem yields_between {low high : Expr} (hlow : Yields read (tokens low) low)
    (hhigh : Yields read (tokens high) high) :
    Yields (readRest read n e (.word "BETWEEN"))
      (tokens low ++ .word "AND" :: (tokens high ++ [.closing])) (.between e low high) :=
  hlow.bind (Yields.expect (hhigh.bind (Yields.expect (.pure _))))

theorem yields_cast (he : Yields read (tokens e) e) (type : String) :
    Yields (readCast read) (.opening :: (tokens e ++ [.word "AS", .word type, .closing]))
      (.cast e type) :=
  Yields.expect (he.bind (Yields.expect (Yields.next (Yields.expect (.pure _)))))

theorem yields_call {function : String} {args : List Expr} (hnull : function ≠ "NULL")
    (hcast : function ≠ "CAST")
    (hargs : Yields (readListed read n) (separated (tokensEach args) ++ [.closing]) args) :
    Yields (readWord read n function) (.opening :: (separated (tokensEach args) ++ [.closing]))
      (.call function args) := by
  rw [readWord, if_neg hnull, if_neg hcast]
  exact Yields.expect hargs.map

theorem yields_bracketed {t : Token} {ts : List Token} {e' : Expr}
    (he : Yields read (tokens e) e) (h : Yields (readRest read n e t) ts e') :
    Yields (readFrom read n .opening) (tokens e ++ t :: ts) e' :=
  he.bind (Yields.next h)

end Parts

/-- Enough turns are left for what follows the first token. -/
theorem yields_readExpr {t : Token} {ts : List Token} {e : Expr} {n : Nat}
    (hn : (t :: ts).length ≤ n)
    (h : ∀ m, ts.length ≤ m → Yields (readFrom (readExpr m) m t) ts e) :
    Yields (readExpr n) (t :: ts) e := by
  obtain ⟨m, rfl⟩ : ∃ m, n = m + 1 := ⟨n - 1, by simp at hn; omega⟩
  exact Yields.next (h m (by simpa using hn))

/-- The tokens of any operand of a list, and the number of the operands, are within a bound for the
tokens of the list. -/
theorem length_separated_le {es : List Expr} (hes : ∀ e ∈ es, Readable e) :
    es.length ≤ (separated (tokensEach es)).length ∧
      ∀ e ∈ es, (tokens e).length ≤ (separated (tokensEach es)).length := by
  rw [tokensEach_eq_map]
  induction es with
  | nil => simp
  | cons e es ih =>
    obtain ⟨t, ts, hts, -⟩ := (hes e (by simp)).exists_cons
    obtain ⟨hlength, hitems⟩ := ih fun e hm => hes e (by simp [hm])
    cases es with
    | nil => simp [separated, hts]
    | cons e' es =>
      rw [List.map_cons] at hlength hitems
      simp only [List.map_cons, separated_cons_cons, List.length_append, List.length_cons]
        at hlength ⊢
      refine ⟨?_, fun e₀ hm => ?_⟩
      · rw [hts, List.length_cons]
        omega
      · rcases List.mem_cons.1 hm with rfl | hm
        · omega
        · have hle := hitems e₀ hm
          omega

/-- The tokens of a tree are read as the tree. -/
theorem Readable.yields {e : Expr} (h : Readable e) {n : Nat} (hn : (tokens e).length ≤ n) :
    Yields (readExpr n) (tokens e) e := by
  induction h generalizing n with
  | text s => exact yields_readExpr hn fun m _ => .pure _
  | int k =>
    rw [tokens, literalTokens, integerTokens] at hn ⊢
    split at hn
    · next hneg =>
      rw [if_pos hneg]
      refine yields_readExpr hn fun m _ => ?_
      have hk : k = -((k.natAbs : Nat) : Int) := by omega
      have hread : Yields readNegative [.number k.natAbs]
          (.literal (.int (-((k.natAbs : Nat) : Int)))) := Yields.next (.pure _)
      rw [← hk] at hread
      exact hread
    · next hpos =>
      rw [if_neg hpos]
      have hk : k = ((k.natAbs : Nat) : Int) := by omega
      have hread : Yields (readExpr n) [.number k.natAbs]
          (.literal (.int ((k.natAbs : Nat) : Int))) := yields_readExpr hn fun m _ => .pure _
      rw [← hk] at hread
      exact hread
  | null => exact yields_readExpr hn fun m _ => .pure _
  | column name => exact yields_readExpr hn fun m _ => .pure _
  | bound i =>
    rw [tokens, rawTokens, if_neg (placeholder_ne_nothing _)] at hn ⊢
    exact yields_readExpr hn fun m _ => .pure _
  | call hfunction hnull hcast hargs ih =>
    rw [tokens] at hn ⊢
    obtain ⟨hlength, hitems⟩ := length_separated_le hargs
    refine yields_readExpr hn fun m hm => yields_call hnull hcast ?_
    simp only [List.length_cons, List.length_append] at hm
    refine yields_listed hargs (by omega) fun e he => ih e he ?_
    have hle := hitems e he
    omega
  | binary hop hleft hright ihl ihr =>
    rw [tokens, List.append_assoc, List.cons_append] at hn ⊢
    refine yields_readExpr hn fun m hm => ?_
    simp only [List.length_cons, List.length_append] at hm
    exact yields_bracketed (ihl (by omega)) (yields_binary hop (ihr (by omega)))
  | isNull he ih =>
    rw [tokens] at hn ⊢
    refine yields_readExpr hn fun m hm => ?_
    simp only [List.length_cons, List.length_append] at hm
    exact yields_bracketed (ih (by omega)) yields_isNull
  | isNotNull he ih =>
    rw [tokens] at hn ⊢
    refine yields_readExpr hn fun m hm => ?_
    simp only [List.length_cons, List.length_append] at hm
    exact yields_bracketed (ih (by omega)) yields_isNotNull
  | oneOf he hvalues ihe ihvalues =>
    rw [tokens] at hn ⊢
    obtain ⟨hlength, hitems⟩ := length_separated_le hvalues
    refine yields_readExpr hn fun m hm => ?_
    simp only [List.length_cons, List.length_append] at hm
    refine yields_bracketed (ihe (by omega)) (yields_oneOf ?_)
    refine yields_listed hvalues (by omega) fun v hv => ihvalues v hv ?_
    have hle := hitems v hv
    omega
  | cast htype he ih =>
    rw [tokens] at hn ⊢
    refine yields_readExpr hn fun m hm => ?_
    simp only [List.length_cons, List.length_append] at hm
    exact yields_cast (ih (by omega)) _
  | between he hlow hhigh ihe ihlow ihhigh =>
    rw [tokens] at hn ⊢
    simp only [List.append_assoc, List.cons_append] at hn ⊢
    refine yields_readExpr hn fun m hm => ?_
    simp only [List.length_cons, List.length_append] at hm
    exact yields_bracketed (ihe (by omega)) (yields_between (ihlow (by omega)) (ihhigh (by omega)))

theorem Readable.readTree_text {e : Expr} (h : Readable e) (b : Builtin) :
    readTree b (b.dialect.text e) = some e := by
  have hread := h.yields le_rfl []
  rw [List.append_nil] at hread
  rw [readTree, (h.plain.reads b).lex]
  change (readExpr (tokens e).length (tokens e)).bind _ = _
  rw [hread]
  rfl

theorem Readable.literalSql_eq_ok_iff {e : Expr} (h : Readable e) {d : Dialect} {sql : String} :
    d.literalSql e = .ok sql ↔
      (∀ v ∈ e.boundValues, v.isPrintable = true) ∧ d.text e = sql := by
  rw [Dialect.literalSql_eq, Dialect.settled_eq_ok_iff, h.plain.fault?_eq_none_iff]

/-- There is a text if all literals are printed. It is read back as the tree, so that trees with
the same text are the same tree. -/
theorem readTree_literalSql (b : Builtin) (e e' : Expr) (he : Readable e) (he' : Readable e') :
    ((∃ sql, b.dialect.literalSql e = .ok sql) ↔ ∀ v ∈ e.boundValues, v.isPrintable = true) ∧
      (∀ sql, b.dialect.literalSql e = .ok sql → readTree b sql = some e) ∧
      ∀ sql, b.dialect.literalSql e = .ok sql → b.dialect.literalSql e' = .ok sql → e = e' := by
  simp only [he.literalSql_eq_ok_iff, he'.literalSql_eq_ok_iff]
  have hread := he.readTree_text b
  refine ⟨by simp, ?_, ?_⟩
  · rintro sql ⟨-, rfl⟩
    exact hread
  · rintro sql ⟨-, rfl⟩ ⟨-, htext⟩
    rw [← htext, he'.readTree_text b] at hread
    exact (Option.some.inj hread).symm

/-- A limit that is a call of a function named like the word between the limits, and names and texts
that hold parentheses, quotes and commas. -/
theorem readTree_literalSql_words :
    let e : Expr := .between (.column "a) AND (b") (.call "AND" [.literal .null, .literal (.int (-5))])
      (.oneOf (.string "', 'x' OR ('") [])
    Readable e ∧ ∃ sql, Dialect.mysql.literalSql e = .ok sql ∧ readTree .mysql sql = some e := by
  intro e
  have hcall : Readable (.call "AND" [.literal .null, .literal (.int (-5))]) := by
    refine .call (by decide) (by decide) (by decide) ?_
    simp only [List.forall_mem_cons]
    exact ⟨.null, .int _, nofun⟩
  have he : Readable e := .between (.column _) hcall (.oneOf (.text _) (by simp))
  obtain ⟨hiff, hread, -⟩ := readTree_literalSql .mysql e e he he
  obtain ⟨sql, hsql⟩ := hiff.2 (by decide +kernel)
  exact ⟨he, sql, hsql, hread sql hsql⟩

end ExamFilter.Sql
