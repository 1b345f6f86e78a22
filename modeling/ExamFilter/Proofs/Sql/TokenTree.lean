import ExamFilter.Proofs.Sql.Binding
import ExamFilter.Proofs.Sql.Reads

/-!
# The tokens of a tree

The tokens of an expression by recursion on the expression, and the proof that a database finds
exactly these in the rendered text. A literal is one token that is decoded to the text of the
literal, and a name is one token that is decoded to the name, whatever characters they hold.
-/
namespace ExamFilter.Sql

def wordOperators : List String := ["AND", "OR", "LIKE", "ILIKE"]

def signOperators : List String := ["<>", ">=", "<=", "||"]

def operatorToken (op : String) : Token := if op ∈ wordOperators then .word op else .operator op

def literalTokens : Value → List Token
  | .text s => [.string s]
  | .int n => integerTokens n
  | .null => [.word "NULL"]
  | .bool b => [.word (Value.boolText b)]
  | _ => []

/-- Raw text is the condition that no row satisfies, or a placeholder. -/
def rawTokens (sql : String) : List Token :=
  if sql = "(1 = 0)" then [.opening, .number 1, .operator "=", .number 0, .closing]
  else [.placeholder sql]

mutual

def tokens : Expr → List Token
  | .literal v => literalTokens v
  | .column name => [.name name]
  | .call function args => .word function :: .opening :: (separated (tokensEach args) ++ [.closing])
  | .binary left op right =>
    .opening :: (tokens left ++ operatorToken op :: tokens right ++ [.closing])
  | .isNull e => .opening :: (tokens e ++ [.word "IS", .word "NULL", .closing])
  | .isNotNull e => .opening :: (tokens e ++ [.word "IS", .word "NOT", .word "NULL", .closing])
  | .oneOf e values =>
    .opening :: (tokens e ++ .word "IN" :: .opening ::
      (separated (tokensEach values) ++ [.closing, .closing]))
  | .cast e type => .word "CAST" :: .opening :: (tokens e ++ [.word "AS", .word type, .closing])
  | .raw sql => rawTokens sql
  | .between e low high =>
    .opening :: (tokens e ++ .word "BETWEEN" :: tokens low ++ .word "AND" :: tokens high ++
      [.closing])
  | .stray _ | .strayTable _ => []

def tokensEach : List Expr → List (List Token)
  | [] => []
  | e :: es => tokens e :: tokensEach es

end

theorem tokensEach_eq_map (es : List Expr) : tokensEach es = es.map tokens := by
  induction es with
  | nil => rfl
  | cons e es ih => rw [tokensEach, ih, List.map_cons]

/-- The trees that conditions and queries are made of: literals of any text, columns of any name,
and functions and types named by plain words. -/
inductive Plain : Expr → Prop where
  | text (s : String) : Plain (.literal (.text s))
  | int (n : Int) : Plain (.literal (.int n))
  | bool (b : Bool) : Plain (.literal (.bool b))
  | null : Plain (.literal .null)
  | column (name : String) : Plain (.column name)
  | call {function : String} {args : List Expr} (hfunction : isWord function = true)
      (hargs : ∀ e ∈ args, Plain e) : Plain (.call function args)
  | binary {left right : Expr} {op : String} (hop : op ∈ wordOperators ++ signOperators)
      (hleft : Plain left) (hright : Plain right) : Plain (.binary left op right)
  | isNull {e : Expr} (he : Plain e) : Plain (.isNull e)
  | isNotNull {e : Expr} (he : Plain e) : Plain (.isNotNull e)
  | oneOf {e : Expr} {values : List Expr} (he : Plain e) (hvalues : ∀ v ∈ values, Plain v) :
      Plain (.oneOf e values)
  | cast {e : Expr} {type : String} (htype : isWord type = true) (he : Plain e) :
      Plain (.cast e type)
  | nothing : Plain .matchNothing
  | bound (i : Nat) : Plain (.raw (placeholder (placeholderName i)))
  | between {e low high : Expr} (he : Plain e) (hlow : Plain low) (hhigh : Plain high) :
      Plain (.between e low high)

theorem reads_operator {op : String} (h : op ∈ wordOperators ++ signOperators) (b : Builtin) :
    Reads b op [operatorToken op] := by
  unfold operatorToken
  rcases List.mem_append.1 h with hw | hs
  · rw [if_pos hw]
    have hword : ∀ w ∈ wordOperators, isWord w = true := by decide
    exact reads_word (hword op hw) b
  · have hsign : ∀ s ∈ signOperators, s ∉ wordOperators ∧ isSignRun s = true := by decide
    rw [if_neg (hsign op hs).1]
    exact reads_signs (hsign op hs).2 b

theorem reads_nothing (b : Builtin) : Reads b "(1 = 0)" (rawTokens "(1 = 0)") := by
  have hequals : Reads b "=" [.operator "="] := reads_signs (by decide) b
  exact ((reads_number b 1).spaced (hequals.spaced (reads_number b 0))).bracketed

theorem faults?_eq_none {es : List Expr} (h : ∀ e ∈ es, e.fault? = none) :
    Expr.faults? es = none := by
  induction es with
  | nil => rfl
  | cons e es ih => rw [Expr.faults?, h e (by simp), ih fun e' hm => h e' (by simp [hm])]; rfl

/-- There are no strays in a plain tree, so that all that can fail is the printing of a literal. -/
theorem Plain.fault?_eq_none_iff {e : Expr} (h : Plain e) :
    e.fault? = none ↔ ∀ v ∈ e.boundValues, v.isPrintable = true := by
  refine ⟨fun hfault => ((Expr.fault?_eq_none_iff 0 e).1 hfault).2, fun hprint => ?_⟩
  induction h with
  | text s => rfl
  | int n =>
    rw [Expr.boundValues_literal (by simp), List.forall_mem_singleton] at hprint
    exact literalFault?_eq_none_iff.2 hprint
  | bool | null | column | nothing | bound => rfl
  | call hfunction hargs ih =>
    rw [Expr.boundValues, Expr.boundValuesAll_eq_flatMap, List.forall_mem_flatMap] at hprint
    exact faults?_eq_none fun e he => ih e he (hprint e he)
  | binary hop hleft hright ihl ihr =>
    rw [Expr.boundValues, List.forall_mem_append] at hprint
    rw [Expr.fault?, ihl hprint.1, ihr hprint.2]
    rfl
  | isNull he ih | isNotNull he ih | cast htype he ih => exact ih hprint
  | oneOf he hvalues ihe ihvalues =>
    rw [Expr.boundValues, List.forall_mem_append, Expr.boundValuesAll_eq_flatMap,
      List.forall_mem_flatMap] at hprint
    rw [Expr.fault?, faults?_eq_none fun v hv => ihvalues v hv (hprint.1 v hv), ihe hprint.2]
    rfl
  | between he hlow hhigh ihe ihlow ihhigh =>
    rw [Expr.boundValues, List.forall_mem_append, List.forall_mem_append] at hprint
    rw [Expr.fault?, ihe hprint.1, ihlow hprint.2.1, ihhigh hprint.2.2]
    rfl

theorem placeholder_ne_nothing (name : String) : placeholder name ≠ "(1 = 0)" := by
  intro h
  have hc := congrArg String.toList h
  simp [placeholder] at hc

/-- The rendered text of a plain tree reads as the tokens of the tree. -/
theorem Plain.reads {e : Expr} (h : Plain e) (b : Builtin) :
    Reads b (b.dialect.text e) (tokens e) := by
  induction h with
  | text s => exact reads_string b s
  | int n => exact reads_integer b n
  | bool v =>
    cases v with
    | false => exact reads_word (w := "False") (by decide) b
    | true => exact reads_word (w := "True") (by decide) b
  | null => exact reads_word (w := "NULL") (by decide) b
  | column name => exact reads_name b name
  | call hf hargs ih =>
    simp only [Dialect.text, tokens, Dialect.texts_eq_map, tokensEach_eq_map]
    exact (reads_word hf b).applied (.listed ih)
  | binary hop hleft hright ihl ihr =>
    have h := ((ihl.spaced (reads_operator hop b)).spaced ihr).bracketed
    simpa [Dialect.text, tokens, String.append_assoc] using h
  | isNull he ih =>
    have h := ((ih.spaced (reads_word (w := "IS") (by decide) b)).spaced
      (reads_word (w := "NULL") (by decide) b)).bracketed
    simpa [Dialect.text, tokens, String.append_assoc] using h
  | isNotNull he ih =>
    have h := (((ih.spaced (reads_word (w := "IS") (by decide) b)).spaced
      (reads_word (w := "NOT") (by decide) b)).spaced
      (reads_word (w := "NULL") (by decide) b)).bracketed
    simpa [Dialect.text, tokens, String.append_assoc] using h
  | @oneOf e values he hvalues ihe ihvalues =>
    have h := (ihe.spaced ((reads_word (w := "IN") (by decide) b).spaced
      (Reads.listed ihvalues).bracketed)).bracketed
    have htext : b.dialect.text (.oneOf e values) = "(" ++ (b.dialect.text e ++ " " ++
        ("IN" ++ " " ++ ("(" ++ Dialect.listed (values.map b.dialect.text) ++ ")"))) ++ ")" := by
      rw [Dialect.text, Dialect.texts_eq_map]
      exact String.toList_injective (by simp)
    rw [htext]
    simpa [tokens, tokensEach_eq_map] using h
  | cast htype he ih =>
    have h := (reads_word (w := "CAST") (by decide) b).applied
      ((ih.spaced (reads_word (w := "AS") (by decide) b)).spaced (reads_word htype b))
    simpa [Dialect.text, tokens, String.append_assoc] using h
  | nothing => exact reads_nothing b
  | bound i =>
    simpa [Dialect.text, tokens, rawTokens, placeholder_ne_nothing] using reads_placeholder b i
  | between he hlow hhigh ihe ihlow ihhigh =>
    have h := ((((ihe.spaced (reads_word (w := "BETWEEN") (by decide) b)).spaced ihlow).spaced
      (reads_word (w := "AND") (by decide) b)).spaced ihhigh).bracketed
    simpa [Dialect.text, tokens, String.append_assoc] using h

/-- A query all of whose expressions are plain. -/
structure Select.Plain (q : Select) : Prop where
  columns : ∀ e ∈ q.columns, Sql.Plain e
  condition : ∀ e, q.condition = some e → Sql.Plain e
  order : ∀ e ∈ q.order, Sql.Plain e

def columnsTokens (q : Select) : List Token :=
  .word "SELECT" :: ((if q.distinct then [.word "DISTINCT"] else []) ++
    if q.columns.isEmpty then [.operator "*"] else separated (q.columns.map tokens))

def orderTokens (q : Select) : List Token :=
  if q.order.isEmpty then []
  else .word "ORDER" :: .word "BY" :: separated (q.order.map fun e => tokens e ++ [.word "ASC"])

/-- The tokens of a query, clause by clause. -/
def selectTokens (q : Select) : List Token :=
  columnsTokens q ++ (q.table.toList.flatMap fun name => [.word "FROM", .name name])
    ++ (q.condition.toList.flatMap fun e => .word "WHERE" :: tokens e) ++ orderTokens q

theorem Plain.isGiven {e : Expr} (h : Plain e) : e.isGiven = true := by
  cases h <;> rfl

theorem Select.Plain.givenCondition {q : Select} (h : q.Plain) :
    q.givenCondition = q.condition := by
  unfold Select.givenCondition
  cases hc : q.condition with
  | none => rfl
  | some e => simp [(h.condition e hc).isGiven]

theorem Select.Plain.fault?_eq_none_iff {q : Select} (h : q.Plain) :
    q.fault? = none ↔ ∀ v ∈ q.boundValues, v.isPrintable = true := by
  refine ⟨fun hfault => (Select.fault?_eq_none_iff q).1 hfault |>.2, fun hprint => ?_⟩
  rw [Select.boundValues, List.forall_mem_append, List.forall_mem_append,
    Expr.boundValuesAll_eq_flatMap, Expr.boundValuesAll_eq_flatMap, List.forall_mem_flatMap,
    List.forall_mem_flatMap] at hprint
  obtain ⟨hcolumns, hvalues, horder⟩ := hprint
  have hcondition : q.condition.bind Expr.fault? = none := by
    cases hc : q.condition with
    | none => rfl
    | some e =>
      rw [hc] at hvalues
      exact (h.condition e hc).fault?_eq_none_iff.2 hvalues
  rw [Select.fault?, h.givenCondition, hcondition,
    faults?_eq_none fun e hm => (h.columns e hm).fault?_eq_none_iff.2 (hcolumns e hm),
    faults?_eq_none fun e hm => (h.order e hm).fault?_eq_none_iff.2 (horder e hm)]
  rfl

theorem reads_columns {q : Select} (h : ∀ e ∈ q.columns, Plain e) (b : Builtin) :
    Reads b (b.dialect.columnsText q) (columnsTokens q) := by
  have hselect := reads_word (w := "SELECT") (by decide) b
  have hkeyword : Reads b (if q.distinct then "SELECT DISTINCT" else "SELECT")
      (.word "SELECT" :: if q.distinct then [.word "DISTINCT"] else []) := by
    cases q.distinct with
    | false => exact hselect
    | true => exact hselect.spaced (reads_word (w := "DISTINCT") (by decide) b)
  have hcolumns : Reads b
      (if q.columns.isEmpty then "*" else Dialect.listed (q.columns.map b.dialect.text))
      (if q.columns.isEmpty then [.operator "*"] else separated (q.columns.map tokens)) := by
    split
    · exact reads_signs (by decide) b
    · exact .listed fun e hm => (h e hm).reads b
  have hline := hkeyword.spaced hcolumns
  have htext : b.dialect.columnsText q = (if q.distinct then "SELECT DISTINCT" else "SELECT") ++
      " " ++ if q.columns.isEmpty then "*" else Dialect.listed (q.columns.map b.dialect.text) := by
    rw [Dialect.columnsText, Dialect.texts_eq_map]
    cases q.columns.isEmpty
    · rfl
    · exact String.toList_injective (by simp)
  rw [htext]
  exact hline

/-- Clauses on lines of their own. -/
theorem reads_clauses {b : Builtin} {clauses : List (String × List Token)}
    (h : ∀ c ∈ clauses, Reads b c.1 c.2) :
    Reads b ("\n".intercalate (clauses.map (·.1))) (clauses.flatMap (·.2)) := by
  induction clauses with
  | nil => exact .empty
  | cons c clauses ih =>
    have hc := h c (by simp)
    have hrest := ih fun c' hm => h c' (by simp [hm])
    cases clauses with
    | nil => simpa using hc
    | cons c' clauses => simpa using hc.lines hrest

theorem reads_order {q : Select} (h : ∀ e ∈ q.order, Plain e) (b : Builtin) :
    ∀ line ∈ b.dialect.orderText q, Reads b line (orderTokens q) := by
  intro line hline
  unfold Dialect.orderText at hline
  unfold orderTokens
  split at hline
  · cases hline
  · next hempty =>
    rw [if_neg hempty]
    obtain rfl := List.mem_singleton.1 hline
    have hitems : ∀ e ∈ q.order,
        Reads b (b.dialect.text e ++ " ASC") (tokens e ++ [.word "ASC"]) := by
      intro e hm
      simpa [String.append_assoc] using
        ((h e hm).reads b).spaced (reads_word (w := "ASC") (by decide) b)
    have hread := (reads_word (w := "ORDER") (by decide) b).spaced
      ((reads_word (w := "BY") (by decide) b).spaced (Reads.listed hitems))
    have htext : "ORDER BY " ++ Dialect.listed ((b.dialect.texts q.order).map (· ++ " ASC")) =
        "ORDER" ++ " " ++
          ("BY" ++ " " ++ Dialect.listed (q.order.map fun e => b.dialect.text e ++ " ASC")) := by
      rw [Dialect.texts_eq_map, List.map_map]
      exact String.toList_injective (by simp [Function.comp_def])
    rw [htext]
    exact hread

/-- The rendered text of a plain query reads as the tokens of the query. -/
theorem Select.Plain.reads {q : Select} (h : q.Plain) (b : Builtin) :
    Reads b (b.dialect.selectText q) (selectTokens q) := by
  have hfrom := reads_word (w := "FROM") (by decide) b
  have hwhere := reads_word (w := "WHERE") (by decide) b
  let clauses : List (String × List Token) := (b.dialect.columnsText q, columnsTokens q) ::
    (q.table.toList.map (fun n => ("FROM " ++ b.dialect.quoteName n, [.word "FROM", .name n]))
      ++ q.condition.toList.map (fun e => ("WHERE " ++ b.dialect.text e, .word "WHERE" :: tokens e))
      ++ (b.dialect.orderText q).map fun line => (line, orderTokens q))
  have hclauses : ∀ c ∈ clauses, Reads b c.1 c.2 := by
    simp only [clauses, List.mem_cons, List.mem_append, List.mem_map]
    rintro c (rfl | (⟨n, -, rfl⟩ | ⟨e, he, rfl⟩) | ⟨line, hline, rfl⟩)
    · exact reads_columns h.columns b
    · exact hfrom.spaced (reads_name b n)
    · exact hwhere.spaced ((h.condition e (Option.mem_toList.1 he)).reads b)
    · exact reads_order h.order b line hline
  have htokens : clauses.flatMap (·.2) = selectTokens q := by
    have horder : ((b.dialect.orderText q).map fun line => (line, orderTokens q)).flatMap (·.2) =
        orderTokens q := by
      unfold Dialect.orderText orderTokens
      split <;> simp
    simp only [clauses, List.flatMap_cons, List.flatMap_append, horder, selectTokens,
      List.append_assoc, List.flatMap_map]
  have hread := reads_clauses hclauses
  rw [htokens] at hread
  have htext : clauses.map (·.1) = b.dialect.columnsText q ::
      (q.table.toList.map (fun n => "FROM " ++ b.dialect.quoteName n)
        ++ b.dialect.conditionText q ++ b.dialect.orderText q) := by
    simp [clauses, Dialect.conditionText, h.givenCondition, Function.comp_def]
  rwa [htext] at hread

/-- Rendering plain trees and queries is safe against injection: whatever the literals and the names
are, a database finds in the text exactly the tokens of the tree. There is a text unless a number
has too many digits to be printed. -/
theorem lex_rendered (b : Builtin) :
    (∀ e, Plain e →
      ((∃ sql, b.dialect.literalSql e = .ok sql) ↔ ∀ v ∈ e.boundValues, v.isPrintable = true) ∧
      ∀ sql, b.dialect.literalSql e = .ok sql → lex b sql = some (tokens e)) ∧
    ∀ q : Select, q.Plain →
      ((∃ sql, b.dialect.literalQuery q = .ok sql) ↔
        ∀ v ∈ q.boundValues, v.isPrintable = true) ∧
      ∀ sql, b.dialect.literalQuery q = .ok sql → lex b sql = some (selectTokens q) := by
  constructor
  · intro e h
    rw [Dialect.exists_literalSql_iff, h.fault?_eq_none_iff]
    refine ⟨Iff.rfl, fun sql hsql => ?_⟩
    rw [Dialect.literalSql_eq, Dialect.settled_eq_ok_iff] at hsql
    rw [← hsql.2]
    exact (h.reads b).lex
  · intro q h
    rw [Dialect.exists_literalQuery_iff, h.fault?_eq_none_iff]
    refine ⟨Iff.rfl, fun sql hsql => ?_⟩
    rw [Dialect.literalQuery_eq, Dialect.settled_eq_ok_iff] at hsql
    rw [← hsql.2]
    exact (h.reads b).lex

/-- A literal that would close its quotes, and a name that would close its own, in a condition and
in a query. -/
theorem lex_rendered_quotes :
    (Plain (.binary (.column "a`") "LIKE" (.string "\\' OR 1 = 1 -- ")) ∧
      ∃ sql,
        Dialect.mysql.literalSql (.binary (.column "a`") "LIKE" (.string "\\' OR 1 = 1 -- ")) =
          .ok sql ∧
        lex .mysql sql = some
          [.opening, .name "a`", .word "LIKE", .string "\\' OR 1 = 1 -- ", .closing]) ∧
    (Select.Plain { columns := [.literal (.int (-5))], table := some "t`; DROP" } ∧
      ∃ sql,
        Dialect.mysql.literalQuery { columns := [.literal (.int (-5))], table := some "t`; DROP" } =
          .ok sql ∧
        lex .mysql sql = some
          [.word "SELECT", .operator "-", .number 5, .word "FROM", .name "t`; DROP"]) := by
  have he : Plain (.binary (.column "a`") "LIKE" (.string "\\' OR 1 = 1 -- ")) :=
    .binary (by decide) (.column _) (.text _)
  have hq : Select.Plain { columns := [.literal (.int (-5))], table := some "t`; DROP" } :=
    ⟨by simpa using Plain.int (-5), by simp, by simp⟩
  obtain ⟨heiff, helex⟩ := (lex_rendered .mysql).1 _ he
  obtain ⟨hqiff, hqlex⟩ := (lex_rendered .mysql).2 _ hq
  obtain ⟨sql, hsql⟩ := heiff.2 (by decide +kernel)
  obtain ⟨sql', hsql'⟩ := hqiff.2 (by decide +kernel)
  exact ⟨⟨he, sql, hsql, helex sql hsql⟩, hq, sql', hsql', hqlex sql' hsql'⟩

end ExamFilter.Sql
