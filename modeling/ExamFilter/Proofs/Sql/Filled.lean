import ExamFilter.Proofs.Sql.Meaning
import ExamFilter.Proofs.Sql.Parsing
import ExamFilter.Proofs.Sql.TextOrder

/-!
# Bound values put back

A text with placeholders means the tree in which every placeholder is replaced by the value that is
bound to it. This tree is the one that was rendered, so that an expression has the same value
whether its literals are written into the text or bound.
-/
namespace ExamFilter.Sql

/-- The bound values by the texts of their placeholders. -/
def placeholderTable (bs : Bindings) : Table String Value :=
  bs.map fun p => (placeholder p.1, p.2)

namespace Expr

mutual

/-- The tree with the bound values in place of the placeholders. -/
def filled (bs : Bindings) : Expr → Expr
  | .raw sql => ((Table.get? (placeholderTable bs) sql).map .literal).getD (.raw sql)
  | .call function args => .call function (filledAll bs args)
  | .binary left op right => .binary (filled bs left) op (filled bs right)
  | .isNull e => .isNull (filled bs e)
  | .isNotNull e => .isNotNull (filled bs e)
  | .oneOf e values => .oneOf (filled bs e) (filledAll bs values)
  | .cast e type => .cast (filled bs e) type
  | .between e low high => .between (filled bs e) (filled bs low) (filled bs high)
  | .literal v => .literal v
  | .column name => .column name
  | .stray v => .stray v
  | .strayTable name => .strayTable name

def filledAll (bs : Bindings) : List Expr → List Expr
  | [] => []
  | e :: es => filled bs e :: filledAll bs es

end

end Expr

theorem placeholder_injective : Function.Injective placeholder := by
  intro s t h
  have hchars := congrArg String.toList h
  simp only [placeholder, String.toList_append] at hchars
  exact String.toList_injective (List.append_cancel_left (List.append_cancel_right hchars))

/-- The placeholders with the numbers from `k` on stand for the given values. -/
def Binds (bs : Bindings) (k : Nat) (vs : List Value) : Prop :=
  ∀ i v, vs[i]? = some v →
    Table.get? (placeholderTable bs) (placeholder (placeholderName (k + i))) = some v

theorem Binds.left {bs : Bindings} {k : Nat} {vs ws : List Value} (h : Binds bs k (vs ++ ws)) :
    Binds bs k vs := by
  intro i v hi
  have hlt : i < vs.length := (List.getElem?_eq_some_iff.1 hi).1
  exact h i v (by rw [List.getElem?_append_left hlt, hi])

theorem Binds.right {bs : Bindings} {k : Nat} {vs ws : List Value} (h : Binds bs k (vs ++ ws)) :
    Binds bs (k + vs.length) ws := by
  intro i v hi
  have hget := h (vs.length + i) v
    (by rw [List.getElem?_append_right (Nat.le_add_right _ _), Nat.add_sub_cancel_left, hi])
  rwa [← Nat.add_assoc] at hget

theorem binds_bindingsOf (vs : List Value) : Binds (bindingsOf vs) 0 vs := by
  intro i v hi
  have hkeys : Table.keys (placeholderTable (bindingsOf vs)) =
      (Table.keys (bindingsOf vs)).map placeholder := by
    simp [placeholderTable, Table.keys, Function.comp_def]
  have hnodup : (Table.keys (placeholderTable (bindingsOf vs))).Nodup := by
    rw [hkeys]
    exact (nodup_keys_bindingsOf vs).map placeholder_injective
  have hmem : (placeholderName i, v) ∈ bindingsOf vs :=
    List.mem_map.2 ⟨(v, i), List.mem_zipIdx_iff_getElem?.2 hi, rfl⟩
  rw [Nat.zero_add, ← Table.mem_iff_get?_eq_some hnodup]
  exact List.mem_map.2 ⟨_, hmem, rfl⟩

theorem placeholders_tokens_of_mem {es : List Expr}
    (h : placeholders (separated (tokensEach es)) = []) {e : Expr} (he : e ∈ es) :
    placeholders (tokens e) = [] := by
  rw [placeholders_separated, tokensEach_eq_map, List.flatMap_eq_nil_iff] at h
  exact h _ (List.mem_map_of_mem he)

/-- If the bound values can be put back into each tree of a list, then into all of them. -/
theorem filledAll_numberedAll {es : List Expr} {bs : Bindings}
    (h : ∀ e ∈ es, ∀ k, Binds bs k e.boundValues → (e.numbered k).filled bs = e) {k : Nat}
    (hbinds : Binds bs k (Expr.boundValuesAll es)) :
    Expr.filledAll bs (Expr.numberedAll k es) = es := by
  induction es generalizing k with
  | nil => rw [Expr.numberedAll, Expr.filledAll]
  | cons e es ih =>
    rw [Expr.boundValuesAll] at hbinds
    rw [Expr.numberedAll, Expr.filledAll, h e (by simp) k hbinds.left,
      ih (fun e' hm => h e' (by simp [hm])) hbinds.right]

theorem filled_numbered_literal {v : Value} (hv : v ≠ .null) {bs : Bindings} {k : Nat}
    (h : Binds bs k (Expr.literal v).boundValues) :
    ((Expr.literal v).numbered k).filled bs = .literal v := by
  rw [Expr.boundValues_literal hv] at h
  have hget := h 0 v rfl
  rw [Nat.add_zero] at hget
  rw [Expr.numbered_literal hv, Expr.filled, hget]
  rfl

/-- The bound values put back in place of the placeholders give the tree back. -/
theorem Readable.filled_numbered {e : Expr} (he : Readable e)
    (hnone : placeholders (tokens e) = []) {bs : Bindings} {k : Nat}
    (h : Binds bs k e.boundValues) : (e.numbered k).filled bs = e := by
  induction he generalizing k with
  | text | int => exact filled_numbered_literal (by simp) h
  | null | column => rw [Expr.numbered, Expr.filled]
  | bound i =>
    rw [tokens, rawTokens, if_neg (placeholder_ne_nothing _)] at hnone
    cases hnone
  | @call function args hfunction hnull hcast hargs ih =>
    have hnoneArgs : placeholders (separated (tokensEach args)) = [] := by
      simpa [tokens] using hnone
    rw [Expr.boundValues] at h
    rw [Expr.numbered, Expr.filled, filledAll_numberedAll
      (fun e he k => ih e he (placeholders_tokens_of_mem hnoneArgs he)) h]
  | @binary left right op hop hleft hright ihl ihr =>
    obtain ⟨hl, hr⟩ : placeholders (tokens left) = [] ∧ placeholders (tokens right) = [] := by
      simpa [tokens] using hnone
    rw [Expr.boundValues] at h
    rw [Expr.numbered, Expr.filled, ihl hl h.left, ihr hr h.right]
  | @isNull e he ih | @isNotNull e he ih =>
    have hnone' : placeholders (tokens e) = [] := by simpa [tokens] using hnone
    rw [Expr.boundValues] at h
    rw [Expr.numbered, Expr.filled, ih hnone' h]
  | @oneOf e values he hvalues ihe ihvalues =>
    obtain ⟨hnone', hnoneValues⟩ : placeholders (tokens e) = [] ∧
        placeholders (separated (tokensEach values)) = [] := by simpa [tokens] using hnone
    rw [Expr.boundValues] at h
    rw [Expr.numbered, Expr.filled, ihe hnone' h.right, filledAll_numberedAll
      (fun v hv k => ihvalues v hv (placeholders_tokens_of_mem hnoneValues hv)) h.left]
  | @cast e type htype he ih =>
    have hnone' : placeholders (tokens e) = [] := by simpa [tokens] using hnone
    rw [Expr.boundValues] at h
    rw [Expr.numbered, Expr.filled, ih hnone' h]
  | @between e low high he hlow hhigh ihe ihlow ihhigh =>
    obtain ⟨hnone', hl, hh⟩ : placeholders (tokens e) = [] ∧ placeholders (tokens low) = [] ∧
        placeholders (tokens high) = [] := by simpa [tokens, and_assoc] using hnone
    rw [Expr.boundValues] at h
    rw [Expr.numbered, Expr.filled, ihe hnone' h.left, ihlow hl h.right.left,
      ihhigh hh h.right.right]

/-- Placeholders in place of literals leave a tree readable. -/
theorem Readable.numbered {e : Expr} (h : Readable e) (k : Nat) : Readable (e.numbered k) := by
  induction h generalizing k with
  | text s | int n =>
    rw [Expr.numbered_literal (by simp)]
    exact .bound k
  | null =>
    rw [Expr.numbered]
    exact .null
  | column name => simpa [Expr.numbered] using Readable.column name
  | call hfunction hnull hcast hargs ih =>
    rw [Expr.numbered]
    refine .call hfunction hnull hcast fun e' hm => ?_
    obtain ⟨e, he, j, rfl⟩ := mem_numberedAll hm
    exact ih e he j
  | binary hop hleft hright ihl ihr =>
    rw [Expr.numbered]
    exact .binary hop (ihl _) (ihr _)
  | isNull he ih =>
    rw [Expr.numbered]
    exact .isNull (ih k)
  | isNotNull he ih =>
    rw [Expr.numbered]
    exact .isNotNull (ih k)
  | oneOf he hvalues ihe ihvalues =>
    rw [Expr.numbered]
    refine .oneOf (ihe _) fun v' hm => ?_
    obtain ⟨v, hv, j, rfl⟩ := mem_numberedAll hm
    exact ihvalues v hv j
  | cast htype he ih =>
    rw [Expr.numbered]
    exact .cast htype (ih k)
  | bound i => simpa [Expr.numbered] using Readable.bound i
  | between he hlow hhigh ihe ihlow ihhigh =>
    rw [Expr.numbered]
    exact .between (ihe _) (ihlow _) (ihhigh _)

/-- The value that a database gives SQL text on a row. -/
def valueOf (E : Engine) (row : Row) (b : Builtin) (sql : String) : Option Datum :=
  (readTree b sql).bind (eval E row)

/-- The value that a database gives SQL text on a row, its placeholders standing for bound
values. -/
def boundValueOf (E : Engine) (row : Row) (b : Builtin) (sql : String) (bs : Bindings) :
    Option Datum :=
  (readTree b sql).bind fun e => eval E row (e.filled bs)

section Values
variable {e : Expr} (E : Engine) (row : Row) (b : Builtin)

theorem Readable.valueOf_text (h : Readable e) :
    valueOf E row b (b.dialect.text e) = eval E row e := by
  rw [valueOf, h.readTree_text]
  rfl

theorem Readable.boundSql (h : Readable e) (d : Dialect) :
    d.boundSql e = .ok (d.text (e.numbered 0), bindingsOf e.boundValues) := by
  have hsql : d.literalSql (e.numbered 0) = .ok (d.text (e.numbered 0)) :=
    (h.numbered 0).literalSql_eq_ok_iff.2 ⟨by simp [Expr.boundValues_numbered], rfl⟩
  rw [d.boundSql_eq, hsql]
  rfl

/-- Whether its literals are written into the text or bound, an expression has the same value. -/
theorem Readable.boundValueOf_text (h : Readable e) (hnone : placeholders (tokens e) = []) :
    boundValueOf E row b (b.dialect.text (e.numbered 0)) (bindingsOf e.boundValues) =
      eval E row e := by
  rw [boundValueOf, (h.numbered 0).readTree_text, Option.bind_some,
    h.filled_numbered hnone (binds_bindingsOf e.boundValues)]

end Values

end ExamFilter.Sql
