import ExamFilter.Proofs.Sql.Binding
import ExamFilter.Proofs.Sql.TokenTree

/-!
# Placeholders in the order of the text

The placeholders of a tree are numbered in the order of rendering. They stand in the text in the
same order unless a membership test tests something that holds a literal.
-/
namespace ExamFilter.Sql

def placeholderText? : Token → Option String
  | .placeholder text => some text
  | _ => none

/-- The placeholders among the tokens of a text. -/
def placeholders (ts : List Token) : List String := ts.filterMap placeholderText?

/-- The placeholders with the `n` numbers from `k` on. -/
def placeholdersFrom (k n : Nat) : List String :=
  (List.range' k n).map fun i => placeholder (placeholderName i)

@[simp] theorem placeholders_nil : placeholders [] = [] := rfl

@[simp] theorem placeholders_append (ts us : List Token) :
    placeholders (ts ++ us) = placeholders ts ++ placeholders us :=
  List.filterMap_append

@[simp] theorem placeholders_word (w : String) (ts : List Token) :
    placeholders (.word w :: ts) = placeholders ts := rfl

@[simp] theorem placeholders_name (n : String) (ts : List Token) :
    placeholders (.name n :: ts) = placeholders ts := rfl

@[simp] theorem placeholders_opening (ts : List Token) :
    placeholders (.opening :: ts) = placeholders ts := rfl

@[simp] theorem placeholders_closing (ts : List Token) :
    placeholders (.closing :: ts) = placeholders ts := rfl

@[simp] theorem placeholders_comma (ts : List Token) :
    placeholders (.comma :: ts) = placeholders ts := rfl

@[simp] theorem placeholders_operatorToken (op : String) (ts : List Token) :
    placeholders (operatorToken op :: ts) = placeholders ts := by
  unfold operatorToken
  split <;> rfl

theorem placeholders_separated (tss : List (List Token)) :
    placeholders (separated tss) = tss.flatMap placeholders := by
  cases tss with
  | nil => rfl
  | cons ts tss =>
    rw [separated, placeholders_append, List.flatMap_cons]
    congr 1
    induction tss with
    | nil => rfl
    | cons us tss ih => simp [List.flatMap_cons, ih]

@[simp] theorem placeholdersFrom_zero (k : Nat) : placeholdersFrom k 0 = [] := rfl

theorem placeholdersFrom_add (k m n : Nat) :
    placeholdersFrom k (m + n) = placeholdersFrom k m ++ placeholdersFrom (k + m) n := by
  rw [placeholdersFrom, placeholdersFrom, placeholdersFrom, ← List.map_append,
    List.range'_append_1]

/-- From whichever number on the tree is numbered, its placeholders stand in the text in the order
of their numbers. -/
def InTextOrder (e : Expr) : Prop :=
  ∀ k, placeholders (tokens (e.numbered k)) = placeholdersFrom k e.boundValues.length

namespace InTextOrder

theorem column (name : String) : InTextOrder (.column name) := by
  intro k
  simp [Expr.numbered, tokens, Expr.boundValues]

theorem string (s : String) : InTextOrder (.string s) := by
  intro k
  have hs : Value.text s ≠ .null := by simp
  rw [Expr.string, Expr.numbered_literal hs, Expr.boundValues_literal hs, tokens, rawTokens,
    if_neg (placeholder_ne_nothing _)]
  rfl

theorem matchNothing : InTextOrder .matchNothing := by
  intro k
  rw [Expr.matchNothing, Expr.numbered, Expr.boundValues, tokens, rawTokens, if_pos rfl]
  rfl

theorem binary {left right : Expr} (hl : InTextOrder left) (hr : InTextOrder right) (op : String) :
    InTextOrder (.binary left op right) := by
  intro k
  simp [Expr.numbered, tokens, Expr.boundValues, hl k, hr _, placeholdersFrom_add]

theorem cast {e : Expr} (he : InTextOrder e) (type : String) : InTextOrder (.cast e type) := by
  intro k
  simp [Expr.numbered, tokens, Expr.boundValues, he k]

theorem between {e low high : Expr} (he : InTextOrder e) (hl : InTextOrder low)
    (hh : InTextOrder high) : InTextOrder (.between e low high) := by
  intro k
  simp [Expr.numbered, tokens, Expr.boundValues, he k, hl _, hh _, placeholdersFrom_add]

theorem all {es : List Expr} (h : ∀ e ∈ es, InTextOrder e) (k : Nat) :
    placeholders (separated (tokensEach (Expr.numberedAll k es))) =
      placeholdersFrom k (Expr.boundValuesAll es).length := by
  rw [placeholders_separated]
  induction es generalizing k with
  | nil => simp [Expr.numberedAll, tokensEach, Expr.boundValuesAll]
  | cons e es ih =>
    have hrest := ih (fun e' hm => h e' (by simp [hm])) (k + e.boundValues.length)
    simp only [Expr.numberedAll, tokensEach, List.flatMap_cons, Expr.boundValuesAll,
      List.length_append, h e (by simp) k, hrest, placeholdersFrom_add]

theorem call {args : List Expr} (h : ∀ e ∈ args, InTextOrder e) (function : String) :
    InTextOrder (.call function args) := by
  intro k
  simp [Expr.numbered, tokens, Expr.boundValues, all h k]

/-- The values come before the tested expression, which therefore must not hold a literal. -/
theorem oneOf {e : Expr} {values : List Expr} (he : InTextOrder e) (hnone : e.boundValues = [])
    (hvalues : ∀ v ∈ values, InTextOrder v) : InTextOrder (.oneOf e values) := by
  intro k
  simp [Expr.numbered, tokens, Expr.boundValues, hnone, he _, all hvalues k]

end InTextOrder

theorem mem_numberedAll {k : Nat} {es : List Expr} {e' : Expr} (h : e' ∈ Expr.numberedAll k es) :
    ∃ e ∈ es, ∃ j, e' = e.numbered j := by
  induction es generalizing k with
  | nil => simp [Expr.numberedAll] at h
  | cons e es ih =>
    rw [Expr.numberedAll, List.mem_cons] at h
    rcases h with rfl | h
    · exact ⟨e, by simp, k, rfl⟩
    · obtain ⟨e₀, hm, j, rfl⟩ := ih h
      exact ⟨e₀, by simp [hm], j, rfl⟩

/-- Placeholders in place of literals leave a tree plain. -/
theorem Plain.numbered {e : Expr} (h : Plain e) (k : Nat) : Plain (e.numbered k) := by
  induction h generalizing k with
  | text s => exact Expr.numbered_literal (v := .text s) (by simp) k ▸ .bound k
  | int n => exact Expr.numbered_literal (v := .int n) (by simp) k ▸ .bound k
  | bool b => exact Expr.numbered_literal (v := .bool b) (by simp) k ▸ .bound k
  | null => exact (Expr.numbered.eq_1 k) ▸ .null
  | column name => simpa [Expr.numbered] using Plain.column name
  | call hf hargs ih =>
    rw [Expr.numbered]
    refine .call hf fun e' hm => ?_
    obtain ⟨e, he, j, rfl⟩ := mem_numberedAll hm
    exact ih e he j
  | binary hop hleft hright ihl ihr =>
    rw [Expr.numbered]
    exact .binary hop (ihl _) (ihr _)
  | isNull he ih =>
    rw [Expr.numbered]
    exact .isNull (ih k)
  | isNotNull he ih =>
    rw [Expr.numbered]
    exact .isNotNull (ih k)
  | oneOf he hvalues ihe ihvalues =>
    rw [Expr.numbered]
    refine .oneOf (ihe _) fun v' hm => ?_
    obtain ⟨v, hv, j, rfl⟩ := mem_numberedAll hm
    exact ihvalues v hv j
  | cast htype he ih =>
    rw [Expr.numbered]
    exact .cast htype (ih k)
  | nothing => simpa [Expr.matchNothing, Expr.numbered] using Plain.nothing
  | bound i => simpa [Expr.numbered] using Plain.bound i
  | between he hlow hhigh ihe ihlow ihhigh =>
    rw [Expr.numbered]
    exact .between (ihe _) (ihlow _) (ihhigh _)

end ExamFilter.Sql
