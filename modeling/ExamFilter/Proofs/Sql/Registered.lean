import ExamFilter.Proofs.Ranking
import ExamFilter.Proofs.Table
import ExamFilter.Sql.Registry
import Mathlib.Data.String.Basic
import Mathlib.Order.Basic

/-!
# Registrations and lookups

What a registry holds is told by the dialects that have been registered, in their order: the last
dialect of a name stands for that name, and the last one with an alias decides what the alias
stands for. A lookup goes through at most one alias, which always leads to a dialect.
-/
namespace ExamFilter.Sql

/-- The last dialect of a name. -/
def lastNamed? (ds : List Dialect) (name : String) : Option Dialect :=
  (ds.filter fun d => d.name = name).getLast?

/-- The last dialect with another name. -/
def lastAliased? (ds : List Dialect) (other : String) : Option Dialect :=
  (ds.filter fun d => other ∈ d.aliases).getLast?

section Last
variable {ds : List Dialect} {d : Dialect} {name : String}

theorem lastNamed?_eq_some (h : lastNamed? ds name = some d) : d ∈ ds ∧ d.name = name := by
  have hmem : d ∈ ds.filter fun d => d.name = name := List.mem_of_getLast? h
  simpa using hmem

theorem lastAliased?_eq_some (h : lastAliased? ds name = some d) : d ∈ ds ∧ name ∈ d.aliases := by
  have hmem : d ∈ ds.filter fun d => name ∈ d.aliases := List.mem_of_getLast? h
  simpa using hmem

theorem lastNamed?_eq_none_iff : lastNamed? ds name = none ↔ ∀ d ∈ ds, d.name ≠ name := by
  simp [lastNamed?]

theorem lastAliased?_eq_none_iff :
    lastAliased? ds name = none ↔ ∀ d ∈ ds, name ∉ d.aliases := by
  simp [lastAliased?]

theorem exists_lastNamed?_iff : (∃ d, lastNamed? ds name = some d) ↔ ∃ d ∈ ds, d.name = name := by
  rw [← Option.ne_none_iff_exists', Ne, lastNamed?_eq_none_iff]
  push Not
  rfl

theorem lastNamed?_append_singleton :
    lastNamed? (ds ++ [d]) name = if d.name = name then some d else lastNamed? ds name := by
  unfold lastNamed?
  rw [List.filter_append, List.getLast?_append]
  by_cases h : d.name = name <;> simp [h]

theorem lastAliased?_append_singleton :
    lastAliased? (ds ++ [d]) name = if name ∈ d.aliases then some d else lastAliased? ds name := by
  unfold lastAliased?
  rw [List.filter_append, List.getLast?_append]
  by_cases h : name ∈ d.aliases <;> simp [h]

end Last

namespace Registry
variable {r : Registry} {ds : List Dialect}

theorem get?_aliases_register (r : Registry) (d : Dialect) (k : String) :
    Table.get? (r.register d).aliases k =
      if k ∈ d.aliases then some d.name else Table.get? r.aliases k := by
  have hput := Table.get?_foldl_put (fun a => a) (fun _ => d.name) d.aliases r.aliases k
  by_cases hk : k ∈ d.aliases
  · have hne : (d.aliases.filter fun a => a = k) ≠ [] := by
      intro hnil
      simpa using List.filter_eq_nil_iff.1 hnil k hk
    obtain ⟨a, ha⟩ := Option.ne_none_iff_exists'.1 (mt List.getLast?_eq_none_iff.1 hne)
    rw [register, hput, ha, if_pos hk]
    rfl
  · have hnil : (d.aliases.filter fun a => a = k) = [] := by
      rw [List.filter_eq_nil_iff]
      intro a ha hak
      exact hk (of_decide_eq_true hak ▸ ha)
    rw [register, hput, hnil, if_neg hk]
    rfl

/-- The registry holds what has been registered. -/
structure Records (r : Registry) (ds : List Dialect) : Prop where
  dialects : ∀ name, Table.get? r.dialects name = lastNamed? ds name
  aliases : ∀ other, Table.get? r.aliases other = (lastAliased? ds other).map (·.name)
  nodup : (Table.keys r.dialects).Nodup

theorem records_nil : Records {} [] := by
  constructor
  · intro name
    rfl
  · intro other
    rfl
  · exact List.nodup_nil

theorem Records.register (h : r.Records ds) (d : Dialect) : (r.register d).Records (ds ++ [d]) := by
  constructor
  · intro name
    rw [lastNamed?_append_singleton, ← h.dialects]
    exact Table.get?_put r.dialects d.name name d
  · intro other
    rw [lastAliased?_append_singleton, get?_aliases_register, h.aliases]
    split <;> rfl
  · exact Table.nodup_keys_put h.nodup d.name d

theorem Records.run (h : r.Records ds) (more : List Dialect) :
    (more.foldl Registry.register r).Records (ds ++ more) := by
  induction more generalizing r ds with
  | nil => simpa using h
  | cons d more ih =>
    have hstep := ih (h.register d)
    rwa [List.append_assoc] at hstep

def builtinDialects : List Dialect := [.mysql, .postgres]

/-- The registry after registrations of further dialects. -/
def after (ds : List Dialect) : Registry := ds.foldl Registry.register builtin

theorem records_after (ds : List Dialect) : (after ds).Records (builtinDialects ++ ds) :=
  ((records_nil.register .mysql).register .postgres).run ds

theorem get_eq_ok_iff {x : String} {d : Dialect} : r.get x = .ok d ↔ r.get? x = some d := by
  unfold get
  cases r.get? x <;> simp

theorem get_eq_error_iff {x : String} {e : LookupError} :
    r.get x = .error e ↔ r.get? x = none ∧ e = .unsupported x r.available := by
  unfold get
  cases r.get? x <;> simp [eq_comm]

theorem canonical_congr {x y : String} (h : key x = key y) : r.canonical x = r.canonical y := by
  rw [canonical, canonical, h]

/-- The new dialect takes over its aliases and nothing else. -/
theorem canonical_register (d : Dialect) (x : String) :
    (r.register d).canonical x = if key x ∈ d.aliases then d.name else r.canonical x := by
  unfold canonical
  rw [get?_aliases_register]
  split <;> rfl

theorem get?_register (d : Dialect) (x : String) :
    (r.register d).get? x =
      if key x ∈ d.aliases ∨ r.canonical x = d.name then some d else r.get? x := by
  have hput : ∀ k, Table.get? (r.register d).dialects k =
      if d.name = k then some d else Table.get? r.dialects k :=
    fun k => Table.get?_put r.dialects d.name k d
  unfold get?
  rw [hput, canonical_register]
  by_cases hother : key x ∈ d.aliases
  · simp [hother]
  · simp [hother, eq_comm]

namespace Records
variable (h : r.Records ds)
include h

theorem canonical_eq (x : String) :
    r.canonical x = ((lastAliased? ds (key x)).map (·.name)).getD (key x) := by
  rw [canonical, h.aliases]

theorem get?_eq (x : String) : r.get? x = lastNamed? ds (r.canonical x) := h.dialects _

/-- Whatever an alias stands for is registered. -/
theorem exists_of_alias {other name : String} (hother : Table.get? r.aliases other = some name) :
    ∃ d, Table.get? r.dialects name = some d := by
  rw [h.aliases, Option.map_eq_some_iff] at hother
  obtain ⟨d, hd, rfl⟩ := hother
  rw [h.dialects, exists_lastNamed?_iff]
  exact ⟨d, (lastAliased?_eq_some hd).1, rfl⟩

theorem get?_eq_none_iff (x : String) :
    r.get? x = none ↔ ∀ d ∈ ds, d.name ≠ key x ∧ key x ∉ d.aliases := by
  have hget := h.dialects (r.canonical x)
  cases hother : lastAliased? ds (key x) with
  | some e =>
    have hmem := lastAliased?_eq_some hother
    refine iff_of_false ?_ fun hnone => (hnone e hmem.1).2 hmem.2
    have hname : Table.get? r.aliases (key x) = some e.name := by rw [h.aliases, hother]; rfl
    obtain ⟨d, hd⟩ := h.exists_of_alias hname
    rw [get?, canonical, hname, Option.getD_some, hd]
    simp
  | none =>
    have hnone := lastAliased?_eq_none_iff.1 hother
    rw [h.get?_eq, h.canonical_eq, hother, Option.map_none, Option.getD_none,
      lastNamed?_eq_none_iff]
    exact ⟨fun hname d hd => ⟨hname d hd, hnone d hd⟩, fun hboth d hd => (hboth d hd).1⟩

/-- What is found is the last dialect of its name. -/
theorem lastNamed?_of_get? {x : String} {d : Dialect} (hd : r.get? x = some d) :
    lastNamed? ds d.name = some d := by
  rw [h.get?_eq] at hd
  rwa [(lastNamed?_eq_some hd).2]

theorem mem_available_iff {name : String} : name ∈ r.available ↔ ∃ d ∈ ds, d.name = name := by
  rw [available, List.mem_mergeSort, Table.mem_keys_iff, ← exists_lastNamed?_iff]
  simp [h.dialects]

theorem pairwise_available : r.available.Pairwise (· < ·) := by
  have hsorted : r.available.Pairwise (· ≤ ·) := Ranking.pairwise_mergeSort_text (g := id)
  have hnodup : r.available.Nodup := (List.mergeSort_perm _ _).nodup_iff.2 h.nodup
  exact (hsorted.and hnodup).imp fun hab => lt_of_le_of_ne hab.1 hab.2

end Records

/-- The last dialect with the key of the name among its aliases bears that name, or there is none
and the name is its own key. -/
def StandsForItself (ds : List Dialect) (name : String) : Prop :=
  match lastAliased? ds (key name) with
  | some d => d.name = name
  | none => key name = name

theorem Records.canonical_eq_self_iff (h : r.Records ds) {name : String} :
    r.canonical name = name ↔ StandsForItself ds name := by
  rw [h.canonical_eq, StandsForItself]
  cases lastAliased? ds (key name) <;> rfl

/-- A listed name finds the dialect that was registered last under it if, and only if, the name
stands for itself: no alias leads elsewhere, and without one the name has no capitals and no white
space at its ends. -/
theorem get_listed_iff (ds : List Dialect) (name : String) (hlisted : name ∈ (after ds).available) :
    ∃ d, lastNamed? (builtinDialects ++ ds) name = some d ∧
      ((after ds).get name = .ok d ↔ StandsForItself (builtinDialects ++ ds) name) := by
  have hrecords := records_after ds
  obtain ⟨d, hd⟩ := exists_lastNamed?_iff.2 (hrecords.mem_available_iff.1 hlisted)
  refine ⟨d, hd, ?_⟩
  rw [get_eq_ok_iff, ← hrecords.canonical_eq_self_iff, hrecords.get?_eq]
  constructor
  · intro hfound
    rw [← (lastNamed?_eq_some hfound).2, (lastNamed?_eq_some hd).2]
  · intro hcanonical
    rw [hcanonical, hd]

/-- A name with a capital that has its own key as an alias. -/
theorem get_listed_capital :
    let oracle : Dialect := { Dialect.mysql with name := "Oracle", aliases := ["oracle"] }
    (after [oracle]).get "Oracle" = .ok oracle := by
  intro oracle
  have hlisted : "Oracle" ∈ (after [oracle]).available :=
    (records_after [oracle]).mem_available_iff.2 ⟨oracle, by simp, rfl⟩
  obtain ⟨d, hd, hiff⟩ := get_listed_iff [oracle] "Oracle" hlisted
  obtain rfl : oracle = d := Option.some.inj hd
  exact hiff.2 rfl

/-- A capital in a name hides the dialect, and an alias hides the dialect whose name it is. Both
names are listed all the same. -/
theorem listed_name_not_found :
    let oracle : Dialect := { Dialect.mysql with name := "Oracle", aliases := [] }
    let tsql : Dialect := { Dialect.generic with name := "tsql", aliases := ["mysql"] }
    ("Oracle" ∈ (after [oracle]).available ∧
      (after [oracle]).get "Oracle" =
        .error (.unsupported "Oracle" (after [oracle]).available)) ∧
    "mysql" ∈ (after [tsql]).available ∧ (after [tsql]).get "mysql" = .ok tsql := by
  intro oracle tsql
  refine ⟨⟨?_, rfl⟩, ?_, rfl⟩
  · exact (records_after [oracle]).mem_available_iff.2 ⟨oracle, by simp, rfl⟩
  · exact (records_after [tsql]).mem_available_iff.2 ⟨.mysql, by simp [builtinDialects], rfl⟩

/-- No alias leads nowhere, so a lookup fails only for a key that nobody has registered as a name or
an alias, and then tells the names in their order; otherwise it finds the last dialect of some name,
the same one for texts with the same key. One further registration changes what is found under its
aliases and under what led to its name, where it is found itself, and nothing else. -/
theorem lookups_never_dangle (ds : List Dialect) :
    (∀ other name, Table.get? (after ds).aliases other = some name →
      ∃ d, Table.get? (after ds).dialects name = some d) ∧
    ((after ds).available.Pairwise (· < ·) ∧
      ∀ name, name ∈ (after ds).available ↔ ∃ d ∈ builtinDialects ++ ds, d.name = name) ∧
    (∀ x, (after ds).get x = .error (.unsupported x (after ds).available) ∨
      ∃ d, lastNamed? (builtinDialects ++ ds) d.name = some d ∧ (after ds).get x = .ok d) ∧
    (∀ x, (∃ e, (after ds).get x = .error e) ↔
      ∀ d ∈ builtinDialects ++ ds, d.name ≠ key x ∧ key x ∉ d.aliases) ∧
    (∀ x y, key x = key y → ∀ d, (after ds).get x = .ok d ↔ (after ds).get y = .ok d) ∧
    ∀ d x,
      (key x ∈ d.aliases ∨ (after ds).canonical x = d.name →
        (after (ds ++ [d])).get x = .ok d) ∧
      (¬(key x ∈ d.aliases ∨ (after ds).canonical x = d.name) →
        ∀ e, (after (ds ++ [d])).get x = .ok e ↔ (after ds).get x = .ok e) := by
  have hrecords := records_after ds
  refine ⟨fun other name => hrecords.exists_of_alias,
    ⟨hrecords.pairwise_available, fun name => hrecords.mem_available_iff⟩, fun x => ?_, fun x => ?_,
    fun x y hkey d => ?_, fun d x => ?_⟩
  · cases hx : (after ds).get? x with
    | none => exact .inl (get_eq_error_iff.2 ⟨hx, rfl⟩)
    | some d => exact .inr ⟨d, hrecords.lastNamed?_of_get? hx, get_eq_ok_iff.2 hx⟩
  · rw [← hrecords.get?_eq_none_iff]
    simp [get_eq_error_iff]
  · rw [get_eq_ok_iff, get_eq_ok_iff, get?, get?, canonical_congr hkey]
  · have hafter : after (ds ++ [d]) = (after ds).register d := by simp [after]
    rw [hafter]
    constructor
    · intro htaken
      rw [get_eq_ok_iff, get?_register, if_pos htaken]
    · intro hleft e
      rw [get_eq_ok_iff, get_eq_ok_iff, get?_register, if_neg hleft]

/-- An alias is taken over, and another one still leads to the dialect it led to. -/
theorem lookups_never_dangle_takeover :
    let tsql : Dialect := { Dialect.generic with name := "tsql", aliases := ["mariadb"] }
    (after [tsql]).get " MariaDB" = .ok tsql ∧ (after [tsql]).get "TiDB" = .ok .mysql := by
  intro tsql
  obtain ⟨-, -, -, -, -, hfurther⟩ := lookups_never_dangle []
  exact ⟨(hfurther tsql " MariaDB").1 (by decide), ((hfurther tsql "TiDB").2 (by decide) _).2 rfl⟩

end Registry

end ExamFilter.Sql
