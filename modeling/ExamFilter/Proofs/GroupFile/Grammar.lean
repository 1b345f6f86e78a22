import ExamFilter.Proofs.GroupFile.Pointers
import Mathlib.Data.List.Forall2

/-!
# The grammar of group files

A document is read as a group table if, and only if, it has the shape of one and all its names and
members are printed. Otherwise the first fault in the order of the document is reported, which is
the first violation of the grammar unless something that is not printed comes before it. As long as
no name is repeated the table says what the document says, and every table is what some document
says.
-/
namespace ExamFilter.GroupFile
open Yaml ExamFilter.Filter

section Texts

/-- The names and the members of a document are printed. -/
def IsPrinted (t : Tree) : Prop :=
  ∀ d ∈ dimensionsOf t, d.1.isPrintable = true ∧
    ∀ g ∈ entriesOf d.2.2, g.1.isPrintable = true ∧
      ∀ v ∈ memberValues g.2.2, v.isPrintable = true

theorem printFaults_eq_nil_iff {v : Value} : printFaults v = [] ↔ v.isPrintable = true := by
  simp [printFaults]

theorem groupFaults_eq_nil_iff {dimension : String} {g : Yaml.Entry} :
    groupFaults dimension g = [] ↔
      IsGroup g.2.2 ∧ g.1.isPrintable = true ∧
        ∀ v ∈ memberValues g.2.2, v.isPrintable = true := by
  rw [groupFaults, List.append_eq_nil_iff, printFaults_eq_nil_iff, ← isGroup_iff, and_left_comm]
  cases isGroup g.2.2 <;> simp [printFaults_eq_nil_iff]

theorem dimensionFaults_eq_nil_iff {d : Yaml.Entry} :
    dimensionFaults d = [] ↔
      IsDimension d.2.2 ∧ d.1.isPrintable = true ∧
        ∀ g ∈ entriesOf d.2.2, g.1.isPrintable = true ∧
          ∀ v ∈ memberValues g.2.2, v.isPrintable = true := by
  simp only [dimensionFaults, List.append_eq_nil_iff, printFaults_eq_nil_iff, IsDimension,
    ← entries?_eq_some_iff, entriesOf]
  cases entries? d.2.2 with
  | none => simp
  | some groups =>
    simp only [List.flatMap_eq_nil_iff, groupFaults_eq_nil_iff, forall₂_and, Option.some.injEq,
      exists_eq_left', Option.getD_some]
    tauto

/-- Nothing is wrong with a document that follows the grammar and can be printed. -/
theorem faults_eq_nil_iff {t : Tree} : faults t = [] ↔ IsGroupFile t ∧ IsPrinted t := by
  simp only [faults, IsGroupFile, IsPrinted, ← entries?_eq_some_iff, dimensionsOf, entriesOf]
  cases entries? t with
  | none => simp
  | some top =>
    simp only [Option.some.injEq, exists_eq_left', Option.getD_some]
    cases groupsField? top with
    | none => simp
    | some e =>
      simp only [Option.some.injEq, forall_eq', Option.map_some, Option.getD_some]
      cases entries? e.2.2 with
      | none => simp
      | some dimensions =>
        simp only [List.flatMap_eq_nil_iff, dimensionFaults_eq_nil_iff, Option.some.injEq,
          exists_eq_left', Option.getD_some, forall₂_and]
        rfl

end Texts

section Names

/-- What a document says about dimensions and groups, in its order. -/
def contents (t : Tree) : GroupTable :=
  (dimensionsOf t).map fun d => (keyText d.1, (entriesOf d.2.2).map groupOf)

/-- No name of a dimension, and none of a group of one dimension, is repeated. -/
def HasDistinctNames (t : Tree) : Prop :=
  ((dimensionsOf t).map fun d => keyText d.1).Nodup ∧
    ∀ d ∈ dimensionsOf t, ((entriesOf d.2.2).map fun g => keyText g.1).Nodup

instance (t : Tree) : Decidable (HasDistinctNames t) := inferInstanceAs (Decidable (_ ∧ _))

theorem merged_eq_contents {t : Tree} (h : HasDistinctNames t) : merged t = contents t := by
  have hgroups : ∀ d ∈ dimensionsOf t,
      Table.ofPairs ((entriesOf d.2.2).map groupOf) = (entriesOf d.2.2).map groupOf := by
    intro d hd
    refine Table.ofPairs_eq_self ?_
    simpa [Table.keys, groupOf, Function.comp_def] using h.2 d hd
  have hdimensions : (dimensionsOf t).map dimensionOf = contents t :=
    List.map_congr_left fun d hd => by rw [dimensionOf, hgroups d hd]
  rw [merged, hdimensions]
  refine Table.ofPairs_eq_self ?_
  simpa [Table.keys, contents, Function.comp_def] using h.1

end Names

section Spelling
variable {α : Type} {R : α → Tree → Prop}

/-- The node is a mapping with the keys of the table in their order, and each value is written below
its key. -/
def SpellsTable (R : α → Tree → Prop) (table : Table String α) (t : Tree) : Prop :=
  ∃ entries, t = .map entries ∧
    List.Forall₂ (fun p e => e.1 = .text p.1 ∧ R p.2 e.2.2) table entries

def SpellsTexts (texts : List String) (t : Tree) : Prop :=
  ∃ items, t = .list items ∧ List.Forall₂ (fun s item => item.2 = .leaf (.text s)) texts items

/-- The document spells out the group table: every name and every member is written as a text,
wherever that stands. -/
def Spells (table : GroupTable) (t : Tree) : Prop :=
  SpellsTable (SpellsTable (SpellsTable SpellsTexts)) [("groups", table)] t

theorem exists_spellsTable (h : ∀ x, ∃ t, R x t) (table : Table String α) :
    ∃ t, SpellsTable R table t := by
  choose node hnode using h
  refine ⟨.map (table.map fun p => (.text p.1, none, node p.2)), _, rfl, ?_⟩
  rw [List.forall₂_map_right_iff, List.forall₂_same]
  exact fun p _ => ⟨rfl, hnode p.2⟩

theorem exists_spells (table : GroupTable) : ∃ t, Spells table t := by
  have htexts (texts : List String) : ∃ t, SpellsTexts texts t := by
    refine ⟨.list (texts.map fun s => (none, .leaf (.text s))), _, rfl, ?_⟩
    rw [List.forall₂_map_right_iff, List.forall₂_same]
    exact fun _ _ => rfl
  exact exists_spellsTable (exists_spellsTable (exists_spellsTable htexts)) _

/-- What is read from the values of a table that is spelled out is what they were written from. -/
theorem SpellsTable.map_eq {table : Table String α} {t : Tree} (h : SpellsTable R table t)
    {read : Tree → α} (hread : ∀ p ∈ table, ∀ n, R p.2 n → read n = p.2) :
    (entriesOf t).map (fun e => (keyText e.1, read e.2.2)) = table := by
  obtain ⟨entries, rfl, hentries⟩ := h
  change entries.map _ = table
  induction hentries with
  | nil => rfl
  | cons hentry _ ih =>
    obtain ⟨hkey, hnode⟩ := hentry
    rw [List.map_cons, ih fun p hp => hread p (.tail _ hp), hkey, hread _ (.head _) _ hnode]
    rfl

theorem SpellsTable.exists_of_mem {table : Table String α} {t : Tree} (h : SpellsTable R table t)
    {e : Yaml.Entry} (he : e ∈ entriesOf t) : ∃ p ∈ table, e.1 = .text p.1 ∧ R p.2 e.2.2 := by
  obtain ⟨entries, rfl, hentries⟩ := h
  change e ∈ entries at he
  induction hentries with
  | nil => cases he
  | cons hentry _ ih =>
    rcases List.mem_cons.1 he with rfl | hrest
    · exact ⟨_, .head _, hentry⟩
    · obtain ⟨p, hp, hnode⟩ := ih hrest
      exact ⟨p, .tail _ hp, hnode⟩

theorem SpellsTexts.isGroup {texts : List String} {t : Tree} (h : SpellsTexts texts t) :
    IsGroup t := by
  obtain ⟨items, rfl, hitems⟩ := h
  refine .inr ⟨items, rfl, ?_⟩
  induction hitems with
  | nil => simp
  | cons hitem _ ih => exact List.forall_mem_cons.2 ⟨⟨_, hitem⟩, ih⟩

theorem SpellsTexts.memberValues_eq {texts : List String} {t : Tree} (h : SpellsTexts texts t) :
    memberValues t = texts.map .text := by
  obtain ⟨items, rfl, hitems⟩ := h
  have hvalues : items.filterMap (fun item => leaf? item.2) = texts.map .text := by
    induction hitems with
    | nil => rfl
    | cons hitem _ ih =>
      simp only [List.filterMap_cons, leaf?_eq_some_iff.2 hitem, ih, List.map_cons]
  rw [memberValues, valuesOf, hvalues]
  simp [isNull]

theorem SpellsTexts.memberTexts_eq {texts : List String} {t : Tree} (h : SpellsTexts texts t) :
    memberTexts t = texts := by
  rw [memberTexts, h.memberValues_eq]
  simp [Function.comp_def, Value.asText]

end Spelling

/-- No name is repeated, as in every table that is built entry by entry. -/
def HasDistinctKeys (table : GroupTable) : Prop :=
  (Table.keys table).Nodup ∧ ∀ d ∈ table, (Table.keys d.2).Nodup

instance (table : GroupTable) : Decidable (HasDistinctKeys table) :=
  inferInstanceAs (Decidable (_ ∧ _))

section Spelled
variable {table : GroupTable} {t : Tree}

theorem isDimension_of_spells {groups : Groups} {n : Tree}
    (h : SpellsTable SpellsTexts groups n) : IsDimension n := by
  have hentries : ∀ g ∈ entriesOf n, IsGroup g.2.2 := by
    intro g hg
    obtain ⟨p, -, -, htexts⟩ := h.exists_of_mem hg
    exact htexts.isGroup
  obtain ⟨entries, rfl, -⟩ := h
  exact ⟨entries, rfl, hentries⟩

theorem groups_of_spells {groups : Groups} {n : Tree} (h : SpellsTable SpellsTexts groups n) :
    (entriesOf n).map groupOf = groups :=
  h.map_eq fun _ _ _ htexts => htexts.memberTexts_eq

/-- The dimensions of a document that spells out a table are in a mapping that does so. -/
theorem exists_of_spells (h : Spells table t) :
    ∃ place? n, t = .map [(.text "groups", place?, n)] ∧
      SpellsTable (SpellsTable SpellsTexts) table n := by
  obtain ⟨entries, rfl, hentries⟩ := h
  obtain ⟨⟨key, place?, n⟩, rest, ⟨rfl, hnode⟩, hrest, rfl⟩ := List.forall₂_cons_left_iff.1 hentries
  obtain rfl := List.forall₂_nil_left_iff.1 hrest
  exact ⟨place?, n, rfl, hnode⟩

theorem isGroupFile_of_spells (h : Spells table t) : IsGroupFile t := by
  obtain ⟨place?, n, rfl, hn⟩ := exists_of_spells h
  refine ⟨_, rfl, fun e he => ?_⟩
  obtain rfl : (.text "groups", place?, n) = e := Option.some.inj he
  have hall : ∀ d ∈ entriesOf n, IsDimension d.2.2 := by
    intro d hd
    obtain ⟨p, -, -, hgroups⟩ := hn.exists_of_mem hd
    exact isDimension_of_spells hgroups
  obtain ⟨entries, rfl, -⟩ := hn
  exact ⟨entries, rfl, hall⟩

/-- Texts are always printed. -/
theorem isPrinted_of_spells (h : Spells table t) : IsPrinted t := by
  obtain ⟨place?, n, rfl, hn⟩ := exists_of_spells h
  intro d hd
  obtain ⟨p, -, hname, hgroups⟩ := hn.exists_of_mem hd
  refine ⟨by rw [hname, Value.isPrintable], fun g hg => ?_⟩
  obtain ⟨q, -, hgroup, htexts⟩ := hgroups.exists_of_mem hg
  refine ⟨by rw [hgroup, Value.isPrintable], fun v hv => ?_⟩
  rw [htexts.memberValues_eq] at hv
  obtain ⟨s, -, rfl⟩ := List.mem_map.1 hv
  rw [Value.isPrintable]

theorem readTable_of_spells (hkeys : HasDistinctKeys table) (h : Spells table t) :
    readTable t = .ok table := by
  have hfaults := faults_eq_nil_iff.2 ⟨isGroupFile_of_spells h, isPrinted_of_spells h⟩
  obtain ⟨place?, n, rfl, hn⟩ := exists_of_spells h
  have hdimensions : dimensionsOf (.map [(.text "groups", place?, n)]) = entriesOf n := rfl
  have hcontents : contents (.map [(.text "groups", place?, n)]) = table := by
    rw [contents, hdimensions]
    exact hn.map_eq fun _ _ _ hgroups => groups_of_spells hgroups
  have hdistinct : HasDistinctNames (.map [(.text "groups", place?, n)]) := by
    constructor
    · have hnames := congrArg Table.keys hcontents
      rw [contents, Table.keys, List.map_map] at hnames
      exact hnames ▸ hkeys.1
    · rw [hdimensions]
      intro d hd
      obtain ⟨p, hp, -, hgroups⟩ := hn.exists_of_mem hd
      have hnames := congrArg Table.keys (groups_of_spells hgroups)
      rw [Table.keys, List.map_map] at hnames
      exact hnames ▸ hkeys.2 p hp
  rw [readTable_eq, hfaults, merged_eq_contents hdistinct, hcontents]
  rfl

end Spelled

/-- A document is read if, and only if, it follows the grammar. Otherwise the first violation is
reported, with the place of its path. -/
def IsReadByGrammar (sources : SourceMap) (t : Tree) : Prop :=
  ((∃ table, readTable t = .ok table) ↔ IsGroupFile t) ∧
    ∀ e, (readTable t).mapError (LoadError.ofFault sources) = .error e ↔
      ∃ fault rest, violations t = fault :: rest ∧
        e = .shape ⟨fault, fault.path?.bind (Table.get? sources)⟩

/-- The grammar decides unless the first fault is that something is not printed. -/
theorem isReadByGrammar_iff {sources : SourceMap} {t : Tree} :
    IsReadByGrammar sources t ↔ ∀ e, (faults t).head? ≠ some (.print e) := by
  have hviolations := filterMap_shape?_faults t
  rw [IsReadByGrammar, readTable_eq, ← violations_eq_nil_iff, ← hviolations]
  cases faults t with
  | nil => simp [firstOr, Except.mapError]
  | cons fault rest =>
    cases fault with
    | shape fault =>
      simp [firstOr, Except.mapError, LoadError.ofFault, TableFault.shape?, ShapeFault.locate,
        eq_comm]
    | print e =>
      refine iff_of_false ?_ fun h => h e rfl
      rintro ⟨-, herror⟩
      obtain ⟨_, _, -, hshape⟩ := (herror (.print e)).1 rfl
      cases hshape

/-- A document is read if, and only if, it follows the grammar and all its names and members are
printed. Otherwise the first fault is reported, so that the grammar alone decides, and the first
violation is reported, if, and only if, the first fault is no failure to print. If names are not
repeated, the table is what the document says; and every table can be spelled out in a document, of
which it is read. -/
theorem reads_by_grammar_iff (t : Tree) (sources : SourceMap) :
    ((∃ table, readTable t = .ok table) ↔ IsGroupFile t ∧ IsPrinted t) ∧
    (∀ e, (readTable t).mapError (LoadError.ofFault sources) = .error e ↔
      ∃ fault rest, faults t = fault :: rest ∧ e = LoadError.ofFault sources fault) ∧
    (IsReadByGrammar sources t ↔ ∀ e, (faults t).head? ≠ some (.print e)) ∧
    (∀ table, readTable t = .ok table → HasDistinctNames t → table = contents t) ∧
    ∀ table : GroupTable, HasDistinctKeys table →
      (∃ t', Spells table t') ∧ ∀ t', Spells table t' → readTable t' = .ok table := by
  rw [← faults_eq_nil_iff, isReadByGrammar_iff, readTable_eq]
  refine ⟨?_, fun e => ?_, Iff.rfl, fun table htable hdistinct => ?_, fun table hkeys => ?_⟩
  · simp only [firstOr_eq_ok_iff, exists_and_left, exists_eq', and_true]
  · cases faults t with
    | nil => simp [firstOr, Except.mapError]
    | cons fault rest => simp [firstOr, Except.mapError, eq_comm]
  · rw [← (firstOr_eq_ok_iff.1 htable).2, merged_eq_contents hdistinct]
  · exact ⟨exists_spells table, fun t' => readTable_of_spells hkeys⟩

/-- Nulls, numbers, a group that is a text and one more key at the root; then a document in which
three nodes have the wrong shape; and a table with a group without a name. -/
theorem reads_by_grammar_nulls :
    let text := "groups: {S: {G: [a, ~, 7], H: x}, 2: {}}\nother: [1]".toList
    let broken := "groups: {S: {G: [[a]], H: ~}, T: 1}".toList
    let table : GroupTable := [("S", [("G", [" a ", ""]), ("", [])])]
    (∃ t, readDocument text = .ok t ∧ IsGroupFile t ∧ HasDistinctNames t ∧
      readTable t = .ok [("S", [("G", ["a", "7"]), ("H", ["x"])]), ("2", [])]) ∧
    (∃ t sources, readDocument broken = .ok t ∧
      violations t = [.group "S" "G", .group "S" "H", .dimension "T"] ∧
      SourceMap.ofTree "groups.yaml" t = .ok sources ∧
      (readTable t).mapError (LoadError.ofFault sources) =
        .error (.shape ⟨.group "S" "G", some ⟨"groups.yaml", 1, 14⟩⟩)) ∧
    HasDistinctKeys table ∧ ∃ t, Spells table t ∧ readTable t = .ok table := by
  intro text broken table
  refine ⟨?_, ?_, by decide, ?_⟩
  · have hdocument : (readDocument text).toOption.any (fun t =>
        (faults t = [] && HasDistinctNames t) &&
          contents t = [("S", [("G", ["a", "7"]), ("H", ["x"])]), ("2", [])]) = true := by
      decide +kernel
    obtain ⟨t, hread, hall⟩ := exists_ok_of_any hdocument
    simp only [Bool.and_eq_true, decide_eq_true_eq] at hall
    obtain ⟨⟨hfaults, hdistinct⟩, hcontents⟩ := hall
    have hfile := faults_eq_nil_iff.1 hfaults
    obtain ⟨hiff, -, -, htable, -⟩ := reads_by_grammar_iff t []
    obtain ⟨read, hok⟩ := hiff.2 hfile
    exact ⟨t, hread, hfile.1, hdistinct, by rw [hok, htable read hok hdistinct, hcontents]⟩
  · have hdocument : (readDocument broken).toOption.any (fun t =>
        (violations t = [.group "S" "G", .group "S" "H", .dimension "T"] &&
          (faults t).head? = some (.shape (.group "S" "G"))) &&
          ((SourceMap.ofTree "groups.yaml" t).toOption.bind fun sources =>
            Table.get? sources "groups.S.G") = some ⟨"groups.yaml", 1, 14⟩) = true := by
      decide +kernel
    obtain ⟨t, hread, hall⟩ := exists_ok_of_any hdocument
    simp only [Bool.and_eq_true, decide_eq_true_eq] at hall
    obtain ⟨⟨hviolations, hfirst⟩, hplace⟩ := hall
    obtain ⟨rest, hfaults⟩ := List.head?_eq_some_iff.1 hfirst
    cases hsources : SourceMap.ofTree "groups.yaml" t with
    | error e =>
      rw [hsources] at hplace
      cases hplace
    | ok sources =>
      rw [hsources] at hplace
      obtain ⟨-, herror, -, -⟩ := reads_by_grammar_iff t sources
      refine ⟨t, sources, hread, hviolations, hsources, (herror _).2 ⟨_, _, hfaults, ?_⟩⟩
      have hspan : Table.get? sources "groups.S.G" = some ⟨"groups.yaml", 1, 14⟩ := hplace
      rw [← hspan]
      rfl
  · obtain ⟨-, -, -, -, hspelled⟩ := reads_by_grammar_iff (.leaf .null) []
    obtain ⟨⟨t, ht⟩, hread⟩ := hspelled table (by decide)
    exact ⟨t, ht, hread t ht⟩

/-- The document follows the grammar, but its only member, a number of four thousand hexadecimal
digits, is not printed. -/
theorem long_member_not_read :
    let t : Tree := .map [(.text "groups", none, .map [(.text "S", none, .map [(.text "G", none,
      .list [(none, .leaf (.int (Nat.pow 16 4000 - 1)))])])])]
    IsGroupFile t ∧ readTable t = .error (.print .tooManyDigits) ∧
      ∀ sources, ¬IsReadByGrammar sources t := by
  intro t
  have hfile : IsGroupFile t := violations_eq_nil_iff.1 rfl
  have hfaults : faults t = [.print .tooManyDigits] := by decide +kernel
  refine ⟨hfile, by rw [readTable_eq, hfaults]; rfl, fun sources h => ?_⟩
  exact isReadByGrammar_iff.1 h .tooManyDigits (by rw [hfaults]; rfl)

end ExamFilter.GroupFile
