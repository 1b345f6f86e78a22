import ExamFilter.Proofs.GroupFile.Pointers

/-!
# Paths as names of nodes

If keys can be told from paths, then no two nodes of a document share a path, and the source map
lists the nodes that have places as they come in the document. So a node is found under its path.
-/
namespace ExamFilter.GroupFile
open Yaml

mutual

/-- Every key and every item has a place. -/
def isPlaced : Tree → Bool
  | .leaf _ | .endless _ => true
  | .list items => itemsArePlaced items
  | .map entries => entriesArePlaced entries

def itemsArePlaced : List (Option Mark × Tree) → Bool
  | [] => true
  | (m?, t) :: rest => m?.isSome && isPlaced t && itemsArePlaced rest

def entriesArePlaced : List (Value × Option Mark × Tree) → Bool
  | [] => true
  | (_, m?, t) :: rest => m?.isSome && isPlaced t && entriesArePlaced rest

end

theorem itemsArePlaced_iff {items : List (Option Mark × Tree)} :
    itemsArePlaced items = true ↔
      ∀ item ∈ items, item.1.isSome = true ∧ isPlaced item.2 = true := by
  induction items with
  | nil => simp [itemsArePlaced]
  | cons item rest ih => simp [itemsArePlaced, ih]

theorem entriesArePlaced_iff {entries : List (Value × Option Mark × Tree)} :
    entriesArePlaced entries = true ↔
      ∀ e ∈ entries, e.2.1.isSome = true ∧ isPlaced e.2.2 = true := by
  induction entries with
  | nil => simp [entriesArePlaced]
  | cons entry rest ih => simp [entriesArePlaced, ih]

theorem isPlaced_child {t : Tree} (h : isPlaced t = true) {c : Child} (hc : c ∈ childrenOf t) :
    c.place?.isSome = true ∧ isPlaced c.tree = true := by
  cases t with
  | leaf | endless => cases hc
  | list items =>
    obtain ⟨i, item, hitem, rfl⟩ := mem_childrenOf_list_iff.1 hc
    exact itemsArePlaced_iff.1 h item (List.mem_of_getElem? hitem)
  | map entries =>
    obtain ⟨e, he, rfl⟩ := List.mem_map.1 hc
    exact entriesArePlaced_iff.1 h e he

theorem isSome_place? {a : Address} {t : Tree} (h : isPlaced t = true) {p : Part}
    (hp : p ∈ parts a t) : p.place?.isSome = true := by
  induction a, t using parts.induct with
  | case1 a t ih =>
    obtain ⟨c, hc, rfl | hbelow⟩ := mem_parts_iff.1 hp
    · exact (isPlaced_child h hc).1
    · exact ih ⟨c, hc⟩ (isPlaced_child h hc).2 hbelow

/-- No two nodes have the same path. -/
theorem nodup_paths {t : Tree} (h : hasPlainKeys t = true) :
    ((parts [] t).map fun p => p.address.path).Nodup := by
  have hparts : (parts [] t).Nodup := (nodup_addresses h).of_map _
  exact hparts.map_on fun p hp q hq hpath => eq_of_path_eq h hp hq hpath

section Entries
variable {file : String}

theorem keys_entries (ps : List Part) :
    Table.keys (ps.filterMap (Part.source? file)) =
      (ps.filter fun p => p.place?.isSome).map fun p => p.address.path := by
  induction ps with
  | nil => rfl
  | cons p ps ih =>
    cases hplace : p.place? with
    | none => simpa [Part.source?, hplace] using ih
    | some m => simpa [Part.source?, hplace, Table.keys] using ih

/-- No entry is replaced by a later one. -/
theorem ofTree_eq_entries {t : Tree} (h : hasPlainKeys t = true) :
    SourceMap.ofTree file t = .ok ((parts [] t).filterMap (Part.source? file)) := by
  have hnodup : (Table.keys ((parts [] t).filterMap (Part.source? file))).Nodup := by
    rw [keys_entries]
    exact (nodup_paths h).sublist (List.filter_sublist.map _)
  rw [ofTree_eq_ofPairs h, Table.ofPairs_eq_self hnodup]

/-- The entry of a node: its path, and the place where the node itself is written, counted from
one. -/
def IsEntryOf (file : String) (entry : String × Span) (p : Part) : Prop :=
  entry.1 = p.address.path ∧ ∃ m, p.place? = some m ∧ entry.2 = ⟨file, m.line + 1, m.column + 1⟩

theorem forall₂_entries {ps : List Part} (h : ∀ p ∈ ps, p.place?.isSome = true) :
    List.Forall₂ (IsEntryOf file) (ps.filterMap (Part.source? file)) ps := by
  induction ps with
  | nil => exact .nil
  | cons p ps ih =>
    obtain ⟨m, hplace⟩ := Option.isSome_iff_exists.1 (h p (.head _))
    have hentry : p.source? file = some (p.address.path, Span.ofMark file m) := by
      rw [Part.source?, hplace, Option.map_some]
    rw [List.filterMap_cons_some hentry]
    exact .cons ⟨rfl, m, hplace, rfl⟩ (ih fun q hq => h q (.tail _ hq))

end Entries

/-- A document whose keys have texts and in which everything has a place has a source map with one
entry for every key and every item, in the order of the document. No two nodes share a path, and the
path of a node leads to its own place. -/
theorem sources_identify_nodes (file : String) (t : Tree) (hkeys : hasPlainKeys t = true)
    (hplaces : isPlaced t = true) :
    ∃ sources, SourceMap.ofTree file t = .ok sources ∧
      List.Forall₂ (IsEntryOf file) sources (parts [] t) ∧
      ((parts [] t).map fun p => p.address.path).Nodup ∧
      ∀ p ∈ parts [] t, ∃ m, p.place? = some m ∧
        Table.get? sources p.address.path = some ⟨file, m.line + 1, m.column + 1⟩ := by
  refine ⟨_, ofTree_eq_entries hkeys, ?_, nodup_paths hkeys, fun p hp => ?_⟩
  · exact forall₂_entries fun p hp => isSome_place? hplaces hp
  · obtain ⟨m, hplace⟩ := Option.isSome_iff_exists.1 (isSome_place? hplaces hp)
    refine ⟨m, hplace, ?_⟩
    rw [get?_sources hkeys (ofTree_eq_entries hkeys) hp, hplace]
    rfl

/-- Lists within lists, a mapping in a list, a key that is a number and one with a bracket. -/
theorem sources_identify_nodes_nested :
    let text := "groups: {S: {G: [a, ~]}}\n7:\n- k]: [[x], y]".toList
    let sources : SourceMap :=
      [("groups", ⟨"groups.yaml", 1, 1⟩), ("groups.S", ⟨"groups.yaml", 1, 10⟩),
        ("groups.S.G", ⟨"groups.yaml", 1, 14⟩), ("groups.S.G[0]", ⟨"groups.yaml", 1, 18⟩),
        ("groups.S.G[1]", ⟨"groups.yaml", 1, 21⟩), ("7", ⟨"groups.yaml", 2, 1⟩),
        ("7[0]", ⟨"groups.yaml", 3, 3⟩), ("7[0].k]", ⟨"groups.yaml", 3, 3⟩),
        ("7[0].k][0]", ⟨"groups.yaml", 3, 8⟩), ("7[0].k][0][0]", ⟨"groups.yaml", 3, 9⟩),
        ("7[0].k][1]", ⟨"groups.yaml", 3, 13⟩)]
    ∃ t, readDocument text = .ok t ∧ hasPlainKeys t = true ∧ isPlaced t = true ∧
      SourceMap.ofTree "groups.yaml" t = .ok sources ∧
      List.Forall₂ (IsEntryOf "groups.yaml") sources (parts [] t) ∧
      ((parts [] t).map fun p => p.address.path).Nodup := by
  intro text sources
  have hdocument : (readDocument text).toOption.any (fun t =>
      (hasPlainKeys t && isPlaced t) &&
        (SourceMap.ofTree "groups.yaml" t).toOption = some sources) = true := by
    decide +kernel
  obtain ⟨t, hread, hall⟩ := exists_ok_of_any hdocument
  simp only [Bool.and_eq_true, decide_eq_true_eq] at hall
  obtain ⟨⟨hkeys, hplaces⟩, hentries⟩ := hall
  obtain ⟨found, hsources, hnodes, hpaths, -⟩ :=
    sources_identify_nodes "groups.yaml" t hkeys hplaces
  rw [hsources] at hentries
  cases hentries
  exact ⟨t, hread, hkeys, hplaces, hsources, hnodes, hpaths⟩

end ExamFilter.GroupFile
