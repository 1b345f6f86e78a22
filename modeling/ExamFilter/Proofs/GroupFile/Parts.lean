import ExamFilter.Proofs.GroupFile.Paths
import ExamFilter.Proofs.Table
import Mathlib.Data.List.Nodup

/-!
# The parts of a document

Every node below the root has an address. If the keys of every mapping are told apart by their
texts, and these are such that addresses can be told from paths, then the place of every node is
found under its path.
-/
namespace ExamFilter.GroupFile
open Yaml

/-- A node right below another one. -/
structure Child where
  step : Step
  place? : Option Mark
  tree : Tree

def childrenOf : Tree → List Child
  | .leaf _ | .endless _ => []
  | .list items => items.zipIdx.map fun p => ⟨.item p.2, p.1.1, p.1.2⟩
  | .map entries => entries.map fun e => ⟨.key (keyText e.1), e.2.1, e.2.2⟩

theorem sizeOf_lt_of_mem_childrenOf {t : Tree} {c : Child} (h : c ∈ childrenOf t) :
    sizeOf c.tree < sizeOf t := by
  cases t with
  | leaf | endless => simp [childrenOf] at h
  | list items =>
    simp only [childrenOf, List.mem_map] at h
    obtain ⟨⟨⟨m?, u⟩, i⟩, hp, rfl⟩ := h
    have hitem := List.sizeOf_lt_of_mem (List.fst_mem_of_mem_zipIdx hp)
    simp only [Prod.mk.sizeOf_spec, Tree.list.sizeOf_spec] at hitem ⊢
    omega
  | map entries =>
    simp only [childrenOf, List.mem_map] at h
    obtain ⟨⟨k, m?, u⟩, he, rfl⟩ := h
    have hentry := List.sizeOf_lt_of_mem he
    simp only [Prod.mk.sizeOf_spec, Tree.map.sizeOf_spec] at hentry ⊢
    omega

/-- A node below the root. -/
structure Part where
  address : Address
  place? : Option Mark
  tree : Tree

def Child.part (a : Address) (c : Child) : Part := ⟨a ++ [c.step], c.place?, c.tree⟩

/-- The nodes below the one with the given address, every node coming before those below it. -/
def parts (a : Address) (t : Tree) : List Part :=
  (childrenOf t).attach.flatMap fun c => c.1.part a :: parts (a ++ [c.1.step]) c.1.tree
termination_by sizeOf t
decreasing_by exact sizeOf_lt_of_mem_childrenOf c.2

theorem parts_eq (a : Address) (t : Tree) :
    parts a t = (childrenOf t).flatMap fun c => c.part a :: parts (a ++ [c.step]) c.tree := by
  rw [parts]
  simp

def isPlainKey (key : Value) : Bool := key.isPrintable && (Step.key (keyText key)).isPlain

mutual

/-- The keys of a mapping have texts, which are different, and none is empty or holds a sign that
separates steps. -/
def hasPlainKeys : Tree → Bool
  | .leaf _ | .endless _ => true
  | .list items => itemsHavePlainKeys items
  | .map entries =>
    decide (entries.map fun e => keyText e.1).Nodup && entriesHavePlainKeys entries

def itemsHavePlainKeys : List (Option Mark × Tree) → Bool
  | [] => true
  | (_, t) :: rest => hasPlainKeys t && itemsHavePlainKeys rest

def entriesHavePlainKeys : List (Value × Option Mark × Tree) → Bool
  | [] => true
  | (key, _, t) :: rest =>
    isPlainKey key && hasPlainKeys t && entriesHavePlainKeys rest

end

theorem itemsHavePlainKeys_iff {items : List (Option Mark × Tree)} :
    itemsHavePlainKeys items = true ↔ ∀ item ∈ items, hasPlainKeys item.2 = true := by
  induction items with
  | nil => simp [itemsHavePlainKeys]
  | cons item rest ih => simp [itemsHavePlainKeys, ih]

theorem entriesHavePlainKeys_iff {entries : List (Value × Option Mark × Tree)} :
    entriesHavePlainKeys entries = true ↔
      ∀ e ∈ entries, e.1.isPrintable = true ∧ (Step.key (keyText e.1)).isPlain = true ∧
        hasPlainKeys e.2.2 = true := by
  induction entries with
  | nil => simp [entriesHavePlainKeys]
  | cons entry rest ih => simp [entriesHavePlainKeys, isPlainKey, ih, and_assoc]

theorem nodup_steps_list (items : List (Option Mark × Tree)) :
    ((childrenOf (.list items)).map (·.step)).Nodup := by
  have hsteps : (childrenOf (.list items)).map (·.step) =
      (List.range' 0 items.length).map Step.item := by
    rw [← List.zipIdx_map_snd, childrenOf, List.map_map, List.map_map]
    rfl
  have hinjective : Function.Injective Step.item := by
    intro i j h
    cases h
    rfl
  rw [hsteps]
  exact (List.nodup_range' 1).map hinjective

theorem nodup_steps_map_iff {entries : List (Value × Option Mark × Tree)} :
    ((childrenOf (.map entries)).map (·.step)).Nodup ↔
      (entries.map fun e => keyText e.1).Nodup := by
  have hsteps : (childrenOf (.map entries)).map (·.step) =
      (entries.map fun e => keyText e.1).map Step.key := by
    simp [childrenOf]
  have hinjective : Function.Injective Step.key := by
    intro k l h
    cases h
    rfl
  rw [hsteps, List.nodup_map_iff hinjective]

section PlainKeys
variable {t : Tree}

theorem nodup_steps (h : hasPlainKeys t = true) : ((childrenOf t).map (·.step)).Nodup := by
  cases t with
  | leaf | endless => exact .nil
  | list items => exact nodup_steps_list items
  | map entries =>
    rw [hasPlainKeys, Bool.and_eq_true, decide_eq_true_eq] at h
    exact nodup_steps_map_iff.2 h.1

theorem hasPlainKeys_child (h : hasPlainKeys t = true) {c : Child} (hc : c ∈ childrenOf t) :
    c.step.isPlain = true ∧ hasPlainKeys c.tree = true := by
  cases t with
  | leaf | endless => cases hc
  | list items =>
    obtain ⟨⟨item, i⟩, hp, rfl⟩ := List.mem_map.1 hc
    exact ⟨rfl, itemsHavePlainKeys_iff.1 h item (List.fst_mem_of_mem_zipIdx hp)⟩
  | map entries =>
    obtain ⟨e, he, rfl⟩ := List.mem_map.1 hc
    rw [hasPlainKeys, Bool.and_eq_true] at h
    exact (entriesHavePlainKeys_iff.1 h.2 e he).2

theorem printKey_of_mem {entries : List (Value × Option Mark × Tree)}
    (h : hasPlainKeys (.map entries) = true) {e : Value × Option Mark × Tree} (he : e ∈ entries) :
    printKey e.1 = .ok (keyText e.1) := by
  rw [hasPlainKeys, Bool.and_eq_true] at h
  rw [printKey, (entriesHavePlainKeys_iff.1 h.2 e he).1]
  rfl

end PlainKeys

section Places

/-- The place of a child and the places below it. -/
def Child.placesWith (path : String) (below : Child → List (String × Mark)) (c : Child) :
    List (String × Mark) :=
  (c.place?.map fun m => (c.step.path path, m)).toList ++ below c

theorem itemPlaces_eq {path : String} {below : Child → List (String × Mark)} {i : Nat}
    {items : List (Option Mark × Tree)}
    (h : ∀ p ∈ items.zipIdx i,
      places (itemPath path p.2) p.1.2 = .ok (below ⟨.item p.2, p.1.1, p.1.2⟩)) :
    itemPlaces path i items =
      .ok ((items.zipIdx i).flatMap fun p =>
        Child.placesWith path below ⟨.item p.2, p.1.1, p.1.2⟩) := by
  induction items generalizing i with
  | nil => rfl
  | cons item rest ih =>
    obtain ⟨m?, t⟩ := item
    rw [List.zipIdx_cons, List.forall_mem_cons] at h
    rw [itemPlaces, h.1, ih h.2, List.zipIdx_cons, List.flatMap_cons]
    rfl

theorem entryPlaces_eq {path : String} {below : Child → List (String × Mark)}
    {entries : List (Value × Option Mark × Tree)}
    (h : ∀ e ∈ entries, printKey e.1 = .ok (keyText e.1) ∧
      places (keyPath path (keyText e.1)) e.2.2 = .ok (below ⟨.key (keyText e.1), e.2.1, e.2.2⟩)) :
    entryPlaces path entries =
      .ok (entries.flatMap fun e =>
        Child.placesWith path below ⟨.key (keyText e.1), e.2.1, e.2.2⟩) := by
  induction entries with
  | nil => rfl
  | cons entry rest ih =>
    obtain ⟨key, m?, t⟩ := entry
    rw [List.forall_mem_cons] at h
    rw [entryPlaces, h.1.1, ih h.2, List.flatMap_cons]
    dsimp only [bind, Except.bind]
    rw [h.1.2]
    rfl

theorem places_eq_flatMap {path : String} {t : Tree} {below : Child → List (String × Mark)}
    (hkeys : hasPlainKeys t = true)
    (h : ∀ c ∈ childrenOf t, places (c.step.path path) c.tree = .ok (below c)) :
    places path t = .ok ((childrenOf t).flatMap (Child.placesWith path below)) := by
  cases t with
  | leaf | endless => rfl
  | list items =>
    rw [childrenOf, List.forall_mem_map] at h
    rw [places, itemPlaces_eq h, childrenOf, List.flatMap_map]
  | map entries =>
    rw [childrenOf, List.forall_mem_map] at h
    rw [places, entryPlaces_eq fun e he => ⟨printKey_of_mem hkeys he, h e he⟩, childrenOf,
      List.flatMap_map]

def Part.placed? (p : Part) : Option (String × Mark) := p.place?.map fun m => (p.address.path, m)

/-- If all keys have texts, then so do the paths of all nodes. -/
theorem places_eq {a : Address} {t : Tree} (hkeys : hasPlainKeys t = true) :
    places a.path t = .ok ((parts a t).filterMap Part.placed?) := by
  induction a, t using parts.induct with
  | case1 a t ih =>
    have hbelow : ∀ c ∈ childrenOf t, places (c.step.path a.path) c.tree =
        .ok ((parts (a ++ [c.step]) c.tree).filterMap Part.placed?) := by
      intro c hc
      rw [← Address.path_append_singleton]
      exact ih ⟨c, hc⟩ (hasPlainKeys_child hkeys hc).2
    rw [places_eq_flatMap hkeys hbelow, parts_eq, List.filterMap_flatMap]
    refine congrArg Except.ok (List.flatMap_congr fun c _ => ?_)
    rw [List.filterMap_cons, Child.part, Part.placed?, Address.path_append_singleton,
      Child.placesWith]
    cases c.place? <;> rfl

end Places

section Below
variable {a : Address} {t : Tree} {p : Part} {c : Child}

theorem mem_parts_iff :
    p ∈ parts a t ↔
      ∃ c ∈ childrenOf t, p = c.part a ∨ p ∈ parts (a ++ [c.step]) c.tree := by
  simp only [parts_eq a t, List.mem_flatMap, List.mem_cons]

theorem part_mem_parts (hc : c ∈ childrenOf t) : c.part a ∈ parts a t :=
  mem_parts_iff.2 ⟨c, hc, .inl rfl⟩

theorem child_mem_parts (hp : p ∈ parts a t) (hc : c ∈ childrenOf p.tree) :
    c.part p.address ∈ parts a t := by
  induction a, t using parts.induct with
  | case1 a t ih =>
    obtain ⟨c', hc', rfl | hbelow⟩ := mem_parts_iff.1 hp
    · exact mem_parts_iff.2 ⟨c', hc', .inr (part_mem_parts hc)⟩
    · exact mem_parts_iff.2 ⟨c', hc', .inr (ih ⟨c', hc'⟩ hbelow)⟩

/-- A node lies right below the root or right below another node. -/
theorem exists_parent (hp : p ∈ parts a t) :
    (∃ c ∈ childrenOf t, p = c.part a) ∨
      ∃ q ∈ parts a t, ∃ c ∈ childrenOf q.tree, p = c.part q.address := by
  induction a, t using parts.induct with
  | case1 a t ih =>
    obtain ⟨c, hc, rfl | hbelow⟩ := mem_parts_iff.1 hp
    · exact .inl ⟨c, hc, rfl⟩
    · right
      rcases ih ⟨c, hc⟩ hbelow with ⟨c', hc', rfl⟩ | ⟨q, hq, c', hc', rfl⟩
      · exact ⟨c.part a, part_mem_parts hc, c', hc', rfl⟩
      · exact ⟨q, mem_parts_iff.2 ⟨c, hc, .inr hq⟩, c', hc', rfl⟩

theorem mem_childrenOf_list_iff {items : List (Option Mark × Tree)} :
    c ∈ childrenOf (.list items) ↔
      ∃ i item, items[i]? = some item ∧ c = ⟨.item i, item.1, item.2⟩ := by
  simp only [childrenOf, List.mem_map]
  constructor
  · rintro ⟨⟨item, i⟩, hp, rfl⟩
    exact ⟨i, item, List.mem_zipIdx_iff_getElem?.1 hp, rfl⟩
  · rintro ⟨i, item, hitem, rfl⟩
    exact ⟨(item, i), List.mem_zipIdx_iff_getElem?.2 hitem, rfl⟩

theorem mem_childrenOf_map {entries : List (Value × Option Mark × Tree)}
    {e : Value × Option Mark × Tree} (he : e ∈ entries) :
    ⟨.key (keyText e.1), e.2.1, e.2.2⟩ ∈ childrenOf (.map entries) :=
  List.mem_map_of_mem he

end Below

section Addresses
variable {a : Address} {t : Tree} {p : Part}

/-- Whatever lies below a node lies at or below one of its children. -/
theorem exists_prefix_of_mem_parts (h : p ∈ parts a t) :
    ∃ c ∈ childrenOf t, a ++ [c.step] <+: p.address := by
  induction a, t using parts.induct with
  | case1 a t ih =>
    obtain ⟨c, hc, rfl | hbelow⟩ := mem_parts_iff.1 h
    · exact ⟨c, hc, List.prefix_rfl⟩
    · obtain ⟨c', -, hprefix⟩ := ih ⟨c, hc⟩ hbelow
      exact ⟨c, hc, (List.prefix_append _ _).trans hprefix⟩

theorem step_eq_of_prefixes {s s' : Step} {b : Address} (h : a ++ [s] <+: b)
    (h' : a ++ [s'] <+: b) : s = s' := by
  have hsame : a ++ [s] = a ++ [s'] := by
    apply (List.prefix_of_prefix_length_le h h' (by simp)).eq_of_length
    simp
  simpa using hsame

theorem prefix_of_mem_child {c : Child} (h : p ∈ c.part a :: parts (a ++ [c.step]) c.tree) :
    a ++ [c.step] <+: p.address := by
  rcases List.mem_cons.1 h with rfl | hbelow
  · exact List.prefix_rfl
  · obtain ⟨c', -, hprefix⟩ := exists_prefix_of_mem_parts hbelow
    exact (List.prefix_append _ _).trans hprefix

/-- No two nodes have the same address. -/
theorem nodup_addresses (h : hasPlainKeys t = true) : ((parts a t).map (·.address)).Nodup := by
  induction a, t using parts.induct with
  | case1 a t ih =>
    have hsteps := nodup_steps h
    rw [parts_eq, List.map_flatMap, List.nodup_flatMap]
    constructor
    · intro c hc
      rw [List.map_cons, List.nodup_cons]
      refine ⟨?_, ih ⟨c, hc⟩ (hasPlainKeys_child h hc).2⟩
      intro hmem
      obtain ⟨p, hp, haddress⟩ := List.mem_map.1 hmem
      obtain ⟨c', -, hprefix⟩ := exists_prefix_of_mem_parts hp
      have hlength := hprefix.length_le
      rw [haddress] at hlength
      simp [Child.part] at hlength
    -- Addresses below two children differ in the step that leads to the child.
    · rw [List.nodup_iff_pairwise_ne, List.pairwise_map] at hsteps
      refine hsteps.imp fun {c c'} hne => ?_
      intro b hb hb'
      obtain ⟨p, hp, rfl⟩ := List.mem_map.1 hb
      obtain ⟨p', hp', haddress⟩ := List.mem_map.1 hb'
      have hprefix := prefix_of_mem_child hp
      have hprefix' := prefix_of_mem_child hp'
      rw [haddress] at hprefix'
      exact hne (step_eq_of_prefixes hprefix hprefix')

theorem isPlain_address (h : hasPlainKeys t = true) (ha : a.isPlain = true) (hp : p ∈ parts a t) :
    p.address.isPlain = true := by
  induction a, t using parts.induct with
  | case1 a t ih =>
    obtain ⟨c, hc, hp⟩ := mem_parts_iff.1 hp
    have hchild := hasPlainKeys_child h hc
    have hstep : Address.isPlain (a ++ [c.step]) = true := by
      simpa [Address.isPlain, hchild.1] using ha
    rcases hp with rfl | hbelow
    · exact hstep
    · exact ih ⟨c, hc⟩ hchild.2 hstep hbelow

theorem eq_of_path_eq (h : hasPlainKeys t = true) {p' : Part} (hp : p ∈ parts [] t)
    (hp' : p' ∈ parts [] t) (hpath : p.address.path = p'.address.path) : p = p' := by
  have haddress : p.address = p'.address :=
    Address.path_injective (isPlain_address h rfl hp) (isPlain_address h rfl hp') hpath
  exact List.inj_on_of_nodup_map (nodup_addresses h) hp hp' haddress

end Addresses

section Sources
variable {file : String} {sources : SourceMap} {t : Tree} {p : Part}

/-- What the source map says about a node that has a place. -/
def Part.source? (file : String) (p : Part) : Option (String × Span) :=
  p.place?.map fun m => (p.address.path, Span.ofMark file m)

theorem source?_eq_map_placed? (p : Part) :
    p.source? file = p.placed?.map fun q => (q.1, Span.ofMark file q.2) := by
  simp [Part.source?, Part.placed?, Function.comp_def]

theorem ofTree_eq_ofPairs (h : hasPlainKeys t = true) :
    SourceMap.ofTree file t = .ok (Table.ofPairs ((parts [] t).filterMap (Part.source? file))) := by
  have hplaces : places "" t = .ok ((parts [] t).filterMap Part.placed?) := places_eq (a := []) h
  have hentries : ((parts [] t).filterMap Part.placed?).map (fun q => (q.1, Span.ofMark file q.2)) =
      (parts [] t).filterMap (Part.source? file) := by
    rw [List.map_filterMap]
    exact List.filterMap_congr fun p _ => (source?_eq_map_placed? p).symm
  rw [SourceMap.ofTree, hplaces, ← hentries]
  rfl

theorem mem_sources_iff {path : String} {span : Span} :
    (path, span) ∈ (parts [] t).filterMap (Part.source? file) ↔
      ∃ q ∈ parts [] t, q.address.path = path ∧ q.place?.map (Span.ofMark file) = some span := by
  rw [List.mem_filterMap]
  refine exists_congr fun q => and_congr_right fun _ => ?_
  cases hplace : q.place? <;> simp [Part.source?, hplace]

/-- Under the path of a node its own place is found, if it has one. -/
theorem get?_sources (h : hasPlainKeys t = true) (hsources : SourceMap.ofTree file t = .ok sources)
    (hp : p ∈ parts [] t) :
    Table.get? sources p.address.path = p.place?.map (Span.ofMark file) := by
  cases (ofTree_eq_ofPairs h).symm.trans hsources
  refine Table.get?_ofPairs_of_forall fun span => mem_sources_iff.trans ?_
  constructor
  · rintro ⟨q, hq, hpath, hspan⟩
    rwa [← eq_of_path_eq h hq hp hpath]
  · intro hspan
    exact ⟨p, hp, rfl, hspan⟩

/-- Nothing is found under the path of what is not there. -/
theorem get?_sources_of_forall_ne (h : hasPlainKeys t = true)
    (hsources : SourceMap.ofTree file t = .ok sources) {a : Address} (ha : a.isPlain = true)
    (hne : ∀ q ∈ parts [] t, q.address ≠ a) : Table.get? sources a.path = none := by
  cases (ofTree_eq_ofPairs h).symm.trans hsources
  refine Table.get?_ofPairs_of_forall fun span => mem_sources_iff.trans ?_
  simp only [reduceCtorEq, iff_false]
  rintro ⟨q, hq, hpath, -⟩
  exact hne q hq (Address.path_injective (isPlain_address h rfl hq) ha hpath)

end Sources

end ExamFilter.GroupFile
