import ExamFilter.Proofs.GroupFile.Parts
import ExamFilter.Proofs.GroupFile.Reading

/-!
# Members in a group file

Every group of the table that a document holds is one of its nodes, and every member of the group is
the text of an item, or of the node itself. Nulls among the items are no members, so that a member
comes as much earlier among the members as there are nulls before it among the items.
-/
namespace ExamFilter.GroupFile
open Yaml ExamFilter.Filter

def groupAddress (dimension group : String) : Address :=
  [.key "groups", .key dimension, .key group]

theorem keyText_of_groupsField? {top : List Yaml.Entry} {e : Yaml.Entry}
    (h : groupsField? top = some e) : keyText e.1 = "groups" := by
  have hkey : isKey "groups" e.1 = true := by simpa using List.find?_some h
  cases hvalue : e.1 with
  | text s =>
    rw [hvalue] at hkey
    exact of_decide_eq_true hkey
  | _ =>
    rw [hvalue] at hkey
    cases hkey

/-- The node in which the members of a group are written. -/
theorem exists_part_of_mem_readTable {t : Tree} {table : GroupTable} (h : readTable t = .ok table)
    {d g : String} {groups : Groups} {members : List String} (hd : (d, groups) ∈ table)
    (hg : (g, members) ∈ groups) :
    ∃ p ∈ parts [] t, p.address = groupAddress d g ∧ IsGroup p.tree ∧
      memberTexts p.tree = members := by
  rw [readTable_eq, firstOr_eq_ok_iff] at h
  obtain ⟨hfaults, rfl⟩ := h
  have hviolations := filterMap_shape?_faults t
  rw [hfaults, List.filterMap_nil] at hviolations
  obtain ⟨top, rfl, hfield⟩ := violations_eq_nil_iff.1 hviolations.symm
  obtain ⟨dimension, hdimension, hpair⟩ := List.mem_map.1 (Table.mem_of_mem_ofPairs hd)
  cases hpair
  obtain ⟨group, hgroup, hpair⟩ := List.mem_map.1 (Table.mem_of_mem_ofPairs hg)
  cases hpair
  have hentries : entriesOf (.map top) = top := rfl
  rw [dimensionsOf, hentries] at hdimension
  cases hfind : groupsField? top with
  | none =>
    rw [hfind] at hdimension
    cases hdimension
  | some root =>
    obtain ⟨dimensions, hroot, hall⟩ := hfield root hfind
    rw [hfind, Option.map_some, Option.getD_some, hroot] at hdimension
    obtain ⟨inner, hinner, hgroups⟩ := hall dimension hdimension
    rw [hinner] at hgroup
    have htop := part_mem_parts (a := []) (mem_childrenOf_map (List.mem_of_find?_eq_some hfind))
    have hbelow := child_mem_parts htop (hroot ▸ mem_childrenOf_map hdimension)
    have hnode := child_mem_parts hbelow (hinner ▸ mem_childrenOf_map hgroup)
    refine ⟨_, hnode, ?_, hgroups group hgroup, rfl⟩
    simp only [Child.part, keyText_of_groupsField? hfind]
    rfl

/-- Nulls stand for nothing. -/
def isMember (item : Option Mark × Tree) : Bool := (leaf? item.2).all fun v => !isNull v

/-- The text of the item is the given member. -/
def IsWritten (m : String) (item : Option Mark × Tree) : Prop :=
  isMember item = true ∧ ∃ v, item.2 = .leaf v ∧ v.asText = m

/-- The member at a position is written in an item before which there are as many others that stand
for members. -/
theorem exists_item_of_getElem? {items : List (Option Mark × Tree)}
    (h : ∀ item ∈ items, ∃ v, item.2 = .leaf v) {i : Nat} {m : String}
    (hm : (memberTexts (.list items))[i]? = some m) :
    ∃ before own after, items = before ++ own :: after ∧ (before.filter isMember).length = i ∧
      IsWritten m own := by
  induction items generalizing i with
  | nil => cases hm
  | cons item rest ih =>
    rw [List.forall_mem_cons] at h
    obtain ⟨⟨v, hv⟩, hrest⟩ := h
    have hleaf : leaf? item.2 = some v := leaf?_eq_some_iff.2 hv
    have hitem : isMember item = !isNull v := by simp [isMember, hleaf]
    have hvalues : memberTexts (.list (item :: rest)) =
        (if isNull v then [] else [v.asText]) ++ memberTexts (.list rest) := by
      simp only [memberTexts, memberValues, valuesOf, List.filterMap_cons, hleaf]
      cases hnull : isNull v <;> simp [hnull]
    rw [hvalues] at hm
    cases hnull : isNull v with
    | true =>
      rw [hnull] at hm
      obtain ⟨before, own, after, rfl, hcount, hwritten⟩ := ih hrest hm
      exact ⟨item :: before, own, after, rfl, by simpa [hitem, hnull] using hcount, hwritten⟩
    | false =>
      rw [hnull] at hm
      cases i with
      | zero =>
        obtain rfl : v.asText = m := Option.some.inj hm
        exact ⟨[], item, rest, rfl, rfl, by simp [hitem, hnull], v, hv, rfl⟩
      | succ i =>
        obtain ⟨before, own, after, rfl, hcount, hwritten⟩ := ih hrest hm
        exact ⟨item :: before, own, after, rfl, by simpa [hitem, hnull] using hcount, hwritten⟩

theorem memberTexts_cases {t : Tree} (h : IsGroup t) {i : Nat} {m : String}
    (hm : (memberTexts t)[i]? = some m) :
    (t = .leaf (.text m) ∧ i = 0) ∨
      ∃ before own after, t = .list (before ++ own :: after) ∧
        (before.filter isMember).length = i ∧ IsWritten m own := by
  obtain ⟨s, rfl⟩ | ⟨items, rfl, hitems⟩ := h
  · have htexts : memberTexts (.leaf (.text s)) = [s] := rfl
    rw [htexts] at hm
    cases i with
    | zero =>
      cases hm
      exact .inl ⟨rfl, rfl⟩
    | succ i => cases hm
  · obtain ⟨before, own, after, rfl, hcount, hwritten⟩ := exists_item_of_getElem? hitems hm
    exact .inr ⟨before, own, after, rfl, hcount, hwritten⟩

end ExamFilter.GroupFile
