import ExamFilter.GroupFile.Load
import ExamFilter.Proofs.GroupFile.Findings
import ExamFilter.Proofs.GroupFile.Members

/-!
# Where findings point

A finding about a member that is not stored is looked up by the position of the member in its group,
which is the position of its item in the file only as long as no null stands before it.
-/
namespace ExamFilter.GroupFile
open Yaml ExamFilter.Filter

theorem loadWith_eq_ok {read : List Char → Except Fault Tree} {file : String} {cs : List Char}
    {t : Tree} {loaded : Loaded} (hread : read cs = .ok t)
    (hload : loadWith read file cs = .ok loaded) : ofDocument file t = .ok loaded := by
  rw [loadWith, hread] at hload
  cases htext : checkText cs with
  | error e =>
    rw [htext] at hload
    cases hload
  | ok u =>
    rw [htext] at hload
    exact hload

theorem ofDocument_cases {file : String} {t : Tree} {loaded : Loaded}
    (h : ofDocument file t = .ok loaded) :
    loaded = {} ∨
      readTable t = .ok loaded.table ∧ SourceMap.ofTree file t = .ok loaded.sources := by
  unfold ofDocument at h
  split at h
  · cases h
    exact .inl rfl
  · right
    cases hfinite : t.isFinite with
    | false =>
      rw [hfinite] at h
      cases h
    | true =>
      rw [hfinite] at h
      cases hnodes : checkNodes maxNodes t.toValue with
      | error e =>
        rw [hnodes] at h
        cases h
      | ok u =>
        rw [hnodes] at h
        cases hsources : SourceMap.ofTree file t with
        | error e =>
          rw [hsources] at h
          cases h
        | ok sources =>
          rw [hsources] at h
          cases htable : readTable t with
          | error fault =>
            rw [htable] at h
            cases h
          | ok table =>
            rw [htable] at h
            cases h
            exact ⟨rfl, rfl⟩

section Paths
variable (d g : String)

theorem path_groupAddress : (groupAddress d g).path = s!"groups.{d}.{g}" := by
  have hpath : (groupAddress d g).path = [Step.key d, Step.key g].foldl Step.path "groups" := rfl
  have htext : s!"groups.{d}.{g}" = "groups." ++ d ++ "." ++ g := rfl
  apply String.toList_injective
  rw [hpath, Address.toList_foldl_path (by decide), htext]
  simp [Address.written, Step.sign, Step.label]

theorem path_item (i : Nat) (m : String) :
    (groupAddress d g ++ [Step.item i]).path = (Issue.unknownMember d g i m).path := by
  rw [Address.path_append_singleton, path_groupAddress]
  rfl

theorem span?_unknownMember (sources : SourceMap) (i : Nat) (m : String) :
    (Issue.unknownMember d g i m).span? sources =
      (Table.get? sources (groupAddress d g ++ [Step.item i]).path).or
        (Table.get? sources (groupAddress d g).path) := by
  rw [path_item d g i m, path_groupAddress, Issue.span?]
  cases Table.get? sources (Issue.unknownMember d g i m).path <;> rfl

end Paths

section Group
variable {file : String} {sources : SourceMap} {t : Tree} {group : Part} {i : Nat} {m : String}
  {d g : String}

/-- A group that is no list has no items, so that what is found is the place of its key. -/
theorem span?_alone (hkeys : hasPlainKeys t = true)
    (hsources : SourceMap.ofTree file t = .ok sources) (hgroup : group ∈ parts [] t)
    (haddress : group.address = groupAddress d g) (htree : group.tree = .leaf (.text m)) :
    (Issue.unknownMember d g i m).span? sources = group.place?.map (Span.ofMark file) := by
  have hplain := isPlain_address hkeys rfl hgroup
  have hnone : Table.get? sources (groupAddress d g ++ [Step.item i]).path = none := by
    apply get?_sources_of_forall_ne hkeys hsources
    · rw [← haddress]
      simpa [Address.isPlain, Step.isPlain] using hplain
    · intro q hq hsame
      -- A node with this address would be a child of the group, which has none.
      rcases exists_parent hq with ⟨c, hc, rfl⟩ | ⟨q', hq', c, hc, rfl⟩
      · simp [Child.part, groupAddress] at hsame
      · have hparent : q'.address = group.address := by
          rw [haddress]
          exact (List.append_inj' hsame rfl).1
        obtain rfl := List.inj_on_of_nodup_map (nodup_addresses hkeys) hq' hgroup hparent
        rw [htree] at hc
        cases hc
  rw [span?_unknownMember, hnone, ← haddress, get?_sources hkeys hsources hgroup]
  rfl

theorem span?_listed (hkeys : hasPlainKeys t = true)
    (hsources : SourceMap.ofTree file t = .ok sources) (hgroup : group ∈ parts [] t)
    (haddress : group.address = groupAddress d g) {items : List (Option Mark × Tree)}
    (htree : group.tree = .list items) {item : Option Mark × Tree} (hitem : items[i]? = some item) :
    (Issue.unknownMember d g i m).span? sources =
      (item.1.or group.place?).map (Span.ofMark file) := by
  have hchild : ⟨.item i, item.1, item.2⟩ ∈ childrenOf group.tree := by
    rw [htree]
    exact mem_childrenOf_list_iff.2 ⟨i, item, hitem, rfl⟩
  have hfound : Table.get? sources _ = _ :=
    get?_sources hkeys hsources (child_mem_parts hgroup hchild)
  simp only [Child.part] at hfound
  rw [span?_unknownMember, ← haddress, hfound, get?_sources hkeys hsources hgroup,
    ← Option.map_or]

end Group

theorem ofMark_injective (file : String) : Function.Injective (Span.ofMark file) := by
  intro m m' h
  obtain ⟨-, hline, hcolumn⟩ := Span.mk.inj h
  cases m
  cases m'
  simp only [Nat.add_right_cancel_iff] at hline hcolumn
  rw [hline, hcolumn]

/-- Every item has a place of its own. Aliases have the place of what they stand for, and items of
a list whose tag is not known have none. -/
def HavePlaces (items : List (Option Mark × Tree)) : Prop :=
  (items.map (·.1)).Nodup ∧ none ∉ items.map (·.1)

theorem HavePlaces.or_eq {items : List (Option Mark × Tree)} (h : HavePlaces items)
    {item : Option Mark × Tree} (hitem : item ∈ items) (place? : Option Mark) :
    item.1.or place? = item.1 := by
  cases hplace : item.1 with
  | some m => rfl
  | none => exact absurd (hplace ▸ List.mem_map_of_mem hitem) h.2

/-- An item that is taken by the number of the members before another one is that one as long as all
before it are members. -/
theorem HavePlaces.eq_own_iff {before after : List (Option Mark × Tree)}
    {own item : Option Mark × Tree} (h : HavePlaces (before ++ own :: after))
    (hitem : (before ++ own :: after)[(before.filter isMember).length]? = some item) :
    item.1 = own.1 ↔ ∀ x ∈ before, isMember x = true := by
  rw [← List.length_filter_eq_length_iff]
  constructor
  · intro hsame
    refine (List.length_filter_le _ _).antisymm (Nat.le_of_not_lt fun hlt => ?_)
    -- With a null before it, the item that is taken is one of those before it.
    rw [List.getElem?_append_left hlt] at hitem
    have hmem : item.1 ∈ before.map (·.1) := List.mem_map_of_mem (List.mem_of_getElem? hitem)
    have hnodup := h.1
    rw [List.map_append, List.map_cons, List.nodup_append] at hnodup
    exact hnodup.2.2 _ hmem _ (.head _) hsame
  · intro hall
    rw [hall, List.getElem?_append_right le_rfl, Nat.sub_self] at hitem
    rw [Option.some.inj hitem]

theorem exists_ok_of_any {ε γ : Type} {x : Except ε γ} {p : γ → Bool}
    (h : x.toOption.any p = true) : ∃ y, x = .ok y ∧ p y = true := by
  cases x with
  | error e => cases h
  | ok y => exact ⟨y, rfl, h⟩

/-- A finding about the given member, and what the table and the places say besides. -/
theorem exists_finding (file : String) (cs : List Char) (domain : Domain) (issue : Issue)
    (span : Span) (p : Loaded → Bool)
    (h : ((load file cs).toOption.any fun loaded => p loaded &&
      (Audit.ofTable loaded.table domain loaded.sources).errors.any fun f =>
        f.issue = issue && f.span? = some span) = true) :
    ∃ loaded, load file cs = .ok loaded ∧ p loaded = true ∧
      ∃ f ∈ (Audit.ofTable loaded.table domain loaded.sources).errors,
        f.issue = issue ∧ f.span? = some span := by
  obtain ⟨loaded, hload, hfound⟩ := exists_ok_of_any h
  simp only [Bool.and_eq_true, List.any_eq_true, decide_eq_true_eq] at hfound
  exact ⟨loaded, hload, hfound⟩

/-- However a file is read, a finding about an unknown member belongs to a group in it. If the group
is nothing but that member, then the finding points at the group. If it is a list, then the finding
points at the item whose position is that of the member among the members of the list, or at the
group if this item has no place. It is the item in which the member is written if, and only if, no
null stands before it. -/
theorem unknown_points_to_item_iff {read : List Char → Except Fault Tree} {file : String}
    {cs : List Char} {t : Tree} {loaded : Loaded} (hread : read cs = .ok t)
    (hload : loadWith read file cs = .ok loaded) (hkeys : hasPlainKeys t = true)
    {domain : Domain} {f : Finding}
    (hf : f ∈ (Audit.ofTable loaded.table domain loaded.sources).errors) {d g m : String} {i : Nat}
    (hissue : f.issue = .unknownMember d g i m) :
    ∃ group ∈ parts [] t, group.address = groupAddress d g ∧
      (group.tree = .leaf (.text m) ∧ f.span? = group.place?.map (Span.ofMark file) ∨
        ∃ before own after, group.tree = .list (before ++ own :: after) ∧ IsWritten m own ∧
          (before.filter isMember).length = i ∧
          (∃ item, (before ++ own :: after)[i]? = some item ∧
            f.span? = (item.1.or group.place?).map (Span.ofMark file)) ∧
          (HavePlaces (before ++ own :: after) →
            (f.span? = own.1.map (Span.ofMark file) ↔ ∀ x ∈ before, isMember x = true))) := by
  obtain ⟨groups, members, hd, hg, hm, hspan⟩ := exists_of_unknownMember hf hissue
  rcases ofDocument_cases (loadWith_eq_ok hread hload) with rfl | ⟨htable, hsources⟩
  · cases hd
  obtain ⟨group, hgroup, haddress, hshape, rfl⟩ := exists_part_of_mem_readTable htable hd hg
  rw [hissue] at hspan
  refine ⟨group, hgroup, haddress, ?_⟩
  rcases memberTexts_cases hshape hm with ⟨htree, -⟩ | ⟨before, own, after, htree, rfl, hown⟩
  · exact .inl ⟨htree, hspan.trans (span?_alone hkeys hsources hgroup haddress htree)⟩
  · have hlt : (before.filter isMember).length < (before ++ own :: after).length := by
      have hle := List.length_filter_le isMember before
      simp only [List.length_append, List.length_cons]
      omega
    have hitem := List.getElem?_eq_getElem hlt
    rw [span?_listed hkeys hsources hgroup haddress htree hitem] at hspan
    refine .inr ⟨before, own, after, htree, hown, rfl, ⟨_, hitem, hspan⟩, fun hplaces => ?_⟩
    rw [hspan, (Option.map_injective (ofMark_injective file)).eq_iff,
      hplaces.or_eq (List.mem_of_getElem? hitem)]
    exact hplaces.eq_own_iff hitem

/-- Of two members with a null between them the first one is unknown. -/
theorem unknown_points_to_first_item :
    let text := "groups: {S: {G: [a, ~, b]}}".toList
    ∃ t loaded, readDocument text = .ok t ∧ load "groups.yaml" text = .ok loaded ∧
      ∃ f ∈ (Audit.ofTable loaded.table [("S", [.text "b"])] loaded.sources).errors,
        f.issue = .unknownMember "S" "G" 0 "a" ∧ f.span? = some ⟨"groups.yaml", 1, 18⟩ ∧
        ∃ group ∈ parts [] t, group.address = groupAddress "S" "G" ∧
          (group.tree = .leaf (.text "a") ∧
              f.span? = group.place?.map (Span.ofMark "groups.yaml") ∨
            ∃ before own after, group.tree = .list (before ++ own :: after) ∧
              IsWritten "a" own ∧ (before.filter isMember).length = 0 ∧
              (HavePlaces (before ++ own :: after) →
                (f.span? = own.1.map (Span.ofMark "groups.yaml") ↔
                  ∀ x ∈ before, isMember x = true))) := by
  intro text
  have hplain : (readDocument text).toOption.any hasPlainKeys = true := by decide +kernel
  obtain ⟨t, hread, hkeys⟩ := exists_ok_of_any hplain
  obtain ⟨loaded, hload, -, f, hf, hissue, hspan⟩ :=
    exists_finding "groups.yaml" text [("S", [.text "b"])] (.unknownMember "S" "G" 0 "a")
      ⟨"groups.yaml", 1, 18⟩ (fun _ => true) (by decide +kernel)
  obtain ⟨group, hgroup, haddress, hpoints⟩ :=
    unknown_points_to_item_iff hread hload hkeys hf hissue
  refine ⟨t, loaded, hread, hload, f, hf, hissue, hspan, group, hgroup, haddress, ?_⟩
  refine hpoints.imp_right ?_
  rintro ⟨before, own, after, htree, hown, hcount, -, hiff⟩
  exact ⟨before, own, after, htree, hown, hcount, hiff⟩

/-- The finding about the only member points at the null before it. -/
theorem unknown_points_to_null :
    let text := "groups: {S: {G: [~, a]}}".toList
    ∃ t loaded, readDocument text = .ok t ∧ hasPlainKeys t = true ∧
      load "groups.yaml" text = .ok loaded ∧
      Table.get? loaded.sources "groups.S.G[1]" = some ⟨"groups.yaml", 1, 21⟩ ∧
      (∃ f ∈ (Audit.ofTable loaded.table [("S", [.text "b"])] loaded.sources).errors,
        f.issue = .unknownMember "S" "G" 0 "a" ∧ f.span? = some ⟨"groups.yaml", 1, 18⟩) ∧
      text[17]? = some '~' ∧ text[20]? = some 'a' := by
  intro text
  have hplain : (readDocument text).toOption.any hasPlainKeys = true := by decide +kernel
  obtain ⟨t, hread, hkeys⟩ := exists_ok_of_any hplain
  obtain ⟨loaded, hload, hitem, hf⟩ :=
    exists_finding "groups.yaml" text [("S", [.text "b"])] (.unknownMember "S" "G" 0 "a")
      ⟨"groups.yaml", 1, 18⟩
      (fun loaded => Table.get? loaded.sources "groups.S.G[1]" = some ⟨"groups.yaml", 1, 21⟩)
      (by decide +kernel)
  exact ⟨t, loaded, hread, hkeys, hload, by simpa using hitem, hf, rfl, rfl⟩

end ExamFilter.GroupFile
