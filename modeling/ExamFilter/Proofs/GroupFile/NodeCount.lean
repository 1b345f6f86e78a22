import ExamFilter.GroupFile.Limits
import Mathlib.Data.List.Basic

/-!
# Counting nodes

The nodes of a document are counted with the pending ones on a stack. What is counted and what is
still below the pending nodes add up to the whole tree at every step, so that the order in which the
nodes are visited does not matter.
-/
namespace ExamFilter

namespace Value

mutual

/-- The number of nodes of a tree: the root, the items of lists and the values of mappings. -/
def nodes : Value → Nat
  | list items => itemNodes items + 1
  | dict entries => entryNodes entries + 1
  | _ => 1

def itemNodes : List Value → Nat
  | [] => 0
  | v :: rest => v.nodes + itemNodes rest

/-- Keys are not counted. -/
def entryNodes : List (Value × Value) → Nat
  | [] => 0
  | (_, v) :: rest => v.nodes + entryNodes rest

end

theorem itemNodes_append (vs ws : List Value) : itemNodes (vs ++ ws) = itemNodes vs + itemNodes ws := by
  induction vs with
  | nil => simp [itemNodes]
  | cons v vs ih => simp [itemNodes, ih, Nat.add_assoc]

theorem itemNodes_perm {vs ws : List Value} (h : vs.Perm ws) : itemNodes vs = itemNodes ws := by
  induction h with
  | nil => rfl
  | cons v h ih => simp [itemNodes, ih]
  | swap v w rest => simp [itemNodes, Nat.add_left_comm]
  | trans h h' ih ih' => exact ih.trans ih'

theorem entryNodes_eq (entries : List (Value × Value)) :
    entryNodes entries = itemNodes (entries.map (·.2)) := by
  induction entries with
  | nil => rfl
  | cons e rest ih => simp [entryNodes, itemNodes, ih]

end Value

namespace GroupFile
open Value

theorem nodes_eq_itemNodes_children (v : Value) : v.nodes = itemNodes (children v) + 1 := by
  cases v with
  | list items => rfl
  | dict entries => rw [children, ← entryNodes_eq, nodes]
  | _ => rfl

theorem nodes_pos (v : Value) : 0 < v.nodes := by
  rw [nodes_eq_itemNodes_children]
  exact Nat.succ_pos _

theorem withinLimit_iff {n : Nat} {pending : List Value} :
    withinLimit n pending = true ↔ itemNodes pending ≤ n := by
  induction n generalizing pending with
  | zero =>
    cases pending with
    | nil => simp [withinLimit, itemNodes]
    | cons v rest =>
      have hpos := nodes_pos v
      simp only [withinLimit, itemNodes, Bool.false_eq_true, false_iff]
      omega
  | succ n ih =>
    cases pending with
    | nil => simp [withinLimit, itemNodes]
    | cons v rest =>
      rw [withinLimit, ih, itemNodes_append, itemNodes, nodes_eq_itemNodes_children v]
      omega

theorem checkNodes_eq (limit : Int) (v : Value) :
    checkNodes limit v = if v.nodes ≤ limit then .ok () else .error (.tooManyNodes limit) := by
  have hpos := nodes_pos v
  have hwithin : withinLimit limit.toNat [v] = true ↔ v.nodes ≤ limit := by
    rw [withinLimit_iff, itemNodes, itemNodes]
    omega
  rw [checkNodes]
  exact if_congr hwithin rfl rfl

/-- How far a count of nodes has got. -/
inductive Count where
  /-- So many nodes have been counted, and some are pending. -/
  | counting (counted : Nat) (pending : List Value)
  | refused

namespace Count

/-- Any of the pending nodes may be the next one. The nodes right below it become pending, in any
order; past the limit the tree is refused. -/
inductive Step (limit : Int) : Count → Count → Prop
  | count {n : Nat} {pending others next : List Value} {v : Value}
      (hpick : pending.Perm (v :: others)) (hlimit : n + 1 ≤ limit)
      (hpush : next.Perm (children v ++ others)) :
      Step limit (counting n pending) (counting (n + 1) next)
  | refuse {n : Nat} {pending others : List Value} {v : Value}
      (hpick : pending.Perm (v :: others)) (hlimit : limit < n + 1) :
      Step limit (counting n pending) refused

/-- The given number of steps. -/
inductive Run (limit : Int) (c : Count) : Nat → Count → Prop
  | start : Run limit c 0 c
  | step {k : Nat} {c' c'' : Count} (hrun : Run limit c k c') (hstep : Step limit c' c'') :
      Run limit c (k + 1) c''

/-- On a stack the last pending node is the next one, and the nodes below it are put on top. -/
theorem Step.stack {limit : Int} {n : Nat} (below : List Value) (v : Value)
    (hlimit : n + 1 ≤ limit) :
    Step limit (counting n (below ++ [v])) (counting (n + 1) (below ++ children v)) :=
  .count (List.perm_append_singleton v below) hlimit List.perm_append_comm

/-- After `k` steps in a tree of `total` nodes: what has been counted and what is below the pending
nodes make up the tree, and nothing has been counted past the limit. -/
def Sound (limit : Int) (total k : Nat) : Count → Prop
  | counting n pending => n = k ∧ n + itemNodes pending = total ∧ (n = 0 ∨ n ≤ limit)
  | refused => k ≤ total ∧ limit < total

variable {limit : Int} {total k : Nat} {c c' : Count}

theorem Sound.step (h : Sound limit total k c) (hstep : Step limit c c') :
    Sound limit total (k + 1) c' := by
  cases hstep with
  | count hpick hlimit hpush =>
    obtain ⟨rfl, htotal, -⟩ := h
    rw [itemNodes_perm hpick, itemNodes, nodes_eq_itemNodes_children] at htotal
    refine ⟨rfl, ?_, .inr (by exact_mod_cast hlimit)⟩
    rw [itemNodes_perm hpush, itemNodes_append]
    omega
  | refuse hpick hlimit =>
    obtain ⟨rfl, htotal, -⟩ := h
    rw [itemNodes_perm hpick, itemNodes, nodes_eq_itemNodes_children] at htotal
    constructor <;> omega

theorem Sound.run (h : Sound limit total 0 c) (hrun : Run limit c k c') :
    Sound limit total k c' := by
  induction hrun with
  | start => exact h
  | step _ hstep ih => exact ih.step hstep

theorem Sound.le_total (h : Sound limit total k c) : k ≤ total := by
  cases c with
  | counting n pending =>
    obtain ⟨rfl, htotal, -⟩ := h
    omega
  | refused => exact h.1

/-- As long as a node is pending there is a next step. -/
theorem exists_step (limit : Int) (n : Nat) (v : Value) (others : List Value) :
    ∃ c', Step limit (counting n (v :: others)) c' := by
  rcases Int.lt_or_le limit (n + 1) with hlimit | hlimit
  · exact ⟨_, .refuse (.refl _) hlimit⟩
  · exact ⟨_, .count (.refl _) hlimit (.refl _)⟩

theorem Sound.last (h : Sound limit total k c) (hpos : 0 < total)
    (hlast : ∀ c', ¬ Step limit c c') :
    c = if (total : Int) ≤ limit then counting total [] else refused := by
  cases c with
  | counting n pending =>
    obtain ⟨rfl, htotal, hlimit⟩ := h
    cases pending with
    | nil =>
      obtain rfl : n = total := htotal
      rw [if_pos (by omega)]
    | cons v others =>
      obtain ⟨c', hstep⟩ := exists_step limit n v others
      exact absurd hstep (hlast c')
  | refused => rw [if_neg (Int.not_le.2 h.2)]

end Count

/-- A tree is refused if, and only if, it has more nodes than the limit allows. In whatever order
its nodes are counted, the count goes on for at most as many steps as there are nodes, and it ends
with all of them counted or, if they are more than the limit allows, with the tree refused. -/
theorem checkNodes_in_any_order (limit : Int) (v : Value) :
    checkNodes limit v = (if v.nodes ≤ limit then .ok () else .error (.tooManyNodes limit)) ∧
    ∀ k c, Count.Run limit (.counting 0 [v]) k c → k ≤ v.nodes ∧
      ((∀ c', ¬ Count.Step limit c c') →
        c = if v.nodes ≤ limit then .counting v.nodes [] else .refused) := by
  refine ⟨checkNodes_eq limit v, fun k c hrun => ?_⟩
  have hstart : Count.Sound limit v.nodes 0 (.counting 0 [v]) := by
    simp [Count.Sound, itemNodes]
  have hsound := hstart.run hrun
  exact ⟨hsound.le_total, hsound.last (nodes_pos v)⟩

/-- Four nodes, of which the second one to be counted is the last of the root. -/
theorem checkNodes_in_any_order_stack :
    let v : Value := .list [.int 1, .dict [(.text "k", .list [])]]
    v.nodes = 4 ∧ checkNodes 2 v = .error (.tooManyNodes 2) ∧
      Count.Run 2 (.counting 0 [v]) 3 .refused ∧
      Count.refused = if (v.nodes : Int) ≤ 2 then Count.counting v.nodes [] else Count.refused := by
  intro v
  have hroot : Count.Step 2 (.counting 0 [v]) (.counting 1 (children v)) :=
    .stack [] v (by decide)
  have hlast : Count.Step 2 (.counting 1 (children v)) (.counting 2 [.int 1, .list []]) :=
    .stack [.int 1] (.dict [(.text "k", .list [])]) (by decide)
  have hrefuse : Count.Step 2 (.counting 2 [.int 1, .list []]) .refused :=
    .refuse (.refl _) (by decide)
  have hrun := ((Count.Run.start.step hroot).step hlast).step hrefuse
  obtain ⟨hcheck, hruns⟩ := checkNodes_in_any_order 2 v
  exact ⟨rfl, hcheck, hrun, (hruns 3 .refused hrun).2 fun c' hstep => nomatch hstep⟩

end GroupFile

end ExamFilter
