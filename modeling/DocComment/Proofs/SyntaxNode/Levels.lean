import DocComment.SyntaxNode
import Mathlib.Logic.Relation

/-! The search of a syntax tree in level order. The queue of the search holds the rest of
one level and then what has been met of the next, so the search goes through the levels
one after the other, each from left to right. Every node that is reached through
declarations and children stands in one of finitely many levels. -/

namespace DocComment.SyntaxNode

/-- A node stands right above the declaration that it wraps and above its children. -/
def IsAbove (n m : SyntaxNode) : Prop := n.declaration = some m ∨ m ∈ n.children

abbrev Reaches := Relation.ReflTransGen IsAbove

theorem mem_next_iff {n m : SyntaxNode} : m ∈ n.next ↔ n.IsAbove m := by
  simp [next, IsAbove]

/-- The nodes so many steps below those given, from left to right. -/
def levelFrom (ns : List SyntaxNode) : Nat → List SyntaxNode
  | 0 => ns
  | depth + 1 => (levelFrom ns depth).flatMap next

def level (n : SyntaxNode) (depth : Nat) : List SyntaxNode := levelFrom [n] depth

/-- The levels of a tree one after the other. -/
def levelOrder (n : SyntaxNode) : List SyntaxNode := (List.range n.size).flatMap n.level

/-- The fact of the node is of the wanted kind. -/
def carries (wanted : String) (n : SyntaxNode) : Bool := n.fact.any (·.tag.name == wanted)

theorem carries_iff {wanted : String} {n : SyntaxNode} :
    n.carries wanted = true ↔ ∃ fact, n.fact = some fact ∧ fact.tag.name = wanted := by
  cases h : n.fact <;> simp [carries, h]

theorem factOf?_eq (wanted : String) (n : SyntaxNode) :
    n.factOf? wanted = if n.carries wanted then n.fact else none := by
  cases h : n.fact with
  | none => simp [factOf?, h]
  | some fact => by_cases hw : fact.tag.name = wanted <;> simp [factOf?, carries, h, hw]

theorem findSome?_factOf? (wanted : String) (ns : List SyntaxNode) :
    ns.findSome? (factOf? wanted) = (ns.find? (carries wanted)).bind fact := by
  induction ns with
  | nil => rfl
  | cons n ns ih =>
    cases hn : n.carries wanted with
    | false => simp [factOf?_eq, hn, ih]
    | true =>
      obtain ⟨found, hfact, -⟩ := carries_iff.mp hn
      simp [factOf?_eq, hn, hfact]

section Levels

variable {ns : List SyntaxNode}

theorem levelFrom_succ (ns : List SyntaxNode) (depth : Nat) :
    levelFrom ns (depth + 1) = levelFrom (ns.flatMap next) depth := by
  induction depth with
  | zero => rfl
  | succ depth ih => rw [levelFrom, ih, levelFrom]

theorem sizeList_flatMap_next (ns : List SyntaxNode) :
    sizeList (ns.flatMap next) + ns.length = sizeList ns := by
  induction ns with
  | nil => rfl
  | cons n ns ih =>
    have hsize : sizeList (n :: ns) = 1 + sizeList n.next + sizeList ns := by
      rw [sizeList, size_eq]
    rw [List.flatMap_cons, sizeList_append, List.length_cons, hsize]
    omega

theorem sizeList_flatMap_next_lt (h : ns ≠ []) : sizeList (ns.flatMap next) < sizeList ns := by
  have hsum := sizeList_flatMap_next ns
  have hpos : 0 < ns.length := List.length_pos_iff.mpr h
  omega

theorem levelFrom_eq_nil {depth : Nat} (h : sizeList ns ≤ depth) : levelFrom ns depth = [] := by
  induction depth generalizing ns with
  | zero =>
    have hsum := sizeList_flatMap_next ns
    have hlen : ns.length = 0 := by omega
    exact List.eq_nil_of_length_eq_zero hlen
  | succ depth ih =>
    rw [levelFrom_succ]
    by_cases hns : ns = []
    · subst hns
      exact ih (Nat.zero_le depth)
    · have hlt := sizeList_flatMap_next_lt hns
      exact ih (by omega)

theorem mem_level_iff {n m : SyntaxNode} {depth : Nat} :
    m ∈ n.level (depth + 1) ↔ ∃ u ∈ n.level depth, u.IsAbove m := by
  simp only [level, levelFrom, List.mem_flatMap, mem_next_iff]

theorem reaches_iff {n m : SyntaxNode} : n.Reaches m ↔ ∃ depth, m ∈ n.level depth := by
  constructor
  · intro h
    induction h with
    | refl => exact ⟨0, List.mem_singleton.mpr rfl⟩
    | tail _ hstep ih =>
      obtain ⟨depth, hmem⟩ := ih
      exact ⟨depth + 1, mem_level_iff.mpr ⟨_, hmem, hstep⟩⟩
  · rintro ⟨depth, h⟩
    induction depth generalizing m with
    | zero =>
      obtain rfl : m = n := List.mem_singleton.mp h
      exact .refl
    | succ depth ih =>
      obtain ⟨u, hu, hstep⟩ := mem_level_iff.mp h
      exact (ih hu).tail hstep

theorem sizeList_singleton (n : SyntaxNode) : sizeList [n] = n.size := by simp [sizeList]

theorem mem_levelOrder_iff {n m : SyntaxNode} : m ∈ n.levelOrder ↔ n.Reaches m := by
  rw [reaches_iff, levelOrder, List.mem_flatMap]
  constructor
  · rintro ⟨depth, -, h⟩
    exact ⟨depth, h⟩
  · rintro ⟨depth, h⟩
    have hdepth : ¬ n.size ≤ depth := fun hle => by
      rw [level, levelFrom_eq_nil (by rwa [sizeList_singleton])] at h
      exact List.not_mem_nil h
    exact ⟨depth, List.mem_range.mpr (by omega), h⟩

end Levels

section Search

variable {wanted : String}

/-- What stands at the front of the queue is searched before anything below it. -/
theorem search_append (ns rest : List SyntaxNode) :
    search wanted (ns ++ rest) =
      (ns.findSome? (factOf? wanted)).or (search wanted (rest ++ ns.flatMap next)) := by
  induction ns generalizing rest with
  | nil => simp
  | cons n ns ih =>
    rw [List.cons_append, search, List.findSome?_cons]
    cases hn : n.factOf? wanted with
    | some fact => rfl
    | none =>
      have hqueue := ih (rest ++ n.next)
      simpa only [List.flatMap_cons, List.append_assoc] using hqueue

theorem search_level (ns : List SyntaxNode) :
    search wanted ns =
      (ns.findSome? (factOf? wanted)).or (search wanted (ns.flatMap next)) := by
  have h : search wanted (ns ++ []) =
      (ns.findSome? (factOf? wanted)).or (search wanted ([] ++ ns.flatMap next)) :=
    search_append ns []
  rwa [List.append_nil, List.nil_append] at h

theorem search_eq {ns : List SyntaxNode} {depth : Nat} (h : sizeList ns ≤ depth) :
    search wanted ns =
      ((List.range depth).flatMap (levelFrom ns)).findSome? (factOf? wanted) := by
  induction depth generalizing ns with
  | zero =>
    have hns : ns = [] := levelFrom_eq_nil h
    simp [hns, search]
  | succ depth ih =>
    by_cases hns : ns = []
    · subst hns
      have hlevels : (List.range (depth + 1)).flatMap (levelFrom []) = [] :=
        List.flatMap_eq_nil_iff.mpr fun k _ => levelFrom_eq_nil (Nat.zero_le k)
      rw [hlevels, search]
      rfl
    · have hlt := sizeList_flatMap_next_lt hns
      have hle : sizeList (ns.flatMap next) ≤ depth := by omega
      have hbelow := ih hle
      have hlevels : (List.range (depth + 1)).flatMap (levelFrom ns) =
          ns ++ (List.range depth).flatMap (levelFrom (ns.flatMap next)) := by
        rw [List.range_succ_eq_map, List.flatMap_cons, List.flatMap_map, levelFrom]
        simp only [Nat.succ_eq_add_one, levelFrom_succ]
      rw [search_level, hbelow, hlevels, List.findSome?_append]

end Search

/-- The search gives the fact of the first matching node of the levels, and nothing
exactly when no node that is reached has such a fact. -/
theorem find_levelOrder (wanted : String) (n : SyntaxNode) :
    n.find wanted = (n.levelOrder.find? (carries wanted)).bind fact ∧
      (∀ depth, n.size ≤ depth → n.level depth = []) ∧
      (n.find wanted = none ↔
        ∀ m, n.Reaches m → ∀ fact, m.fact = some fact → fact.tag.name ≠ wanted) := by
  have hsize : sizeList [n] ≤ n.size := Nat.le_of_eq (sizeList_singleton n)
  have hfind : n.find wanted = (n.levelOrder.find? (carries wanted)).bind fact := by
    rw [← findSome?_factOf?]
    exact search_eq hsize
  refine ⟨hfind, fun depth hdepth => levelFrom_eq_nil (Nat.le_trans hsize hdepth), ?_⟩
  constructor
  · intro hnone m hm found hfact hname
    have hcarries : m.carries wanted = true := carries_iff.mpr ⟨found, hfact, hname⟩
    rw [hfind] at hnone
    cases hfirst : n.levelOrder.find? (carries wanted) with
    | none => exact List.find?_eq_none.mp hfirst m (mem_levelOrder_iff.mpr hm) hcarries
    | some first =>
      -- the first match has a fact, so the search would have given it
      obtain ⟨firstFact, hsome, -⟩ := carries_iff.mp (List.find?_some hfirst)
      simp [hfirst, hsome] at hnone
  · intro hno
    have hfirst : n.levelOrder.find? (carries wanted) = none := by
      refine List.find?_eq_none.mpr fun m hm hcarries => ?_
      obtain ⟨found, hfact, hname⟩ := carries_iff.mp hcarries
      exact hno m (mem_levelOrder_iff.mp hm) found hfact hname
    rw [hfind, hfirst]
    rfl

/-- A child of the root comes before the child of its elder sister. -/
example :
    let node (fact : Option Fact) (children : List SyntaxNode) : SyntaxNode :=
      ⟨"", none, none, fact, children, none, none, none, .null⟩
    let known (string : String) : Option Fact := some (.classDecl { string })
    let tree := node none [node none [node (known "deep") []], node (known "near") []]
    tree.find "ClassDeclaration" = known "near" := by cbv

end DocComment.SyntaxNode
