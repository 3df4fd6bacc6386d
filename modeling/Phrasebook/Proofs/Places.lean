import Phrasebook.Proofs.RewrittenTrees

/-!
# Where trees stand

A tree in a row of trees has an address: its number in the row, and in each node on the way down. It also has a place,
the byte at which it starts. Addresses are compared number by number, and an address comes before those it is the start
of: this is the order of the document, in which a construct comes before what is in it.

Results:
1. `Stands.apart`: of two trees neither of which is in the other, one ends before the other starts.
2. `mem_nodesFrom_zero` and `pairwise_nodesFrom`: the trees that stand in a row, listed in the order of the document.
3. `landmarksOfAll_eq`: the landmarks of a source are what its trees tell, in this order.
-/

namespace Phrasebook.Source

namespace Tree

/-! ## 1. Addresses -/

/-- A tree stands at an address and a place in a row of trees that starts at a place. All nodes around it are of kinds
that are passed. -/
inductive Stands (passes : Kind → Bool) : Nat → List Tree → List Nat → Nat → Tree → Prop
  | here (place : Nat) (t : Tree) (ts : List Tree) : Stands passes place (t :: ts) [0] place t
  | later {place : Nat} {t : Tree} {ts : List Tree} {i : Nat} {address : List Nat} {q : Nat} {s : Tree} :
      Stands passes (place + t.size) ts (i :: address) q s → Stands passes place (t :: ts) ((i + 1) :: address) q s
  | inside {place : Nat} {r : Role} {k : Kind} {cs ts : List Tree} {address : List Nat} {q : Nat} {s : Tree} :
      passes k = true → Stands passes place cs address q s → Stands passes place (.node r k cs :: ts) (0 :: address) q s

namespace Stands

variable {passes : Kind → Bool} {place q q' : Nat} {t s s' : Tree} {ts : List Tree} {address address' : List Nat}

theorem ne_nil (h : Stands passes place ts address q s) : address ≠ [] := by
  cases h <;> exact List.cons_ne_nil _ _

theorem mono {more : Kind → Bool} (hmore : ∀ k, passes k = true → more k = true)
    (h : Stands passes place ts address q s) : Stands more place ts address q s := by
  induction h with
  | here place t ts => exact .here place t ts
  | later _ ih => exact .later ih
  | inside hk _ ih => exact .inside (hmore _ hk) ih

/-- A tree takes up some of the bytes of the row. -/
theorem bounds (h : Stands passes place ts address q s) : place ≤ q ∧ q + s.size ≤ place + sizeOf ts := by
  induction h with
  | here place t ts =>
    rw [sizeOf]
    omega
  | later _ ih =>
    rw [sizeOf]
    omega
  | inside _ _ ih =>
    rw [sizeOf, size]
    omega

theorem succ_cons_lt {i j : Nat} {a b : List Nat} : (i + 1) :: a < (j + 1) :: b ↔ i :: a < j :: b := by
  rw [List.cons_lt_cons_iff, List.cons_lt_cons_iff, Nat.add_lt_add_iff_right, Nat.add_right_cancel_iff]

/-- Of two trees neither of which is in the other, one ends before the other starts. -/
theorem apart (h : Stands passes place ts address q s) (h' : Stands passes place ts address' q' s')
    (hlt : address < address') : address <+: address' ∨ q + s.size ≤ q' := by
  induction h generalizing address' with
  | here place t ts =>
    cases h' with
    | here => exact .inl (List.prefix_refl _)
    | later h' => exact .inr h'.bounds.1
    | inside => exact .inl ⟨_, rfl⟩
  | later _ ih =>
    cases h' with
    | here => exact absurd (List.cons_lt_cons_iff.mp hlt) (by omega)
    | inside => exact absurd (List.cons_lt_cons_iff.mp hlt) (by omega)
    | later h' =>
      refine (ih h' (succ_cons_lt.mp hlt)).imp_left fun hprefix => ?_
      rw [List.cons_prefix_cons] at hprefix ⊢
      exact ⟨congrArg (· + 1) hprefix.1, hprefix.2⟩
  | inside hk hin ih =>
    cases h' with
    | here => exact absurd hlt (by simp)
    | later h' =>
      refine .inr ?_
      have hend := hin.bounds.2
      have hstart := h'.bounds.1
      rw [size] at hstart
      omega
    | inside _ h' =>
      have hrest := ((List.cons_lt_cons_iff.mp hlt).resolve_left (lt_irrefl 0)).2
      exact (ih h' hrest).imp_left fun hprefix => List.cons_prefix_cons.mpr ⟨rfl, hprefix⟩

end Stands

/-! ## 2. Trees in the order of the document -/

/-- A tree with its address and its place. -/
abbrev Placed := List Nat × Nat × Tree

mutual
/-- A tree, which is one of a row, and the trees that stand in it. -/
def nodesAt (passes : Kind → Bool) (place i : Nat) : Tree → List Placed
  | leaf r k before text => [([i], place, leaf r k before text)]
  | node r k cs =>
    ([i], place, node r k cs) ::
      (if passes k then nodesFrom passes place 0 cs else []).map fun n => (i :: n.1, n.2)
/-- The trees that stand in a row, in the order of the document. -/
def nodesFrom (passes : Kind → Bool) (place i : Nat) : List Tree → List Placed
  | [] => []
  | t :: ts => nodesAt passes place i t ++ nodesFrom passes (place + t.size) (i + 1) ts
end

variable {passes : Kind → Bool}

mutual
theorem mem_nodesAt (place i : Nat) (t : Tree) (address : List Nat) (q : Nat) (s : Tree) :
    (address, q, s) ∈ nodesAt passes place i t ↔
      ∃ rest, address = i :: rest ∧ Stands passes place [t] (0 :: rest) q s := by
  cases t with
  | leaf r k before text =>
    rw [nodesAt, List.mem_singleton]
    constructor
    · rintro ⟨rfl, rfl, rfl⟩
      exact ⟨[], rfl, .here _ _ _⟩
    · rintro ⟨rest, rfl, h⟩
      cases h with
      | here => rfl
  | node r k cs =>
    have hinner (rest : List Nat) : (rest, q, s) ∈ nodesFrom passes place 0 cs ↔ Stands passes place cs rest q s := by
      rw [mem_nodesFrom place 0 cs rest q s]
      constructor
      · rintro ⟨j, rest', rfl, h⟩
        rwa [Nat.zero_add]
      · intro h
        obtain ⟨j, rest', rfl⟩ := List.exists_cons_of_ne_nil h.ne_nil
        exact ⟨j, rest', by rw [Nat.zero_add], h⟩
    rw [nodesAt, List.mem_cons, List.mem_map]
    constructor
    · rintro (⟨rfl, rfl, rfl⟩ | ⟨⟨rest, q', s'⟩, hmem, ⟨rfl, rfl, rfl⟩⟩)
      · exact ⟨[], rfl, .here _ _ _⟩
      · split at hmem
        · rename_i hk
          exact ⟨rest, rfl, .inside hk ((hinner rest).mp hmem)⟩
        · cases hmem
    · rintro ⟨rest, rfl, h⟩
      cases h with
      | here => exact .inl rfl
      | inside hk h =>
        refine .inr ⟨(rest, q, s), ?_, rfl⟩
        rw [if_pos hk]
        exact (hinner rest).mpr h
theorem mem_nodesFrom (place i : Nat) (ts : List Tree) (address : List Nat) (q : Nat) (s : Tree) :
    (address, q, s) ∈ nodesFrom passes place i ts ↔
      ∃ j rest, address = (i + j) :: rest ∧ Stands passes place ts (j :: rest) q s := by
  cases ts with
  | nil =>
    rw [nodesFrom]
    refine ⟨fun h => absurd h List.not_mem_nil, ?_⟩
    rintro ⟨j, rest, -, h⟩
    cases h
  | cons t ts =>
    rw [nodesFrom, List.mem_append, mem_nodesAt place i t address q s,
      mem_nodesFrom (place + t.size) (i + 1) ts address q s]
    constructor
    · rintro (⟨rest, rfl, h⟩ | ⟨j, rest, rfl, h⟩)
      · refine ⟨0, rest, rfl, ?_⟩
        cases h with
        | here => exact .here _ _ _
        | inside hk h => exact .inside hk h
      · exact ⟨j + 1, rest, by rw [Nat.add_right_comm, Nat.add_assoc], .later h⟩
    · rintro ⟨j, rest, rfl, h⟩
      cases h with
      | here => exact .inl ⟨[], rfl, .here _ _ _⟩
      | inside hk h => exact .inl ⟨_, rfl, .inside hk h⟩
      | later h => exact .inr ⟨_, rest, by rw [Nat.add_right_comm, Nat.add_assoc], h⟩
end

/-- The list holds just the trees that stand in the row. -/
theorem mem_nodesFrom_zero {place : Nat} {ts : List Tree} {address : List Nat} {q : Nat} {s : Tree} :
    (address, q, s) ∈ nodesFrom passes place 0 ts ↔ Stands passes place ts address q s := by
  rw [mem_nodesFrom place 0 ts address q s]
  constructor
  · rintro ⟨j, rest, rfl, h⟩
    rwa [Nat.zero_add]
  · intro h
    obtain ⟨j, rest, rfl⟩ := List.exists_cons_of_ne_nil h.ne_nil
    exact ⟨j, rest, by rw [Nat.zero_add], h⟩

mutual
theorem pairwise_nodesAt (place i : Nat) (t : Tree) :
    (nodesAt passes place i t).Pairwise fun a b => a.1 < b.1 := by
  cases t with
  | leaf r k before text => exact List.pairwise_singleton _ _
  | node r k cs =>
    rw [nodesAt, List.pairwise_cons, List.pairwise_map]
    constructor
    · -- a node comes before all that is in it
      intro n hn
      obtain ⟨⟨rest, q, s⟩, hmem, rfl⟩ := List.mem_map.mp hn
      split at hmem
      · obtain ⟨j, rest', rfl, -⟩ := (mem_nodesFrom place 0 cs rest q s).mp hmem
        exact List.cons_lt_cons_iff.mpr (.inr ⟨rfl, List.nil_lt_cons _ _⟩)
      · cases hmem
    · split
      · exact (pairwise_nodesFrom place 0 cs).imp fun h => List.cons_lt_cons_iff.mpr (.inr ⟨rfl, h⟩)
      · exact List.Pairwise.nil
theorem pairwise_nodesFrom (place i : Nat) (ts : List Tree) :
    (nodesFrom passes place i ts).Pairwise fun a b => a.1 < b.1 := by
  cases ts with
  | nil => exact List.Pairwise.nil
  | cons t ts =>
    rw [nodesFrom, List.pairwise_append]
    refine ⟨pairwise_nodesAt place i t, pairwise_nodesFrom _ (i + 1) ts, ?_⟩
    rintro ⟨a, q, s⟩ ha ⟨b, q', s'⟩ hb
    obtain ⟨rest, rfl, -⟩ := (mem_nodesAt place i t a q s).mp ha
    obtain ⟨j, rest', rfl, -⟩ := (mem_nodesFrom _ (i + 1) ts b q' s').mp hb
    exact List.cons_lt_cons_iff.mpr (.inl (by omega))
end

end Tree

/-! ## 3. Landmarks in the order of the document -/

namespace Outline

/-- Whether landmarks are looked for in a node: in neither elements nor imports. -/
def isOpen (k : Kind) : Bool := k != .element && k != .selfClosing && k != .importStatement

def ownLandmarks (place : Nat) : Tree → List Landmark
  | .leaf _ _ _ _ => []
  | .node r k cs =>
    if k == .element || k == .selfClosing then (elementsOf place (.node r k cs)).map .markup
    else ofConstruct (.node r k cs)

open Phrasebook.Source.Tree

mutual
theorem landmarksOf_eq (place i : Nat) (t : Tree) :
    landmarksOf place t = (nodesAt isOpen place i t).flatMap fun n => ownLandmarks n.2.1 n.2.2 := by
  cases t with
  | leaf r k before text => rfl
  | node r k cs =>
    rw [landmarksOf, nodesAt, List.flatMap_cons, List.flatMap_map, ownLandmarks]
    dsimp only
    by_cases hk : (k == .element || k == .selfClosing) = true
    · have hclosed : isOpen k = false := by
        rw [Bool.or_eq_true, beq_iff_eq, beq_iff_eq] at hk
        rcases hk with rfl | rfl <;> rfl
      rw [if_pos hk, if_pos hk, if_neg (by rw [hclosed]; exact Bool.false_ne_true), List.flatMap_nil, List.append_nil]
    · rw [if_neg hk, if_neg hk]
      by_cases himport : (k == .importStatement) = true
      · have hclosed : isOpen k = false := by
          rw [beq_iff_eq] at himport
          rw [himport]
          rfl
        rw [if_pos himport, if_neg (by rw [hclosed]; exact Bool.false_ne_true), List.flatMap_nil, List.append_nil]
      · have hopen : isOpen k = true := by
          simp only [Bool.or_eq_true, beq_iff_eq, not_or] at hk himport
          simp [isOpen, hk, himport]
        rw [if_neg himport, if_pos hopen, landmarksOfAll_eq place 0 cs]
theorem landmarksOfAll_eq (place i : Nat) (ts : List Tree) :
    landmarksOfAll place ts = (nodesFrom isOpen place i ts).flatMap fun n => ownLandmarks n.2.1 n.2.2 := by
  cases ts with
  | nil => rfl
  | cons t ts =>
    rw [landmarksOfAll, nodesFrom, List.flatMap_append, ← landmarksOf_eq place i t, ← landmarksOfAll_eq _ (i + 1) ts]
end

end Outline
end Phrasebook.Source
