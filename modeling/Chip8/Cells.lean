set_option autoImplicit false

namespace Chip8

-- An index is followed from its low bit up, and so counts modulo the number of cells.
inductive Cells (α : Type) : Nat → Type where
  | leaf (value : α) : Cells α 0
  | node {depth : Nat} (even odd : Cells α depth) : Cells α (depth + 1)
deriving DecidableEq

namespace Cells

variable {α β : Type}

def size : Nat → Nat
  | 0 => 1
  | depth + 1 => 2 * size depth

def get : {depth : Nat} → Cells α depth → Nat → α
  | _, .leaf value, _ => value
  | _, .node even odd, i => if i % 2 = 0 then even.get (i / 2) else odd.get (i / 2)

def set : {depth : Nat} → Cells α depth → Nat → α → Cells α depth
  | _, .leaf _, _, value => .leaf value
  | _, .node even odd, i, value =>
      if i % 2 = 0 then .node (even.set (i / 2) value) odd else .node even (odd.set (i / 2) value)

def ofFn : (depth : Nat) → (Nat → α) → Cells α depth
  | 0, f => .leaf (f 0)
  | depth + 1, f => .node (ofFn depth fun i => f (2 * i)) (ofFn depth fun i => f (2 * i + 1))

def fill (depth : Nat) (value : α) : Cells α depth :=
  match depth with
  | 0 => .leaf value
  | depth + 1 =>
      let half := fill depth value
      .node half half

def map (f : α → β) : {depth : Nat} → Cells α depth → Cells β depth
  | _, .leaf value => .leaf (f value)
  | _, .node even odd => .node (even.map f) (odd.map f)

theorem mod_size_succ (depth i : Nat) : i % size (depth + 1) = i % 2 + 2 * (i / 2 % size depth) := by
  change i % (2 * size depth) = _
  rw [Nat.mod_mul]

theorem get_fill (depth : Nat) (value : α) (i : Nat) : (fill depth value).get i = value := by
  induction depth generalizing i with
  | zero => rfl
  | succ depth ih => simp [fill, get, ih]

theorem get_map {depth : Nat} (f : α → β) (cells : Cells α depth) (i : Nat) :
    (cells.map f).get i = f (cells.get i) := by
  induction cells generalizing i with
  | leaf value => rfl
  | node even odd evenIh oddIh =>
      rw [map, get, get, evenIh, oddIh]
      split <;> rfl

theorem get_of_fn (depth : Nat) (f : Nat → α) (i : Nat) : (ofFn depth f).get i = f (i % size depth) := by
  induction depth generalizing f i with
  | zero =>
      have zero : i % size 0 = 0 := Nat.mod_one i
      rw [zero]
      rfl
  | succ depth ih =>
      rw [ofFn, get, ih, ih, mod_size_succ]
      split
      · rename_i even
        rw [even, Nat.zero_add]
      · rename_i odd
        have one : i % 2 = 1 := by omega
        rw [one, Nat.add_comm]

theorem get_set {depth : Nat} (cells : Cells α depth) (i j : Nat) (value : α) :
    (cells.set i value).get j = if i % size depth = j % size depth then value else cells.get j := by
  induction cells generalizing i j with
  | leaf old =>
      have same : i % size 0 = j % size 0 := by rw [size, Nat.mod_one, Nat.mod_one]
      rw [if_pos same]
      rfl
  | @node depth even odd evenIh oddIh =>
      have split_index : i % size (depth + 1) = j % size (depth + 1) ↔
          i % 2 = j % 2 ∧ i / 2 % size depth = j / 2 % size depth := by
        rw [mod_size_succ, mod_size_succ]
        omega
      by_cases iEven : i % 2 = 0 <;> by_cases jEven : j % 2 = 0 <;>
        simp only [set, get, iEven, jEven, if_true, if_false, evenIh, oddIh, split_index]
      · simp
      · have different : ¬ (0 = j % 2) := fun same => jEven same.symm
        simp [different]
      · simp
      · have same : i % 2 = j % 2 := by omega
        simp [same]

theorem eq_of_get {depth : Nat} (a b : Cells α depth) (same : ∀ i, i < size depth → a.get i = b.get i) : a = b := by
  induction a with
  | leaf value =>
      cases b with
      | leaf other =>
          have equal : value = other := same 0 (by decide)
          rw [equal]
  | @node depth even odd evenIh oddIh =>
      cases b with
      | node otherEven otherOdd =>
          have evens : even = otherEven := by
            apply evenIh
            intro i inside
            have equal := same (2 * i) (by change 2 * i < 2 * size depth; omega)
            simpa [get] using equal
          have odds : odd = otherOdd := by
            apply oddIh
            intro i inside
            have equal := same (2 * i + 1) (by change 2 * i + 1 < 2 * size depth; omega)
            have bit : (2 * i + 1) % 2 = 1 := by omega
            have rest : (2 * i + 1) / 2 = i := by omega
            simpa [get, bit, rest] using equal
          rw [evens, odds]

end Cells

end Chip8
