import Chip8.Proofs.Memory.Bytewise

set_option autoImplicit false

namespace Chip8.Memory

theorem result_eq {α : Type} (first second : Except Failure α)
    (failures : ∀ failure, first = .error failure ↔ second = .error failure)
    (values : ∀ value other, first = .ok value → second = .ok other → value = other) : first = second := by
  cases second with
  | error failure => exact (failures failure).mpr rfl
  | ok other =>
      cases first with
      | error failure => cases (failures failure).mp rfl
      | ok value => rw [values value other rfl rfl]

theorem read_agree (a b : Memory) (mode : a.mode = b.mode) (start : UInt16) (count : Nat)
    (same : ∀ bytes, a.read start count = .ok bytes →
      ∀ j, j < count → a.cell (Cell.low (start.toNat + j)) = b.cell (Cell.low (start.toNat + j))) :
    a.read start count = b.read start count := by
  apply result_eq
  · intro failure
    rw [read_error_iff, read_error_iff, mode]
  · intro bytes others first second
    rw [read_ok a start count bytes first, read_ok b start count others second]
    apply List.map_congr_left
    intro j inside
    exact same bytes first j (List.mem_range.mp inside)

theorem fetch_agree (a b : Memory) (mode : a.mode = b.mode) (addr : UInt16)
    (same : ∀ word, a.fetch addr = .ok word →
      a.cell (Cell.low addr.toNat) = b.cell (Cell.low addr.toNat) ∧
        a.cell (Cell.low (addr.toNat + 1)) = b.cell (Cell.low (addr.toNat + 1))) :
    a.fetch addr = b.fetch addr := by
  apply result_eq
  · intro failure
    rw [fetch_error_iff, fetch_error_iff, mode]
  · intro word other first second
    obtain ⟨high, low⟩ := same word first
    apply UInt16.toNat_inj.mp
    rw [fetch_ok a addr word first, fetch_ok b addr other second, high, low]

theorem write_result_agree (a b : Memory) (mode : a.mode = b.mode) (start : UInt16) (data : List UInt8) :
    (a.write start data).2 = (b.write start data).2 := by
  rw [write_result, write_result, mode]

theorem load_result_agree (a b : Memory) (program : List UInt8) : (a.load program).2 = (b.load program).2 := by
  rw [load, load]
  split <;> rfl

theorem perform_result_agree (a b : Memory) (mode : a.mode = b.mode) (operation : Operation) :
    (a.perform operation).2 = (b.perform operation).2 := by
  cases operation with
  | load program => simp only [perform, performLoad, load_result_agree a b program]
  | loadFrom deliveries =>
      simp only [perform]
      cases image deliveries with
      | error failure => rfl
      | ok program => simp only [performLoad, load_result_agree a b program]
  | writeByte addr byte => simp only [perform, write_byte_result, mode]
  | write start data => simp only [perform, write_result_agree a b mode start data, mode]
  | reset => rfl

end Chip8.Memory
