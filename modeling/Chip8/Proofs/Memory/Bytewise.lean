import Chip8.Proofs.Memory.LastWrite
import Chip8.Proofs.Memory.Shielded

set_option autoImplicit false

namespace Chip8.Memory

def FirstRefusal {α : Type} {count : Nat} (access : Fin count → Except Failure α) (failure : Failure) : Prop :=
  ∃ j, access j = .error failure ∧ ∀ i, i < j → ∃ value, access i = .ok value

def writeEach (m : Memory) (start : UInt16) (data : List UInt8) : Memory :=
  data.zipIdx.foldl (fun memory entry => (memory.writeByte (start + UInt16.ofNat entry.2) entry.1).1) m

theorem first_refusal_map {α β : Type} {count : Nat} (f : α → β) (access : Fin count → Except Failure α)
    (failure : Failure) : FirstRefusal (fun j => (access j).map f) failure ↔ FirstRefusal access failure := by
  simp only [FirstRefusal, map_error_iff, map_accepted_iff]

theorem run_first_refusal {α : Type} (access : UInt16 → Except Failure α) (start : UInt16) (count : Nat)
    (failure : Failure) :
    (addresses start count).mapM access = .error failure ↔
      FirstRefusal (fun j : Fin count => access (start + UInt16.ofNat j.val)) failure := by
  rw [map_m_error_iff]
  simp only [addresses, List.length_map, List.length_range, List.getElem_map, List.getElem_range]
  constructor
  · rintro ⟨j, inside, refused, before⟩
    exact ⟨⟨j, inside⟩, refused, fun i earlier => before i.val earlier⟩
  · rintro ⟨j, refused, before⟩
    exact ⟨j.val, j.isLt, refused, fun i earlier => before ⟨i, Nat.lt_trans earlier j.isLt⟩ earlier⟩

theorem run_permitted_iff {α : Type} (access : UInt16 → Except Failure α) (start : UInt16) (count : Nat) :
    (∃ values, (addresses start count).mapM access = .ok values) ↔
      ∀ j : Fin count, ∃ value, access (start + UInt16.ofNat j.val) = .ok value := by
  constructor
  · rintro ⟨values, permitted⟩ j
    exact map_m_ok_mem access _ values permitted _ (List.mem_map.mpr ⟨j.val, List.mem_range.mpr j.isLt, rfl⟩)
  · intro each
    cases result : (addresses start count).mapM access with
    | ok values => exact ⟨values, rfl⟩
    | error failure =>
        obtain ⟨j, refused, _⟩ := (run_first_refusal access start count failure).mp result
        obtain ⟨value, accepted⟩ := each j
        cases refused.symm.trans accepted

-- Whether a byte may be written hangs on its address alone, not on the byte and not on what the cells hold.
theorem write_byte_result (m : Memory) (addr : UInt16) (byte : UInt8) :
    (m.writeByte addr byte).2 = (m.mode.writeCell addr).map fun _ => () := by
  rw [writeByte]
  cases m.mode.writeCell addr <;> rfl

theorem write_result (m : Memory) (start : UInt16) (data : List UInt8) :
    (m.write start data).2 = ((addresses start data.length).mapM m.mode.writeCell).map fun _ => () := by
  rw [write]
  cases (addresses start data.length).mapM m.mode.writeCell <;> rfl

theorem unit_accepted_iff (result : Except Failure Unit) : result = .ok () ↔ ∃ value, result = .ok value :=
  ⟨fun accepted => ⟨(), accepted⟩, fun ⟨_, accepted⟩ => accepted⟩

theorem write_byte_ok_iff (m : Memory) (addr : UInt16) (byte : UInt8) :
    (m.writeByte addr byte).2 = .ok () ↔ ∃ target, m.mode.writeCell addr = .ok target := by
  rw [write_byte_result, unit_accepted_iff, map_accepted_iff]

theorem write_ok_iff (m : Memory) (start : UInt16) (data : List UInt8) :
    (m.write start data).2 = .ok () ↔
      ∀ j : Fin data.length, (m.writeByte (start + UInt16.ofNat j.val) (data.get j)).2 = .ok () := by
  rw [write_result, unit_accepted_iff, map_accepted_iff, run_permitted_iff]
  simp only [write_byte_ok_iff]

theorem strict_write_inside (m : Memory) (strict : m.mode = .strict) (start : UInt16) (data : List UInt8)
    (done : (m.write start data).2 = .ok ()) (j : Nat) (inside : j < data.length) :
    Writable ((start.toNat + j) % 65536) := by
  obtain ⟨target, accepted⟩ := (write_byte_ok_iff m _ _).mp ((write_ok_iff m start data).mp done ⟨j, inside⟩)
  rw [← address_to_nat]
  by_contra outside
  have refused := (write_cell_refuses m.mode (start + UInt16.ofNat j) _).mpr ⟨strict, outside, rfl⟩
  cases refused.symm.trans accepted

theorem write_first_refusal (m : Memory) (start : UInt16) (data : List UInt8) (failure : Failure) :
    (m.write start data).2 = .error failure ↔
      FirstRefusal (fun j : Fin data.length => (m.writeByte (start + UInt16.ofNat j.val) (data.get j)).2) failure := by
  simp only [write_byte_result]
  rw [first_refusal_map, write_result, map_error_iff, run_first_refusal]

theorem write_byte_permitted (m : Memory) (addr : UInt16) (byte : UInt8) (cell : Option Cell)
    (permitted : m.mode.writeCell addr = .ok cell) :
    (m.writeByte addr byte).1 = m.storeAll [(target addr, byte)] := by
  have lenient := Mode.write_cell_lenient m.mode addr cell permitted
  have same : target addr = cell := Except.ok.inj lenient
  rw [writeByte, permitted, same]

-- By induction on the last byte: it is written when all the others are in memory already.
theorem write_each_stores (m : Memory) (start : UInt16) (data : List UInt8)
    (permitted : ∀ addr ∈ addresses start data.length, ∃ cell, m.mode.writeCell addr = .ok cell) :
    m.writeEach start data = m.storeAll (((addresses start data.length).map target).zip data) := by
  induction data using List.reverseRecOn with
  | nil => rfl
  | append_singleton data byte ih =>
      have lengths : ((addresses start data.length).map target).length = data.length := by
        rw [List.length_map, length_addresses]
      rw [List.length_append, List.length_singleton, addresses_succ] at permitted ⊢
      have before := ih fun addr member => permitted addr (List.mem_append_left _ member)
      obtain ⟨cell, accepted⟩ := permitted (start + UInt16.ofNat data.length) (by simp)
      have last : m.writeEach start (data ++ [byte]) =
          ((m.writeEach start data).writeByte (start + UInt16.ofNat data.length) byte).1 := by
        simp [writeEach, List.zipIdx_append]
      have mode : (m.writeEach start data).mode = m.mode := by
        rw [before]
        exact store_all_mode m _
      rw [← mode] at accepted
      rw [last, write_byte_permitted _ _ byte cell accepted, before, List.map_append, List.zip_append lengths,
        store_all_append, List.map_singleton, List.zip_cons_cons, List.zip_nil_left]

theorem write_each_eq (m : Memory) (start : UInt16) (data : List UInt8) (done : (m.write start data).2 = .ok ()) :
    (m.write start data).1 = m.writeEach start data := by
  revert done
  rw [write]
  cases permitted : (addresses start data.length).mapM m.mode.writeCell with
  | error failure => simp
  | ok targets =>
      intro _
      rw [write_each_stores m start data (map_m_ok_mem _ _ targets permitted)]
      simp only [write_targets m start data targets permitted]

theorem read_ok_iff (m : Memory) (start : UInt16) (count : Nat) (bytes : List UInt8) :
    m.read start count = .ok bytes ↔
      (List.range count).map (fun j => m.readByte (start + UInt16.ofNat j)) = bytes.map Except.ok := by
  rw [read, map_m_ok_iff, addresses, List.map_map]
  rfl

theorem runs_agree_with_bytes (m : Memory) (start : UInt16) :
    (∀ data : List UInt8,
      ((m.write start data).2 = .ok () ↔
        ∀ j : Fin data.length, (m.writeByte (start + UInt16.ofNat j.val) (data.get j)).2 = .ok ()) ∧
      ((m.write start data).2 = .ok () → (m.write start data).1 = m.writeEach start data) ∧
      (∀ failure, (m.write start data).2 = .error failure ↔
        FirstRefusal (fun j : Fin data.length => (m.writeByte (start + UInt16.ofNat j.val) (data.get j)).2) failure) ∧
      (∀ failure, (m.write start data).2 = .error failure → (m.write start data).1 = m)) ∧
    (∀ count : Nat,
      (∀ bytes, m.read start count = .ok bytes ↔
        (List.range count).map (fun j => m.readByte (start + UInt16.ofNat j)) = bytes.map Except.ok) ∧
      (∀ failure, m.read start count = .error failure ↔
        FirstRefusal (fun j : Fin count => m.readByte (start + UInt16.ofNat j.val)) failure)) := by
  refine ⟨?_, ?_⟩
  · intro data
    exact ⟨write_ok_iff m start data, write_each_eq m start data, write_first_refusal m start data,
      write_refused m start data⟩
  · intro count
    exact ⟨read_ok_iff m start count, run_first_refusal m.readByte start count⟩

theorem edge_runs_agree :
    ((fresh .lenient).write 0xFFFF [5, 6, 7]).1 = (fresh .lenient).writeEach 0xFFFF [5, 6, 7] ∧
      ((fresh .lenient).writeEach 0xFFFF [5, 6, 7]).cell 1 = 7 ∧
      ((fresh .strict).write 0xEFE [5, 6, 7]).2 = .error (.outOfRange 0xF00) ∧
      ((fresh .strict).write 0xEFE [5, 6, 7]).1 = fresh .strict := by
  obtain ⟨wrapped, _⟩ := runs_agree_with_bytes (fresh .lenient) 0xFFFF
  obtain ⟨_, same, _, _⟩ := wrapped [5, 6, 7]
  obtain ⟨refused, _⟩ := runs_agree_with_bytes (fresh .strict) 0xEFE
  obtain ⟨_, _, first, unchanged⟩ := refused [5, 6, 7]
  have third : ((fresh .strict).write 0xEFE [5, 6, 7]).2 = .error (.outOfRange 0xF00) := by
    have permitted : ∀ i : Fin 3, i < 2 →
        ((fresh .strict).writeByte (0xEFE + UInt16.ofNat i.val) ([5, 6, 7].get i)).2 = .ok () := by
      decide +kernel
    exact (first _).mpr ⟨2, rfl, fun i earlier => ⟨(), permitted i earlier⟩⟩
  exact ⟨same rfl, by decide +kernel, third, unchanged _ third⟩

end Chip8.Memory
