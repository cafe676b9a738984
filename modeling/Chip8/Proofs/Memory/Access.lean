import Chip8.Memory.Access

set_option autoImplicit false

namespace Chip8

theorem map_error_iff {α β ε : Type} (f : α → β) (result : Except ε α) (failure : ε) :
    result.map f = .error failure ↔ result = .error failure := by
  cases result <;> simp [Except.map]

theorem map_accepted_iff {α β ε : Type} (f : α → β) (result : Except ε α) :
    (∃ value, result.map f = .ok value) ↔ ∃ value, result = .ok value := by
  cases result <;> simp [Except.map]

theorem map_forgotten {α ε : Type} (result : Except ε Unit) (value : α) :
    (result.map fun _ => value).map (fun _ => ()) = result := by
  cases result <;> rfl

theorem map_m_cons_error_iff {α β ε : Type} (f : α → Except ε β) (item : α) (rest : List α) (failure : ε) :
    (item :: rest).mapM f = .error failure ↔
      f item = .error failure ∨ (∃ value, f item = .ok value) ∧ rest.mapM f = .error failure := by
  rw [List.mapM_cons]
  cases f item with
  | error refused => simp [bind, Except.bind]
  | ok value => cases rest.mapM f <;> simp [bind, Except.bind, pure, Except.pure]

theorem map_m_cons_ok_iff {α β ε : Type} (f : α → Except ε β) (item : α) (rest : List α) (values : List β) :
    (item :: rest).mapM f = .ok values ↔
      ∃ value, f item = .ok value ∧ ∃ others, rest.mapM f = .ok others ∧ values = value :: others := by
  rw [List.mapM_cons]
  cases f item with
  | error refused => simp [bind, Except.bind]
  | ok value => cases rest.mapM f <;> simp [bind, Except.bind, pure, Except.pure, eq_comm]

theorem map_m_ok_iff {α β ε : Type} (f : α → Except ε β) (items : List α) (values : List β) :
    items.mapM f = .ok values ↔ items.map f = values.map Except.ok := by
  induction items generalizing values with
  | nil => cases values <;> simp [pure, Except.pure]
  | cons item rest ih =>
      rw [map_m_cons_ok_iff]
      cases values with
      | nil => simp
      | cons value others => simp [ih]

theorem map_m_error_iff {α β ε : Type} (f : α → Except ε β) (items : List α) (failure : ε) :
    items.mapM f = .error failure ↔
      ∃ j, ∃ inside : j < items.length, f items[j] = .error failure ∧
        ∀ i, ∀ earlier : i < j, ∃ value, f items[i] = .ok value := by
  induction items with
  | nil => simp [pure, Except.pure]
  | cons item rest ih =>
      rw [map_m_cons_error_iff, ih]
      constructor
      · rintro (refused | ⟨accepted, j, inside, refused, before⟩)
        · exact ⟨0, Nat.zero_lt_succ _, refused, fun i earlier => absurd earlier (Nat.not_lt_zero i)⟩
        · refine ⟨j + 1, Nat.succ_lt_succ inside, refused, ?_⟩
          intro i earlier
          cases i with
          | zero => exact accepted
          | succ i => exact before i (Nat.lt_of_succ_lt_succ earlier)
      · rintro ⟨j, inside, refused, before⟩
        cases j with
        | zero => exact .inl refused
        | succ j =>
            refine .inr ⟨before 0 (Nat.zero_lt_succ j), j, Nat.lt_of_succ_lt_succ inside, refused, ?_⟩
            intro i earlier
            exact before (i + 1) (Nat.succ_lt_succ earlier)

theorem map_m_ok_of_forall {α β ε : Type} (f : α → Except ε β) (g : α → β) (items : List α)
    (permitted : ∀ item ∈ items, f item = .ok (g item)) : items.mapM f = .ok (items.map g) := by
  induction items with
  | nil => rfl
  | cons item rest ih =>
      have remaining := ih fun other member => permitted other (List.mem_cons_of_mem item member)
      exact (map_m_cons_ok_iff f item rest _).mpr
        ⟨g item, permitted item List.mem_cons_self, rest.map g, remaining, rfl⟩

theorem map_m_ok_value {α β ε : Type} (f : α → Except ε β) (items : List α) (values : List β)
    (permitted : items.mapM f = .ok values) (value : β) (member : value ∈ values) :
    ∃ item ∈ items, f item = .ok value := by
  induction items generalizing values with
  | nil =>
      cases permitted
      cases member
  | cons first rest ih =>
      obtain ⟨found, here, others, remaining, rfl⟩ := (map_m_cons_ok_iff f first rest values).mp permitted
      rcases List.mem_cons.mp member with same | later
      · exact ⟨first, List.mem_cons_self, by rw [same]; exact here⟩
      · obtain ⟨item, inside, accepted⟩ := ih others remaining later
        exact ⟨item, List.mem_cons_of_mem first inside, accepted⟩

namespace Memory

def Readable (n : Nat) : Prop :=
  0x50 ≤ n ∧ n < 0xA0 ∨ 0x200 ≤ n ∧ n < 0xF00

def Writable (n : Nat) : Prop :=
  0x200 ≤ n ∧ n < 0xF00

theorem readable_iff (n : Nat) : Readable n ↔ InGlyphs n ∨ InProgram n := Iff.rfl

theorem writable_iff (n : Nat) : Writable n ↔ InProgram n := Iff.rfl

def FirstOutside (area : Nat → Prop) (start : UInt16) (count : Nat) (addr : UInt16) : Prop :=
  ∃ j, j < count ∧ addr.toNat = (start.toNat + j) % 65536 ∧ ¬ area addr.toNat ∧
    ∀ i, i < j → area ((start.toNat + i) % 65536)

theorem address_to_nat (start : UInt16) (j : Nat) : (start + UInt16.ofNat j).toNat = (start.toNat + j) % 65536 := by
  rw [UInt16.toNat_add, UInt16.toNat_ofNat']
  omega

theorem first_outside_zero (area : Nat → Prop) (start addr : UInt16) : ¬ FirstOutside area start 0 addr := by
  rintro ⟨j, inside, _⟩
  exact Nat.not_lt_zero j inside

def RefusesOutside {α : Type} (mode : Mode) (area : Nat → Prop) (access : UInt16 → Except Failure α) : Prop :=
  ∀ addr failure, access addr = .error failure ↔
    mode = .strict ∧ ¬ area addr.toNat ∧ failure = .outOfRange addr

theorem read_cell_refuses (mode : Mode) : RefusesOutside mode Readable mode.readCell := by
  intro addr failure
  cases mode with
  | lenient => simp [Mode.readCell]
  | strict =>
      rw [readable_iff]
      by_cases inside : InGlyphs addr.toNat ∨ InProgram addr.toNat <;> simp [Mode.readCell, inside, eq_comm]

theorem write_cell_refuses (mode : Mode) : RefusesOutside mode Writable mode.writeCell := by
  intro addr failure
  cases mode with
  | lenient => simp [Mode.writeCell]
  | strict =>
      rw [writable_iff]
      by_cases inside : InProgram addr.toNat <;> simp [Mode.writeCell, inside, eq_comm]

theorem read_byte_refuses (m : Memory) : RefusesOutside m.mode Readable m.readByte := by
  intro addr failure
  rw [← read_cell_refuses m.mode addr failure, readByte]
  cases m.mode.readCell addr <;> simp [Except.map]

theorem run_refused_iff {α : Type} (mode : Mode) (area : Nat → Prop) (access : UInt16 → Except Failure α)
    (refuses : RefusesOutside mode area access) (start : UInt16) (count : Nat) (failure : Failure) :
    (addresses start count).mapM access = .error failure ↔
      mode = .strict ∧ ∃ addr, FirstOutside area start count addr ∧ failure = .outOfRange addr := by
  have accepts : ∀ addr, (∃ value, access addr = .ok value) ↔ ¬ (mode = .strict ∧ ¬ area addr.toNat) := by
    intro addr
    cases result : access addr with
    | error refused =>
        have reason := (refuses addr refused).mp result
        simp [reason]
    | ok value =>
        have unrefused := mt (refuses addr (.outOfRange addr)).mpr (by simp [result])
        simpa using unrefused
  rw [map_m_error_iff]
  simp only [addresses, List.length_map, List.length_range, List.getElem_map, List.getElem_range,
    refuses _ failure, accepts, address_to_nat]
  constructor
  · rintro ⟨j, inside, ⟨strict, outside, rfl⟩, before⟩
    refine ⟨strict, _, ⟨j, inside, address_to_nat start j, by rwa [address_to_nat], ?_⟩, rfl⟩
    intro i earlier
    have permitted := before i earlier
    simpa [strict] using permitted
  · rintro ⟨strict, addr, ⟨j, inside, position, outside, before⟩, rfl⟩
    have same : addr = start + UInt16.ofNat j := by
      apply UInt16.toNat_inj.mp
      rw [position, address_to_nat]
    refine ⟨j, inside, ⟨strict, by rwa [← position], by rw [same]⟩, ?_⟩
    intro i earlier
    simp [before i earlier]

theorem read_error_iff (m : Memory) (start : UInt16) (count : Nat) (failure : Failure) :
    m.read start count = .error failure ↔
      m.mode = .strict ∧ ∃ addr, FirstOutside Readable start count addr ∧ failure = .outOfRange addr :=
  run_refused_iff m.mode Readable m.readByte (read_byte_refuses m) start count failure

theorem write_byte_eq (m : Memory) (addr : UInt16) (byte : UInt8) : m.writeByte addr byte = m.write addr [byte] := by
  have only : addresses addr [byte].length = [addr] := by simp [addresses]
  rw [writeByte, write, only, List.mapM_cons, List.mapM_nil]
  cases m.mode.writeCell addr <;> rfl

theorem write_error_iff (m : Memory) (start : UInt16) (data : List UInt8) (failure : Failure) :
    (m.write start data).2 = .error failure ↔
      m.mode = .strict ∧ ∃ addr, FirstOutside Writable start data.length addr ∧ failure = .outOfRange addr := by
  rw [← run_refused_iff m.mode Writable m.mode.writeCell (write_cell_refuses m.mode) start data.length failure,
    write]
  cases (addresses start data.length).mapM m.mode.writeCell <;> simp

theorem write_refused (m : Memory) (start : UInt16) (data : List UInt8) (failure : Failure)
    (refused : (m.write start data).2 = .error failure) : (m.write start data).1 = m := by
  revert refused
  rw [write]
  cases (addresses start data.length).mapM m.mode.writeCell <;> simp

theorem fetch_error_iff (m : Memory) (addr : UInt16) (failure : Failure) :
    m.fetch addr = .error failure ↔ m.mode = .strict ∧
      ((addr.toNat < 0x200 ∨ 0xEFF ≤ addr.toNat) ∧ failure = .outOfRange addr ∨
        (0x200 ≤ addr.toNat ∧ addr.toNat ≤ 0xEFE) ∧ addr.toNat % 2 = 1 ∧ failure = .misalignedFetch addr) := by
  rw [fetch]
  cases m.mode with
  | lenient => simp [Mode.fetchCells, Except.map]
  | strict =>
      simp only [Mode.fetchCells, programStart, programEnd]
      by_cases outside : addr.toNat < 0x200 ∨ 0xEFF ≤ addr.toNat
      · have apart : ¬ (0x200 ≤ addr.toNat ∧ addr.toNat ≤ 0xEFE) := by omega
        simp [outside, apart, Except.map, eq_comm]
      · have within : 0x200 ≤ addr.toNat ∧ addr.toNat ≤ 0xEFE := by omega
        by_cases even : addr.toNat % 2 = 0
        · simp [outside, even, Except.map]
        · have odd : addr.toNat % 2 = 1 := by omega
          simp [outside, within, odd, Except.map, eq_comm]

end Memory

end Chip8
