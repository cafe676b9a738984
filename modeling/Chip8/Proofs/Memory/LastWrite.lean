import Mathlib.Data.List.Induction
import Chip8.Proofs.Memory.Lenient

set_option autoImplicit false

namespace Chip8.Memory

def after (m : Memory) (history : List Operation) : Memory :=
  history.foldl (fun memory operation => (memory.perform operation).1) m

def succeeded (m : Memory) : List Operation → List Operation
  | [] => []
  | operation :: rest =>
      match (m.perform operation).2 with
      | .ok _ => operation :: (m.perform operation).1.succeeded rest
      | .error _ => (m.perform operation).1.succeeded rest

-- The byte that a write leaves in a cell: of all the bytes whose address lands there the last one, glyphs apart.
def written (start : UInt16) (data : List UInt8) (c : Cell) : Option UInt8 :=
  if InGlyphs c.val then none
  else (data.zipIdx.reverse.find? fun entry => (start.toNat + entry.2) % 4096 == c.val).map Prod.fst

def loaded (program : List UInt8) (c : Cell) : Option UInt8 :=
  if InProgram c.val then some (program.getD (c.val - programStart) 0) else none

def Operation.covering (c : Cell) : Operation → Option UInt8
  | .load program => loaded program c
  | .loadFrom deliveries =>
      match collect deliveries with
      | .ok program => loaded program c
      | .error _ => none
  | .writeByte addr byte => written addr [byte] c
  | .write start data => written start data c
  | .reset => some (initialByte c)

def target (addr : UInt16) : Option Cell :=
  if InGlyphs (cellAt addr).val then none else some (cellAt addr)

theorem write_targets (m : Memory) (start : UInt16) (data : List UInt8) (targets : List (Option Cell))
    (permitted : (addresses start data.length).mapM m.mode.writeCell = .ok targets) :
    targets = (addresses start data.length).map target := by
  have lenient : (addresses start data.length).mapM Mode.lenient.writeCell = .ok targets :=
    map_m_weaken _ _ _ targets (Mode.write_cell_lenient m.mode) permitted
  have each := map_m_ok_of_forall Mode.lenient.writeCell target (addresses start data.length) fun _ _ => rfl
  exact Except.ok.inj (lenient.symm.trans each)

theorem addresses_succ (start : UInt16) (count : Nat) :
    addresses start (count + 1) = addresses start count ++ [start + UInt16.ofNat count] := by
  rw [addresses, addresses, List.range_succ, List.map_append]
  rfl

theorem cell_at_address (start : UInt16) (j : Nat) :
    (cellAt (start + UInt16.ofNat j)).val = (start.toNat + j) % 4096 := by
  rw [cell_at_val, UInt16.toNat_add, UInt16.toNat_ofNat']
  omega

theorem written_append (start : UInt16) (data : List UInt8) (byte : UInt8) (c : Cell) :
    written start (data ++ [byte]) c =
      if target (start + UInt16.ofNat data.length) = some c then some byte else written start data c := by
  have position := cell_at_address start data.length
  have numbered : (data ++ [byte]).zipIdx.reverse = (byte, data.length) :: data.zipIdx.reverse := by
    simp [List.zipIdx_append]
  by_cases hit : (start.toNat + data.length) % 4096 = c.val
  · have same : cellAt (start + UInt16.ofNat data.length) = c := Fin.ext (position.trans hit)
    rw [target, same]
    by_cases glyph : InGlyphs c.val
    · simp [written, glyph]
    · simp [written, glyph, numbered, hit]
  · have other : target (start + UInt16.ofNat data.length) ≠ some c := by
      intro same
      rw [target] at same
      split at same
      · cases same
      · rw [Option.some.inj same] at position
        exact hit position.symm
    rw [if_neg other, written, written, numbered, List.find?_cons_of_neg]
    simpa using hit

theorem cell_low_eq_iff (first second : Nat) : Cell.low first = Cell.low second ↔ first % 4096 = second % 4096 :=
  Fin.ext_iff

theorem written_at (start : UInt16) (data : List UInt8) (fits : data.length ≤ 4096) (j : Nat)
    (inside : j < data.length) (plain : ¬ InGlyphs (Cell.low (start.toNat + j)).val) :
    written start data (Cell.low (start.toNat + j)) = some data[j] := by
  induction data using List.reverseRecOn with
  | nil => exact absurd inside (Nat.not_lt_zero j)
  | append_singleton data byte ih =>
      rw [List.length_append, List.length_singleton] at fits inside
      have last : cellAt (start + UInt16.ofNat data.length) = Cell.low (start.toNat + data.length) :=
        Fin.ext (cell_at_address start data.length)
      rw [written_append, target, last]
      by_cases same : j = data.length
      · subst same
        rw [if_neg plain, if_pos rfl, List.getElem_concat_length rfl]
      · have earlier : j < data.length := by omega
        have apart : Cell.low (start.toNat + data.length) ≠ Cell.low (start.toNat + j) := by
          rw [Ne, cell_low_eq_iff]
          omega
        rw [if_neg (by simp [apart]), ih (by omega) earlier, List.getElem_append_left earlier]

theorem store_all_append (m : Memory) (first second : List (Option Cell × UInt8)) :
    m.storeAll (first ++ second) = (m.storeAll first).storeAll second :=
  List.foldl_append

theorem store_one_cell (m : Memory) (target : Option Cell) (byte : UInt8) (c : Cell) :
    (m.storeAll [(target, byte)]).cell c = if target = some c then byte else m.cell c := by
  cases target with
  | none => rfl
  | some cell =>
      change (m.setCell cell byte).cell c = _
      rw [cell_set_cell]
      simp only [Option.some.injEq]

theorem store_all_written (m : Memory) (start : UInt16) (data : List UInt8) (c : Cell) :
    (m.storeAll (((addresses start data.length).map target).zip data)).cell c =
      (written start data c).getD (m.cell c) := by
  induction data using List.reverseRecOn with
  | nil =>
      have nothing : written start [] c = none := by
        rw [written]
        split <;> rfl
      rw [nothing]
      rfl
  | append_singleton data byte ih =>
      have lengths : ((addresses start data.length).map target).length = data.length := by
        rw [List.length_map, length_addresses]
      rw [List.length_append, List.length_singleton, addresses_succ, List.map_append, List.zip_append lengths,
        store_all_append, List.map_singleton, List.zip_cons_cons, List.zip_nil_left, store_one_cell, written_append, ih]
      split <;> rfl

theorem write_done (m : Memory) (start : UInt16) (data : List UInt8) (c : Cell)
    (done : (m.write start data).2 = .ok ()) :
    (m.write start data).1.cell c = (written start data c).getD (m.cell c) := by
  revert done
  rw [write]
  cases permitted : (addresses start data.length).mapM m.mode.writeCell with
  | error failure => simp
  | ok targets =>
      intro _
      simp only [write_targets m start data targets permitted]
      exact store_all_written m start data c

theorem load_done (m : Memory) (program : List UInt8) (c : Cell) (done : (m.load program).2 = .ok ()) :
    (m.load program).1.cell c = (loaded program c).getD (m.cell c) := by
  revert done
  rw [load]
  split
  · intro _
    have inside : c.val % Cells.size 12 = c.val := Nat.mod_eq_of_lt c.isLt
    rw [cell, Cells.get_of_fn, inside, loaded, Cell.low_val]
    split
    · simp
    · rfl
  · simp

theorem load_refused (m : Memory) (program : List UInt8) (failure : Failure)
    (refused : (m.load program).2 = .error failure) : (m.load program).1 = m := by
  revert refused
  rw [load]
  split
  · simp
  · exact fun _ => rfl

theorem perform_load_done (m : Memory) (program : List UInt8) (c : Cell) (notices : List Notice)
    (done : (m.performLoad program).2 = .ok notices) :
    (m.performLoad program).1.cell c = (loaded program c).getD (m.cell c) := by
  obtain ⟨_, accepted⟩ := (map_accepted_iff _ (m.load program).2).mp ⟨notices, done⟩
  exact load_done m program c accepted

theorem perform_write_done (m : Memory) (start : UInt16) (data : List UInt8) (c : Cell) (notices : List Notice)
    (done : (m.perform (.write start data)).2 = .ok notices) :
    (m.perform (.write start data)).1.cell c = (written start data c).getD (m.cell c) := by
  obtain ⟨_, accepted⟩ := (map_accepted_iff _ (m.write start data).2).mp ⟨notices, done⟩
  exact write_done m start data c accepted

theorem perform_done (m : Memory) (operation : Operation) (c : Cell) (notices : List Notice)
    (done : (m.perform operation).2 = .ok notices) :
    (m.perform operation).1.cell c = (operation.covering c).getD (m.cell c) := by
  cases operation with
  | load program => exact perform_load_done m program c notices done
  | loadFrom deliveries =>
      revert done
      simp only [perform, image, Operation.covering]
      cases collect deliveries with
      | error error => simp [Except.mapError]
      | ok program => exact perform_load_done m program c notices
  | writeByte addr byte =>
      rw [perform_write_byte] at done ⊢
      exact perform_write_done m addr [byte] c notices done
  | write start data => exact perform_write_done m start data c notices done
  | reset => exact cell_reset m c

theorem perform_load_refused (m : Memory) (program : List UInt8) (failure : Failure)
    (refused : (m.performLoad program).2 = .error failure) : (m.performLoad program).1 = m :=
  load_refused m program failure ((map_error_iff _ (m.load program).2 failure).mp refused)

theorem perform_write_refused (m : Memory) (start : UInt16) (data : List UInt8) (failure : Failure)
    (refused : (m.perform (.write start data)).2 = .error failure) : (m.perform (.write start data)).1 = m :=
  write_refused m start data failure ((map_error_iff _ (m.write start data).2 failure).mp refused)

theorem perform_refused (m : Memory) (operation : Operation) (failure : Failure)
    (refused : (m.perform operation).2 = .error failure) : (m.perform operation).1 = m := by
  cases operation with
  | load program => exact perform_load_refused m program failure refused
  | loadFrom deliveries =>
      revert refused
      simp only [perform]
      cases image deliveries with
      | error other => exact fun _ => rfl
      | ok program => exact perform_load_refused m program failure
  | writeByte addr byte =>
      rw [perform_write_byte] at refused ⊢
      exact perform_write_refused m addr [byte] failure refused
  | write start data => exact perform_write_refused m start data failure refused
  | reset => cases refused

theorem after_cell (m : Memory) (history : List Operation) (c : Cell) :
    (m.after history).cell c = ((m.succeeded history).reverse.findSome? (Operation.covering c)).getD (m.cell c) := by
  induction history generalizing m with
  | nil => rfl
  | cons operation rest ih =>
      have next : m.after (operation :: rest) = (m.perform operation).1.after rest := rfl
      rw [next, ih, succeeded]
      cases result : (m.perform operation).2 with
      | error failure => rw [perform_refused m operation failure result]
      | ok notices =>
          rw [perform_done m operation c notices result, List.reverse_cons, List.findSome?_append,
            List.findSome?_singleton, Option.getD_or]

theorem read_byte_ok (m : Memory) (addr : UInt16) (byte : UInt8) (taken : m.readByte addr = .ok byte) :
    byte = m.cell (Cell.low addr.toNat) :=
  (Except.ok.inj (read_byte_lenient m addr byte taken)).symm

theorem low_to_nat_add (start : UInt16) (j : Nat) : cellAt (start + UInt16.ofNat j) = Cell.low (start.toNat + j) :=
  Fin.ext (cell_at_address start j)

theorem read_ok (m : Memory) (start : UInt16) (count : Nat) (bytes : List UInt8)
    (taken : m.read start count = .ok bytes) :
    bytes = (List.range count).map fun j => m.cell (Cell.low (start.toNat + j)) := by
  have all := map_m_ok_of_forall m.lenient.readByte (fun addr => m.cell (cellAt addr)) (addresses start count)
    fun _ _ => rfl
  have same := Except.ok.inj ((read_lenient m start count bytes taken).symm.trans all)
  rw [same, addresses, List.map_map]
  apply List.map_congr_left
  intro j _
  exact congrArg m.cell (low_to_nat_add start j)

theorem fetch_ok (m : Memory) (addr word : UInt16) (fetched : m.fetch addr = .ok word) :
    word.toNat = (m.cell (Cell.low addr.toNat)).toNat * 256 + (m.cell (Cell.low (addr.toNat + 1))).toNat := by
  have same := Except.ok.inj (fetch_lenient m addr word fetched)
  have high := (m.cell (Cell.low addr.toNat)).toNat_lt
  have low := (m.cell (Cell.low (addr.toNat + 1))).toNat_lt
  rw [← low_to_nat_add addr 1] at low ⊢
  rw [← same, UInt16.toNat_ofNat']
  change ((m.cell (Cell.low addr.toNat)).toNat * 256 + (m.cell (cellAt (addr + UInt16.ofNat 1))).toNat) % 65536 = _
  exact Nat.mod_eq_of_lt (by omega)

theorem last_write_wins (mode : Mode) (history : List Operation) :
    (∀ c : Cell, ((fresh mode).after history).cell c =
      (((fresh mode).succeeded history).reverse.findSome? (Operation.covering c)).getD (initialByte c)) ∧
    (∀ addr byte, ((fresh mode).after history).readByte addr = .ok byte →
      byte = ((fresh mode).after history).cell (Cell.low addr.toNat)) ∧
    (∀ start count bytes, ((fresh mode).after history).read start count = .ok bytes →
      bytes = (List.range count).map fun j => ((fresh mode).after history).cell (Cell.low (start.toNat + j))) ∧
    (∀ addr word, ((fresh mode).after history).fetch addr = .ok word →
      word.toNat = (((fresh mode).after history).cell (Cell.low addr.toNat)).toNat * 256 +
        (((fresh mode).after history).cell (Cell.low (addr.toNat + 1))).toNat) := by
  refine ⟨?_, read_byte_ok _, read_ok _, fetch_ok _⟩
  intro c
  rw [after_cell, cell_fresh]

def reloaded : List Operation :=
  [.load [1, 2, 3, 4], .write 0xFFFF [5, 6], .load [0x12], .loadFrom [.bytes [9], .failed (.told "gone")],
    .write 0x1201 [0x77]]

theorem reloaded_cells :
    ((fresh .lenient).after reloaded).cell 0 = 6 ∧ ((fresh .lenient).after reloaded).cell 0x203 = 0 ∧
      ((fresh .lenient).after reloaded).fetch 0x5200 = .ok 0x1277 ∧
      (0x1277 : UInt16).toNat = (((fresh .lenient).after reloaded).cell 0x200).toNat * 256 +
        (((fresh .lenient).after reloaded).cell 0x201).toNat := by
  obtain ⟨cells, _, _, fetches⟩ := last_write_wins .lenient reloaded
  have first : ((fresh .lenient).succeeded reloaded).reverse.findSome? (Operation.covering 0) = some 6 := by
    decide +kernel
  have fourth : ((fresh .lenient).succeeded reloaded).reverse.findSome? (Operation.covering 0x203) = some 0 := by
    decide +kernel
  have fetched : ((fresh .lenient).after reloaded).fetch 0x5200 = .ok 0x1277 := rfl
  refine ⟨?_, ?_, fetched, fetches 0x5200 0x1277 fetched⟩
  · rw [cells, first, Option.getD_some]
  · rw [cells, fourth, Option.getD_some]

end Chip8.Memory
