import Chip8.Proofs.Memory.LastWrite

set_option autoImplicit false

namespace Chip8.Memory

def Delivery.Flows : Delivery → Prop
  | .bytes chunk => chunk ≠ []
  | .interrupted => True
  | .failed _ => False

def Delivery.chunk : Delivery → List UInt8
  | .bytes chunk => chunk
  | .interrupted | .failed _ => []

-- What a sequence of deliveries comes to: it ends, of itself or with an empty read, or a read fails before that.
inductive Delivers : List Delivery → Except IoError (List UInt8) → Prop where
  | exhausted (before : List Delivery) (flowing : ∀ delivery ∈ before, delivery.Flows) :
      Delivers before (.ok (before.flatMap Delivery.chunk))
  | ended (before after : List Delivery) (flowing : ∀ delivery ∈ before, delivery.Flows) :
      Delivers (before ++ .bytes [] :: after) (.ok (before.flatMap Delivery.chunk))
  | failed (before : List Delivery) (error : IoError) (after : List Delivery)
      (flowing : ∀ delivery ∈ before, delivery.Flows) : Delivers (before ++ .failed error :: after) (.error error)

theorem collect_flow (first : Delivery) (rest : List Delivery) (flows : first.Flows) :
    collect (first :: rest) = (collect rest).map (first.chunk ++ ·) := by
  cases first with
  | bytes chunk =>
      cases chunk with
      | nil => exact absurd rfl flows
      | cons byte others => rfl
  | interrupted =>
      change collect rest = _
      cases collect rest <;> rfl
  | failed error => exact absurd flows id

theorem collect_flowing (before rest : List Delivery) (flowing : ∀ delivery ∈ before, delivery.Flows) :
    collect (before ++ rest) = (collect rest).map (before.flatMap Delivery.chunk ++ ·) := by
  induction before with
  | nil =>
      change collect rest = _
      cases collect rest <;> rfl
  | cons first others ih =>
      obtain ⟨here, later⟩ := List.forall_mem_cons.mp flowing
      rw [List.cons_append, collect_flow first (others ++ rest) here, ih later]
      cases collect rest with
      | error error => rfl
      | ok program => simp [Except.map, List.append_assoc]

theorem collect_of_delivers (deliveries : List Delivery) (result : Except IoError (List UInt8))
    (delivers : Delivers deliveries result) : collect deliveries = result := by
  cases delivers with
  | exhausted before flowing =>
      have all := collect_flowing deliveries [] flowing
      rw [List.append_nil] at all
      rw [all]
      simp [collect, Except.map]
  | ended before after flowing =>
      rw [collect_flowing before _ flowing]
      simp [collect, Except.map]
  | failed before error after flowing =>
      rw [collect_flowing before _ flowing]
      rfl

theorem delivers_cons (first : Delivery) (rest : List Delivery) (result : Except IoError (List UInt8))
    (flows : first.Flows) (delivers : Delivers rest result) :
    Delivers (first :: rest) (result.map (first.chunk ++ ·)) := by
  cases delivers with
  | exhausted before flowing => exact .exhausted (first :: rest) (List.forall_mem_cons.mpr ⟨flows, flowing⟩)
  | ended before after flowing => exact .ended (first :: before) after (List.forall_mem_cons.mpr ⟨flows, flowing⟩)
  | failed before error after flowing =>
      exact .failed (first :: before) error after (List.forall_mem_cons.mpr ⟨flows, flowing⟩)

theorem delivers_collected (deliveries : List Delivery) : Delivers deliveries (collect deliveries) := by
  induction deliveries with
  | nil => exact .exhausted [] (fun _ member => absurd member List.not_mem_nil)
  | cons first rest ih =>
      by_cases flows : first.Flows
      · rw [collect_flow first rest flows]
        exact delivers_cons first rest _ flows ih
      · cases first with
        | bytes chunk =>
            obtain rfl : chunk = [] := Classical.not_not.mp flows
            exact .ended [] rest (fun _ member => absurd member List.not_mem_nil)
        | interrupted => exact absurd trivial flows
        | failed error => exact .failed [] error rest (fun _ member => absurd member List.not_mem_nil)

theorem load_ok_iff (m : Memory) (program : List UInt8) :
    (m.load program).2 = .ok () ↔ program.length ≤ 3328 := by
  have limit : programLimit = 3328 := rfl
  rw [load, limit]
  split <;> simp_all

theorem load_too_large (m : Memory) (program : List UInt8) (large : 3328 < program.length) :
    m.load program = (m, .error (.programTooLarge program.length 3328)) := by
  rw [load, if_neg]
  · rfl
  · exact Nat.not_le.mpr large

theorem load_cell (m : Memory) (program : List UInt8) (fits : program.length ≤ 3328) (c : Cell) :
    (m.load program).1.cell c =
      if 0x200 ≤ c.val ∧ c.val < 0xF00 then program.getD (c.val - 0x200) 0 else m.cell c := by
  have area : InProgram c.val ↔ 0x200 ≤ c.val ∧ c.val < 0xF00 := Iff.rfl
  rw [load_done m program c ((load_ok_iff m program).mpr fits), loaded]
  simp only [area]
  split <;> rfl

theorem load_from_delivered (m : Memory) (deliveries : List Delivery) (program : List UInt8)
    (delivers : Delivers deliveries (.ok program)) :
    m.loadFrom deliveries = m.load program ∧ m.perform (.loadFrom deliveries) = m.perform (.load program) := by
  have read : image deliveries = .ok program := by
    rw [image, collect_of_delivers deliveries _ delivers]
    rfl
  simp only [loadFrom, perform, read, and_self]

theorem load_from_failed (m : Memory) (deliveries : List Delivery) (error : IoError)
    (delivers : Delivers deliveries (.error error)) :
    m.loadFrom deliveries = (m, .error (.io error)) ∧
      m.perform (.loadFrom deliveries) = (m, .error (.io error)) := by
  have read : image deliveries = .error (.io error) := by
    rw [image, collect_of_delivers deliveries _ delivers]
    rfl
  simp only [loadFrom, perform, read, and_self]

theorem loading_counts_delivered_bytes (m : Memory) :
    (∀ deliveries program, Delivers deliveries (.ok program) →
      m.loadFrom deliveries = m.load program ∧ m.perform (.loadFrom deliveries) = m.perform (.load program)) ∧
    (∀ deliveries error, Delivers deliveries (.error error) →
      m.loadFrom deliveries = (m, .error (.io error)) ∧
      m.perform (.loadFrom deliveries) = (m, .error (.io error))) ∧
    (∀ deliveries, ∃ result, Delivers deliveries result) ∧
    (∀ program,
      ((m.load program).2 = .ok () ↔ program.length ≤ 3328) ∧
      (program.length ≤ 3328 → ∀ c : Cell, (m.load program).1.cell c =
        if 0x200 ≤ c.val ∧ c.val < 0xF00 then program.getD (c.val - 0x200) 0 else m.cell c) ∧
      (3328 < program.length → m.load program = (m, .error (.programTooLarge program.length 3328)))) := by
  refine ⟨load_from_delivered m, load_from_failed m, ?_, ?_⟩
  · exact fun deliveries => ⟨_, delivers_collected deliveries⟩
  · exact fun program => ⟨load_ok_iff m program, load_cell m program, load_too_large m program⟩

def lostImage : List Delivery :=
  [.bytes (List.replicate 4000 7), .interrupted, .failed (.told "gone"), .bytes []]

def piecedImage : List Delivery :=
  [.interrupted, .bytes [0x60], .bytes [5, 0x12], .interrupted, .bytes [0], .bytes [], .failed (.told "gone")]

theorem pieced_image_loads :
    Delivers lostImage (.error (.told "gone")) ∧
      (fresh .strict).loadFrom lostImage = (fresh .strict, .error (.io (.told "gone"))) ∧
      Delivers piecedImage (.ok [0x60, 5, 0x12, 0]) ∧
      ((fresh .strict).loadFrom piecedImage).1.cell 0x202 = 0x12 ∧
      (fresh .strict).load (List.replicate 4000 7) = (fresh .strict, .error (.programTooLarge 4000 3328)) := by
  obtain ⟨delivered, failed, _, loads⟩ := loading_counts_delivered_bytes (fresh .strict)
  have long : (List.replicate 4000 (7 : UInt8)).length = 4000 := List.length_replicate
  have many : List.replicate 4000 (7 : UInt8) ≠ [] := by
    rw [← List.length_pos_iff, long]
    decide
  have lost : Delivers lostImage (.error (.told "gone")) :=
    .failed [.bytes (List.replicate 4000 7), .interrupted] _ _
      (List.forall_mem_cons.mpr ⟨many, List.forall_mem_singleton.mpr trivial⟩)
  have pieced : Delivers piecedImage (.ok [0x60, 5, 0x12, 0]) :=
    .ended [.interrupted, .bytes [0x60], .bytes [5, 0x12], .interrupted, .bytes [0]] _ (by simp [Delivery.Flows])
  obtain ⟨_, cells, _⟩ := loads [0x60, 5, 0x12, 0]
  obtain ⟨_, _, large⟩ := loads (List.replicate 4000 7)
  rw [long] at large
  refine ⟨lost, (failed _ _ lost).1, pieced, ?_, large (by decide)⟩
  rw [(delivered _ _ pieced).1, cells (by decide)]
  decide +kernel

end Chip8.Memory
