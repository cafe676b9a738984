import Chip8.Proofs.Machine.CallStack
import Chip8.Proofs.Machine.StepsTaken
import Chip8.Proofs.Machine.Store

set_option autoImplicit false

namespace Chip8.Machine

def Fetchable (addr : UInt16) : Prop :=
  addr.toNat % 2 = 0 ∧ 0x200 ≤ addr.toNat ∧ addr.toNat ≤ 0xEFE

instance (addr : UInt16) : Decidable (Fetchable addr) := inferInstanceAs (Decidable (_ ∧ _))

def Returnable (addr : UInt16) : Prop :=
  addr.toNat % 2 = 0 ∧ 0x202 ≤ addr.toNat ∧ addr.toNat ≤ 0xF00

def fetchFailure (addr : UInt16) : Failure :=
  if 0x200 ≤ addr.toNat ∧ addr.toNat ≤ 0xEFE then .misalignedFetch addr else .outOfRange addr

theorem fetched_inside (m : Machine) (strict : m.memory.mode = .strict) (word : Word)
    (fetched : m.memory.fetch m.pc = .ok word) : Fetchable m.pc := by
  have accepted : ∀ failure, m.memory.fetch m.pc ≠ .error failure := by simp [fetched]
  have notOutside := mt (Memory.fetch_error_iff m.memory m.pc (.outOfRange m.pc)).mpr (accepted _)
  have notOdd := mt (Memory.fetch_error_iff m.memory m.pc (.misalignedFetch m.pc)).mpr (accepted _)
  simp only [strict, true_and, and_true, reduceCtorEq, and_false, or_false, false_or] at notOutside notOdd
  rw [Fetchable]
  omega

theorem unfetchable_refused (m : Machine) (strict : m.memory.mode = .strict) (unfetchable : ¬ Fetchable m.pc) :
    m.memory.fetch m.pc = .error (fetchFailure m.pc) := by
  rw [Memory.fetch_error_iff, fetchFailure]
  refine ⟨strict, ?_⟩
  rw [Fetchable] at unfetchable
  by_cases inside : 0x200 ≤ m.pc.toNat ∧ m.pc.toNat ≤ 0xEFE
  · rw [if_pos inside]
    exact .inr ⟨inside, by omega, rfl⟩
  · rw [if_neg inside]
    exact .inl ⟨by omega, rfl⟩

theorem returnable_behind (addr : UInt16) (fetchable : Fetchable addr) : Returnable (addr + 2) := by
  obtain ⟨even, above, below⟩ := fetchable
  have next : (addr + 2).toNat = addr.toNat + 2 := by
    rw [UInt16.toNat_add]
    exact Nat.mod_eq_of_lt (Nat.lt_of_le_of_lt (Nat.add_le_add_right below 2) (by decide))
  rw [Returnable, next]
  omega

structure Confined (m : Machine) : Prop where
  strict : m.memory.mode = .strict
  surroundings : m.memory.HoldsInitial fun c => ¬ Memory.InProgram c.val
  returns : ∀ addr ∈ m.stack, Returnable addr

theorem fresh_confined (random : RandomStream) : (fresh .strict random).Confined where
  strict := rfl
  surroundings := Memory.fresh_holds_initial _ .strict
  returns := fun _ member => absurd member List.not_mem_nil

theorem step_returns (m : Machine) (confined : m.Confined) : ∀ addr ∈ m.step.machine.stack, Returnable addr := by
  cases m.stack_way with
  | called word executed call room pushed =>
      have fetched := (fetched_word_iff m word).mp executed.1
      have behind := returnable_behind m.pc (fetched_inside m confined.strict word fetched)
      rw [pushed]
      exact List.forall_mem_cons.mpr ⟨behind, confined.returns⟩
  | returned executed popped =>
      have all := confined.returns
      rw [popped] at all
      exact (List.forall_mem_cons.mp all).2
  | still others same =>
      rw [same]
      exact confined.returns

theorem perform_confined (m : Machine) (operation : Operation) (confined : m.Confined) :
    (m.perform operation).machine.Confined where
  strict := (perform_mode m operation).trans confined.strict
  surroundings := by
    apply perform_holds_initial _ m operation _ confined.surroundings
    rw [confined.strict]
    exact Memory.surroundings_shielded
  returns := by
    cases operation with
    | step => exact step_returns m confined
    | reset => exact fun _ member => absurd member List.not_mem_nil
    | memory operation =>
        rw [perform, change_memory_machine]
        exact confined.returns
    | _ => exact confined.returns

theorem after_confined (m : Machine) (history : List Operation) (confined : m.Confined) :
    (m.after history).Confined :=
  after_keeps Confined history (fun machine operation _ => perform_confined machine operation) m confined

theorem taken_inside (m : Machine) (history : List Operation) (confined : m.Confined) (taken : StepTaken)
    (member : taken ∈ m.stepsTaken history) (word : Word) (fetched : taken.word = some word) :
    Fetchable taken.pc := by
  induction history generalizing m with
  | nil => exact absurd member List.not_mem_nil
  | cons operation rest ih =>
      rcases List.mem_append.mp member with here | later
      · obtain ⟨_, rfl⟩ := step_of_mem m operation taken here
        exact fetched_inside m confined.strict word ((fetched_word_iff m word).mp fetched)
      · exact ih _ (perform_confined m operation confined) later

theorem step_unfetchable (m : Machine) (strict : m.memory.mode = .strict) (unfetchable : ¬ Fetchable m.pc) :
    m.step.result = .error (.malformedProgram m.pc 0 (fetchFailure m.pc)) ∧ m.step.machine = m := by
  rw [step_unfetched m _ (unfetchable_refused m strict unfetchable)]
  exact ⟨rfl, rfl⟩

theorem perform_stays (m : Machine) (operation : Operation) (noReset : operation ≠ .reset)
    (strict : m.memory.mode = .strict) (unfetchable : ¬ Fetchable m.pc) :
    (m.perform operation).machine.pc = m.pc := by
  cases operation with
  | step => exact congrArg pc (step_unfetchable m strict unfetchable).2
  | reset => exact absurd rfl noReset
  | memory operation => rw [perform, change_memory_machine]
  | _ => rfl

theorem after_stays (m : Machine) (history : List Operation) (noReset : .reset ∉ history)
    (strict : m.memory.mode = .strict) (unfetchable : ¬ Fetchable m.pc) : (m.after history).pc = m.pc := by
  have kept := after_keeps (fun machine => machine.memory.mode = .strict ∧ machine.pc = m.pc) history
    (by
      intro machine operation member ⟨still, same⟩
      have other : operation ≠ .reset := fun reset => noReset (by rw [← reset]; exact member)
      exact ⟨(perform_mode machine operation).trans still,
        (perform_stays machine operation other still (by rw [same]; exact unfetchable)).trans same⟩)
    m ⟨strict, rfl⟩
  exact kept.2

theorem strict_mode_confines :
    (∀ (config : Config) (entropy : Random.Key) (history : List Operation), config.mode = .strict →
      (∀ c : Memory.Cell, c.val < 0x200 ∨ 0xF00 ≤ c.val →
        ((ofConfig config entropy).after history).memory.cell c = Memory.initialByte c) ∧
      (∀ taken ∈ (ofConfig config entropy).stepsTaken history, ∀ word, taken.word = some word → Fetchable taken.pc) ∧
      (∀ addr ∈ ((ofConfig config entropy).after history).stack, Returnable addr)) ∧
    (∀ m : Machine, m.memory.mode = .strict → ¬ Fetchable m.pc → ∀ history : List Operation, .reset ∉ history →
      (m.after history).step.result = .error (.malformedProgram m.pc 0 (fetchFailure m.pc)) ∧
      (m.after history).step.machine = m.after history) := by
  refine ⟨?_, ?_⟩
  · intro config entropy history strict
    have start : (ofConfig config entropy).Confined := by
      rw [ofConfig, strict]
      exact fresh_confined _
    have confined := after_confined _ history start
    refine ⟨?_, taken_inside _ history start, confined.returns⟩
    intro c outside
    apply confined.surroundings
    rw [Memory.InProgram, Memory.programStart, Memory.programEnd]
    omega
  · intro m strict unfetchable history noReset
    have still := (after_mode m history).trans strict
    have same := after_stays m history noReset strict unfetchable
    have stuck := step_unfetchable (m.after history) still (by rw [same]; exact unfetchable)
    rw [same] at stuck
    exact stuck

def astray : List Operation :=
  [.memory (.load [0x22, 0x04, 0x00, 0x00, 0x13, 0x01]), .step, .step]

theorem astray_stays_astray :
    ((ofConfig { mode := .strict } (Random.key 0)).after astray).memory.cell 0x50 = 0xF0 ∧ Fetchable 0x204 ∧ Returnable 0x202 ∧
      ¬ Fetchable 0x301 ∧
      (((ofConfig { mode := .strict } (Random.key 0)).after astray).after
          [.memory (.write 0x300 [0x12, 0x00, 0x12, 0x00]), .tick, .step]).step.result =
        .error (.malformedProgram 0x301 0 (.misalignedFetch 0x301)) := by
  obtain ⟨confines, final⟩ := strict_mode_confines
  obtain ⟨surroundings, fetches, returns⟩ := confines { mode := .strict } (Random.key 0) astray rfl
  have glyph := surroundings 0x50 (by decide)
  have jumped : ⟨0x204, some 0x1301, .ok ()⟩ ∈ (ofConfig { mode := .strict } (Random.key 0)).stepsTaken astray := by
    have both : (ofConfig { mode := .strict } (Random.key 0)).stepsTaken astray =
        [⟨0x200, some 0x2204, .ok ()⟩, ⟨0x204, some 0x1301, .ok ()⟩] := rfl
    simp [both]
  have stack : ((ofConfig { mode := .strict } (Random.key 0)).after astray).stack = [0x202] := rfl
  have counter : ((ofConfig { mode := .strict } (Random.key 0)).after astray).pc = 0x301 := rfl
  rw [stack] at returns
  have unfetchable : ¬ Fetchable 0x301 := by decide
  have stuck := final _ rfl (by rw [counter]; exact unfetchable)
    [.memory (.write 0x300 [0x12, 0x00, 0x12, 0x00]), .tick, .step] (by decide)
  exact ⟨glyph, fetches _ jumped 0x1301 rfl, returns 0x202 (by decide), unfetchable, stuck.1⟩

end Chip8.Machine
