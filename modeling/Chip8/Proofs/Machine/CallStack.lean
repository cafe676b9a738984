import Mathlib.Data.List.Infix
import Chip8.Proofs.Machine.Footprint

set_option autoImplicit false

namespace Chip8.Machine

def Executes (m : Machine) (word : Word) : Prop :=
  m.fetchedWord = some word ∧ m.step.result = .ok ()

theorem executes_unique (m : Machine) (word other : Word) (executed : m.Executes word)
    (again : m.Executes other) : word = other :=
  Option.some.inj (executed.1.symm.trans again.1)

theorem execute_call (m after : Machine) (instruction : Instruction) (call : instruction.IsCall)
    (executed : execute m instruction = (after, .ok ())) :
    m.stack.length < stackDepth ∧ after.stack = m.pc :: m.stack := by
  obtain ⟨nnn, rfl⟩ := call
  revert executed
  by_cases room : m.stack.length < stackDepth
  · simp only [execute, if_pos room, done]
    intro executed
    cases executed
    exact ⟨room, rfl⟩
  · simp [execute, if_neg room]

theorem execute_return (m after : Machine) (executed : execute m .ret = (after, .ok ())) :
    m.stack = after.pc :: after.stack := by
  revert executed
  cases stack : m.stack with
  | nil => simp [execute, stack]
  | cons newest older =>
      simp only [execute, stack, done]
      intro executed
      cases executed
      rfl

theorem execute_keeps_stack (m : Machine) (instruction : Instruction) (noCall : ¬ instruction.IsCall)
    (noReturn : instruction ≠ .ret) : (execute m instruction).1.stack = m.stack := by
  have outside : ¬ instruction.Footprint m.index .stack := by
    cases instruction with
    | ret => exact absurd rfl noReturn
    | call nnn => exact absurd ⟨nnn, rfl⟩ noCall
    | _ => simp [Instruction.Footprint]
  exact Eq.symm (execute_frame m instruction .stack outside)

-- What a step does to the stack. A step that faults is one that leaves it alone.
inductive StackWay (m : Machine) : Prop where
  | called (word : Word) (executed : m.Executes word) (call : word.toNat / 4096 = 2) (room : m.stack.length < 16)
      (pushed : m.step.machine.stack = (m.pc + 2) :: m.stack)
  | returned (executed : m.Executes 0x00EE) (popped : m.stack = m.step.machine.pc :: m.step.machine.stack)
  | still (others : ∀ word, m.Executes word → word.toNat / 4096 ≠ 2 ∧ word ≠ 0x00EE)
      (same : m.step.machine.stack = m.stack)

theorem stack_way_of_fault (m : Machine) (failure : Failure) (faulted : m.step.result = .error failure) :
    StackWay m := by
  refine .still ?_ ?_
  · intro word executed
    cases faulted.symm.trans executed.2
  · rw [fault_machine m failure faulted]

theorem stack_way (m : Machine) : StackWay m := by
  cases m.step_way with
  | unfetched source unfetched =>
      exact stack_way_of_fault m _ (by rw [step_unfetched m source unfetched])
  | refused word source fetched refused =>
      exact stack_way_of_fault m _ (by rw [step_refused m word source fetched refused])
  | done word after fetched executed =>
      have stepped := step_done m after word fetched executed
      have executes : m.Executes word := ⟨(fetched_word_iff m word).mpr fetched, by rw [stepped]⟩
      have left : m.step.machine = after := by rw [stepped]
      have fits := Instruction.decode_fits word
      by_cases call : word.toNat / 4096 = 2
      · obtain ⟨room, pushed⟩ := execute_call (m.advance word) after _ (fits.calls.mpr call) executed
        exact .called word executes call room (by rw [left, pushed]; rfl)
      · by_cases returns : word = 0x00EE
        · subst returns
          refine .returned executes ?_
          rw [left]
          exact execute_return (m.advance 0x00EE) after executed
        · have same := execute_keeps_stack (m.advance word) _ (mt fits.calls.mp call) (mt fits.returns.mp returns)
          rw [executed] at same
          refine .still ?_ (by rw [left, same]; rfl)
          intro other again
          rw [← executes_unique m word other executes again]
          exact ⟨call, returns⟩

def noteOperation (m : Machine) (words : List Word) : Operation → List Word
  | .step =>
      match m.step.result with
      | .ok _ => words ++ m.fetchedWord.toList
      | .error _ => words
  | .reset => []
  | _ => words

def executedSinceReset (m : Machine) (words : List Word) : List Operation → List Word
  | [] => words
  | operation :: rest => (m.perform operation).machine.executedSinceReset (m.noteOperation words operation) rest

def calls (words : List Word) : Nat :=
  words.countP fun word => word.toNat / 4096 == 2

def returns (words : List Word) : Nat :=
  words.count 0x00EE

-- Every entry of the stack is a call that has not returned.
structure Balanced (stack : List UInt16) (words : List Word) : Prop where
  bounded : stack.length ≤ 16
  depth : stack.length + returns words = calls words

theorem balanced_empty : Balanced [] [] where
  bounded := Nat.zero_le 16
  depth := rfl

theorem note_executed (m : Machine) (word : Word) (words : List Word) (executed : m.Executes word) :
    m.noteOperation words .step = words ++ [word] := by
  simp [noteOperation, executed.1, executed.2]

theorem note_others (m : Machine) (words : List Word)
    (others : ∀ word, m.Executes word → word.toNat / 4096 ≠ 2 ∧ word ≠ 0x00EE) :
    calls (m.noteOperation words .step) = calls words ∧ returns (m.noteOperation words .step) = returns words := by
  cases result : m.step.result with
  | error failure => simp [noteOperation, result]
  | ok =>
      cases fetched : m.fetchedWord with
      | none => simp [noteOperation, result, fetched]
      | some word =>
          obtain ⟨noCall, noReturn⟩ := others word ⟨fetched, result⟩
          simp [noteOperation, result, fetched, calls, returns, List.countP_append, List.count_append, noCall,
            noReturn]

theorem step_balanced (m : Machine) (words : List Word) (balanced : Balanced m.stack words) :
    Balanced m.step.machine.stack (m.noteOperation words .step) := by
  obtain ⟨bounded, depth⟩ := balanced
  cases m.stack_way with
  | called word executed call room pushed =>
      have noReturn := Instruction.ne_return word (by omega)
      have oneCall : calls (words ++ [word]) = calls words + 1 := by simp [calls, List.countP_append, call]
      have noMore : returns (words ++ [word]) = returns words := by simp [returns, List.count_append, noReturn]
      rw [note_executed m word words executed, pushed]
      exact ⟨room, by rw [List.length_cons, oneCall, noMore]; omega⟩
  | returned executed popped =>
      have length : m.stack.length = m.step.machine.stack.length + 1 := by rw [popped, List.length_cons]
      have noMore : calls (words ++ [0x00EE]) = calls words := by simp [calls, List.countP_append]
      have oneReturn : returns (words ++ [0x00EE]) = returns words + 1 := by simp [returns, List.count_append]
      rw [note_executed m 0x00EE words executed]
      exact ⟨by omega, by rw [noMore, oneReturn]; omega⟩
  | still others same =>
      obtain ⟨sameCalls, sameReturns⟩ := note_others m words others
      rw [same]
      exact ⟨bounded, by rw [sameCalls, sameReturns]; exact depth⟩

theorem perform_balanced (m : Machine) (words : List Word) (operation : Operation)
    (balanced : Balanced m.stack words) :
    Balanced (m.perform operation).machine.stack (m.noteOperation words operation) := by
  cases operation with
  | step => exact step_balanced m words balanced
  | reset => exact balanced_empty
  | memory operation =>
      rw [perform, change_memory_machine]
      exact balanced
  | _ => exact balanced

theorem after_balanced (m : Machine) (words : List Word) (history : List Operation)
    (balanced : Balanced m.stack words) : Balanced (m.after history).stack (m.executedSinceReset words history) := by
  induction history generalizing m words with
  | nil => exact balanced
  | cons operation rest ih =>
      rw [after_cons, executedSinceReset]
      exact ih _ _ (perform_balanced m words operation balanced)

theorem perform_keeps_suffix (m : Machine) (older : List UInt16) (operation : Operation)
    (noReset : operation ≠ .reset) (below : older <:+ m.stack)
    (deep : older.length ≤ (m.perform operation).machine.stack.length) :
    older <:+ (m.perform operation).machine.stack := by
  cases operation with
  | reset => exact absurd rfl noReset
  | step =>
      have stepped : (m.perform .step).machine = m.step.machine := rfl
      rw [stepped] at deep ⊢
      cases m.stack_way with
      | called word executed call room pushed =>
          rw [pushed]
          exact below.trans (List.suffix_cons (m.pc + 2) m.stack)
      | returned executed popped =>
          rw [popped] at below
          exact List.suffix_of_suffix_length_le below (List.suffix_cons _ _) deep
      | still others same =>
          rw [same]
          exact below
  | memory operation =>
      rw [perform, change_memory_machine]
      exact below
  | _ => exact below

theorem after_keeps_suffix (m : Machine) (older : List UInt16) (history : List Operation)
    (noReset : .reset ∉ history) (below : older <:+ m.stack)
    (deep : ∀ earlier, earlier <+: history → older.length ≤ (m.after earlier).stack.length) :
    older <:+ (m.after history).stack := by
  induction history generalizing m with
  | nil => exact below
  | cons operation rest ih =>
      obtain ⟨first, others⟩ := not_or.mp (mt List.mem_cons.mpr noReset)
      have next := perform_keeps_suffix m older operation (Ne.symm first) below (deep [operation] (by simp))
      rw [after_cons]
      apply ih _ others next
      intro earlier before
      exact deep (operation :: earlier) (List.cons_prefix_cons.mpr ⟨rfl, before⟩)

theorem call_pushes (m : Machine) (word : Word) (executed : m.Executes word) (call : word.toNat / 4096 = 2) :
    m.step.machine.stack = (m.pc + 2) :: m.stack := by
  cases m.stack_way with
  | called other again otherCall room pushed => exact pushed
  | returned again popped =>
      have same := executes_unique m word 0x00EE executed again
      rw [same] at call
      cases call
  | still others same => exact absurd call (others word executed).1

theorem return_resumes (m : Machine) (word : Word) (executed : m.Executes word) (call : word.toNat / 4096 = 2)
    (history : List Operation) (noReset : .reset ∉ history)
    (deep : ∀ earlier, earlier <+: history → m.stack.length + 1 ≤ (m.step.machine.after earlier).stack.length)
    (back : (m.step.machine.after history).step.machine.stack.length = m.stack.length) :
    (m.step.machine.after history).Executes 0x00EE ∧
      (m.step.machine.after history).step.machine.pc = m.pc + 2 ∧
      (m.step.machine.after history).step.machine.stack = m.stack := by
  have pushed := call_pushes m word executed call
  have kept : (m.pc + 2) :: m.stack <:+ (m.step.machine.after history).stack :=
    after_keeps_suffix m.step.machine _ history noReset (by rw [pushed]) deep
  have deepEnough := deep history (List.prefix_refl history)
  generalize m.step.machine.after history = last at back kept deepEnough ⊢
  cases last.stack_way with
  | called other again otherCall room pushed =>
      rw [pushed, List.length_cons] at back
      omega
  | still others same =>
      rw [same] at back
      omega
  | returned again popped =>
      have length : last.stack.length = m.stack.length + 1 := by rw [popped, List.length_cons, back]
      have whole : (m.pc + 2) :: m.stack = last.stack := kept.eq_of_length length.symm
      obtain ⟨top, rest⟩ := List.cons.inj (whole.trans popped)
      exact ⟨again, top.symm, rest.symm⟩

theorem calls_and_returns_nest :
    (∀ (config : Config) (entropy : Random.Key) (history : List Operation),
      ((ofConfig config entropy).after history).stack.length ≤ 16 ∧
      ((ofConfig config entropy).after history).stack.length +
          returns ((ofConfig config entropy).executedSinceReset [] history) =
        calls ((ofConfig config entropy).executedSinceReset [] history)) ∧
    (∀ (m : Machine) (word : Word), m.Executes word → word.toNat / 4096 = 2 →
      m.step.machine.stack.length = m.stack.length + 1 ∧
      ∀ history : List Operation, .reset ∉ history →
        (∀ earlier, earlier <+: history → m.stack.length + 1 ≤ (m.step.machine.after earlier).stack.length) →
        (m.step.machine.after history).step.machine.stack.length = m.stack.length →
          (m.step.machine.after history).Executes 0x00EE ∧
          (m.step.machine.after history).step.machine.pc.toNat = (m.pc.toNat + 2) % 65536 ∧
          (m.step.machine.after history).step.machine.stack = m.stack) := by
  refine ⟨?_, ?_⟩
  · intro config entropy history
    obtain ⟨bounded, depth⟩ := after_balanced (ofConfig config entropy) [] history balanced_empty
    exact ⟨bounded, depth⟩
  · intro m word executed call
    refine ⟨congrArg List.length (call_pushes m word executed call), ?_⟩
    intro history noReset deep back
    obtain ⟨returned, resumed, same⟩ := return_resumes m word executed call history noReset deep back
    refine ⟨returned, ?_, same⟩
    rw [resumed, UInt16.toNat_add]
    rfl

def nested : Machine :=
  { fresh .lenient (.ofSeed 0) with
    memory := ((Memory.fresh .lenient).load [0x22, 0x04, 0x00, 0x00, 0x22, 0x08, 0x00, 0xEE, 0x00, 0xEE]).1 }

def innerRun : List Operation :=
  [.step, .tick, .memory (.writeByte 0x300 7), .step]

theorem nested_call_returns :
    nested.Executes 0x2204 ∧ (nested.step.machine.after innerRun).Executes 0x00EE ∧
      (nested.step.machine.after innerRun).step.machine.pc.toNat = 0x202 := by
  have executed : nested.Executes 0x2204 := ⟨rfl, rfl⟩
  have depths : ∀ earlier ∈ innerRun.inits, 1 ≤ (nested.step.machine.after earlier).stack.length := by decide
  have deep : ∀ earlier, earlier <+: innerRun → 1 ≤ (nested.step.machine.after earlier).stack.length :=
    fun earlier before => depths earlier ((List.mem_inits earlier innerRun).mpr before)
  obtain ⟨_, resumes⟩ := calls_and_returns_nest.2 nested 0x2204 executed rfl
  obtain ⟨returned, resumed, _⟩ := resumes innerRun (by decide) deep rfl
  exact ⟨executed, returned, resumed⟩

end Chip8.Machine
