import Chip8.Machine.Run
import Chip8.Proofs.Machine.Journal

set_option autoImplicit false

namespace Chip8.Machine

structure Made (m : Machine) (done : Nat) (fault : Option Failure) (left : Machine) (records : List Record) : Prop where
  machine : left = m.after (List.replicate (done + fault.toList.length) .step)
  results : (m.stepsTaken (List.replicate (done + fault.toList.length) .step)).map StepTaken.result =
    List.replicate done (.ok ()) ++ fault.toList.map .error
  records : records = m.recorded (List.replicate (done + fault.toList.length) .step)

theorem made_next (m : Machine) (done : Nat) (fault : Option Failure) (left : Machine) (records : List Record)
    (stepped : m.step.result = .ok ()) (later : m.step.machine.Made done fault left records) :
    m.Made (done + 1) fault left (m.step.records ++ records) := by
  have one : List.replicate (done + 1 + fault.toList.length) Operation.step =
      .step :: List.replicate (done + fault.toList.length) .step := by
    rw [Nat.add_right_comm, List.replicate_succ]
  refine ⟨?_, ?_, ?_⟩
  · rw [one, later.machine]
    rfl
  · rw [one, stepsTaken, stepOf, List.map_append, List.replicate_succ, List.cons_append, ← later.results, stepped]
    rfl
  · rw [one, later.records]
    rfl

theorem resume_made (m : Machine) (steps : Nat) (records : Array Record) (n : Nat) :
    let run := resume ⟨m, steps, none, records⟩ n
    ∃ done made, run.steps = steps + done ∧ run.records.toList = records.toList ++ made ∧
      m.Made done run.fault run.machine made ∧ done + run.fault.toList.length ≤ n ∧ (run.fault = none → done = n) := by
  induction n generalizing m steps records with
  | zero => exact ⟨0, [], rfl, (List.append_nil _).symm, ⟨rfl, rfl, rfl⟩, Nat.le_refl 0, fun _ => rfl⟩
  | succ n ih =>
      intro run
      cases stepped : m.step.result with
      | ok =>
          have next : run = resume ⟨m.step.machine, steps + 1, none, records ++ m.step.records⟩ n := by
            change resume _ _ = _
            rw [resume, stepped]
          obtain ⟨done, made, count, written, follows, bounded, whole⟩ :=
            ih m.step.machine (steps + 1) (records ++ m.step.records)
          rw [← next] at count written follows bounded whole
          refine ⟨done + 1, m.step.records ++ made, ?_, ?_, made_next m done _ _ made stepped follows, ?_, ?_⟩
          · rw [count, Nat.add_assoc, Nat.add_comm 1]
          · rw [written, Array.toList_appendList, List.append_assoc]
          · omega
          · exact fun unfaulted => congrArg Nat.succ (whole unfaulted)
      | error failure =>
          have last : run = ⟨m.step.machine, steps, some failure, records ++ m.step.records⟩ := by
            change resume _ _ = _
            rw [resume, stepped]
          rw [last]
          refine ⟨0, m.step.records, rfl, Array.toList_appendList, ⟨rfl, ?_, ?_⟩, ?_, ?_⟩
          · change [m.step.result] = [.error failure]
            rw [stepped]
          · exact (List.append_nil _).symm
          · exact Nat.succ_le_succ (Nat.zero_le n)
          · exact fun unfaulted => absurd unfaulted (Option.some_ne_none failure)

theorem run_made (m : Machine) (limit : Nat) :
    m.Made (m.run limit).steps (m.run limit).fault (m.run limit).machine (m.run limit).records.toList ∧
      (m.run limit).steps + (m.run limit).fault.toList.length ≤ limit ∧
      ((m.run limit).fault = none → (m.run limit).steps = limit) := by
  obtain ⟨done, made, count, written, follows, bounded, whole⟩ := resume_made m 0 #[] limit
  rw [Nat.zero_add] at count
  rw [List.nil_append] at written
  subst count
  rw [← written] at follows
  exact ⟨follows, bounded, whole⟩

end Chip8.Machine
