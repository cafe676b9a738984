import Chip8.Machine.Step

set_option autoImplicit false

namespace Chip8.Machine

structure Run where
  machine : Machine
  -- Steps that did not fault.
  steps : Nat
  fault : Option Failure
  records : Array Record

def resume (run : Run) : Nat → Run
  | 0 => run
  | n + 1 =>
      let outcome := run.machine.step
      let records := run.records ++ outcome.records
      match outcome.result with
      | .ok _ => resume ⟨outcome.machine, run.steps + 1, none, records⟩ n
      | .error failure => ⟨outcome.machine, run.steps, some failure, records⟩

def run (m : Machine) (limit : Nat) : Run :=
  resume ⟨m, 0, none, #[]⟩ limit

end Chip8.Machine
