import Chip8.Host.Basic

set_option autoImplicit false

namespace Chip8

namespace Turn

variable {σ τ : Type}

def onState (f : σ → τ) (turn : Turn σ) : Turn τ :=
  (f turn.1, turn.2)

theorem kept_first (kept : Option Verdict → Prop) (going : kept none) (turn : Turn σ) (next : σ → Turn σ)
    (whole : kept (turn.andThen next).2) : kept turn.2 := by
  obtain ⟨state, verdict⟩ := turn
  cases verdict with
  | none => exact going
  | some verdict => exact whole

theorem and_then_kept (kept : Option Verdict → Prop) (going : kept none) (f : σ → τ) (turn : Turn σ) (other : Turn τ)
    (next : σ → Turn σ) (otherNext : τ → Turn τ) (first : kept turn.2 → other = turn.onState f)
    (rest : ∀ state, kept (next state).2 → otherNext (f state) = (next state).onState f)
    (whole : kept (turn.andThen next).2) : other.andThen otherNext = (turn.andThen next).onState f := by
  rw [first (kept_first kept going turn next whole)]
  obtain ⟨state, verdict⟩ := turn
  cases verdict with
  | none => exact rest state whole
  | some verdict => rfl

theorem and_then_on_state (f : σ → τ) (turn : Turn σ) (next : σ → Turn σ) (otherNext : τ → Turn τ)
    (rest : ∀ state, otherNext (f state) = (next state).onState f) :
    (turn.onState f).andThen otherNext = (turn.andThen next).onState f :=
  and_then_kept (fun _ => True) trivial f turn _ next otherNext (fun _ => rfl) (fun state _ => rest state) trivial

theorem and_then_going (turn : Turn σ) : (turn.andThen fun state => (state, none)) = turn := by
  obtain ⟨state, verdict⟩ := turn
  cases verdict <;> rfl

theorem and_then_assoc (turn : Turn σ) (second third : σ → Turn σ) :
    (turn.andThen second).andThen third = turn.andThen fun going => (second going).andThen third := by
  obtain ⟨state, verdict⟩ := turn
  cases verdict <;> rfl

end Turn

namespace Host

variable {ι δ δ' : Type} [Display δ] [Display δ']

-- The simulating host may see a program end earlier, but only where a step has a verdict of no interest.
structure Simulation (kept : Option Verdict → Prop) (f : Host ι δ → Host ι δ') : Prop where
  going : kept none
  config (h : Host ι δ) : (f h).config = h.config
  cycles (h : Host ι δ) : (f h).cycles = h.cycles
  input (h : Host ι δ) : (f h).input = h.input
  keypad (h : Host ι δ) : (f h).machine.keypad = h.machine.keypad
  note (h : Host ι δ) (record : Record) : f (h.note record) = (f h).note record
  hear (h : Host ι δ) (poll : Poll ι) : f (h.hear poll) = (f h).hear poll
  countdown (h : Host ι δ) : f { h with machine := h.machine.tick } = { f h with machine := (f h).machine.tick }
  ended (h : Host ι δ) : h.machine.atProgramEnd = true → (f h).machine.atProgramEnd = true
  notEnded (h : Host ι δ) : kept h.step.2 → (f h).machine.atProgramEnd = h.machine.atProgramEnd
  step (h : Host ι δ) : kept h.step.2 → (f h).step = h.step.onState f
  present (h : Host ι δ) : (f h).present = h.present.onState f

namespace Simulation

variable {kept : Option Verdict → Prop} {f : Host ι δ → Host ι δ'}

theorem listen [Input ι] (simulation : Simulation kept f) (h : Host ι δ) : (f h).listen = h.listen.onState f := by
  rw [Host.listen, Host.listen, simulation.input, simulation.keypad, ← simulation.hear]
  cases (Input.poll h.input h.machine.keypad).control with
  | error error => rfl
  | ok control =>
      cases control with
      | proceed => rfl
      | quit =>
          dsimp only
          rw [simulation.cycles, ← simulation.note]
          rfl

theorem finish (simulation : Simulation kept f) (h : Host ι δ) (reason : Stop) :
    (f h).finish reason = (h.finish reason).onState f := by
  rw [Host.finish, Host.finish, simulation.present]
  apply Turn.and_then_on_state
  intro shown
  rw [simulation.cycles, ← simulation.note]
  rfl

theorem limit_reached (simulation : Simulation kept f) (h : Host ι δ) : (f h).limitReached = h.limitReached := by
  rw [limitReached, limitReached, simulation.config, simulation.cycles]

theorem attempt (simulation : Simulation kept f) (h : Host ι δ) (whole : kept h.attempt.2) :
    (f h).attempt = h.attempt.onState f := by
  revert whole
  rw [Host.attempt, Host.attempt, simulation.limit_reached, simulation.config]
  by_cases limit : h.limitReached = true
  · rw [if_pos limit, if_pos limit]
    intro _
    exact simulation.finish h .cycleLimit
  · rw [if_neg limit, if_neg limit]
    by_cases ended : (h.config.stopAtProgramEnd && h.machine.atProgramEnd) = true
    · have both : (h.config.stopAtProgramEnd && (f h).machine.atProgramEnd) = true := by
        rw [Bool.and_eq_true] at ended ⊢
        exact ⟨ended.1, simulation.ended h ended.2⟩
      rw [if_pos ended, if_pos both]
      intro _
      exact simulation.finish h .programEnd
    · rw [if_neg ended]
      intro stepped
      rw [simulation.notEnded h stepped, if_neg ended]
      exact simulation.step h stepped

theorem batch (simulation : Simulation kept f) (n : Nat) (h : Host ι δ) (whole : kept (batch n h).2) :
    Host.batch n (f h) = (Host.batch n h).onState f := by
  induction n generalizing h with
  | zero => rfl
  | succ n ih =>
      rw [Host.batch] at whole ⊢
      exact Turn.and_then_kept kept simulation.going f _ _ _ _ (simulation.attempt h) ih whole

theorem tick [Input ι] (simulation : Simulation kept f) (n : Nat) (h : Host ι δ) (whole : kept (h.tick n).2) :
    (f h).tick n = (h.tick n).onState f := by
  rw [Host.tick] at whole ⊢
  apply Turn.and_then_kept kept simulation.going f _ _ _ _ (fun _ => simulation.listen h) _ whole
  intro heard
  apply Turn.and_then_kept kept simulation.going f _ _ _ _ (simulation.batch n heard)
  intro ran _
  rw [← simulation.countdown]
  exact simulation.present _

theorem ticks [Input ι] (simulation : Simulation kept f) (n : Nat) (clock : Clock) (h : Host ι δ)
    (whole : kept (ticks n clock h).2) : Host.ticks n clock (f h) = (Host.ticks n clock h).onState f := by
  induction n generalizing clock h with
  | zero => rfl
  | succ n ih =>
      rw [Host.ticks] at whole ⊢
      exact Turn.and_then_kept kept simulation.going f _ _ _ _ (simulation.tick _ h) (ih clock.next) whole

theorem run [Input ι] (simulation : Simulation kept f) (limit : Nat) (h : Host ι δ) (whole : kept (h.run limit).2) :
    (f h).run limit = (h.run limit).onState f := by
  have clock : (f h).clock = h.clock := by rw [Host.clock, Host.clock, simulation.config]
  have announced : (f h).announce = f h.announce := by
    rw [Host.announce, Host.announce, simulation.note, simulation.config]
  rw [Host.run, clock, announced]
  exact simulation.ticks limit h.clock h.announce whole

end Simulation

end Host

end Chip8
