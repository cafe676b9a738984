import Chip8.Proofs.Host.Clock
import Chip8.Proofs.Host.Film

set_option autoImplicit false

namespace Chip8

inductive Action where
  | poll
  | attempt
  | countdown
  | draw
deriving DecidableEq, Repr

namespace Action

def round (attempts : Nat) : List Action :=
  .poll :: (List.replicate attempts .attempt ++ [.countdown, .draw])

def schedule (rate ticks limit : Nat) : List Action :=
  (List.range limit).flatMap fun k => round ((k + 1) * rate / ticks - k * rate / ticks)

end Action

-- A machine between its devices, with the frames that the display was handed in this call.
structure Console (ι δ : Type) where
  config : Host.Config
  machine : Machine
  input : ι
  display : δ
  cycles : Nat
  frames : List Screen

namespace Console

variable {ι δ : Type}

def drawThen [Display δ] (c : Console ι δ) (verdict : Option Verdict) : Turn (Console ι δ) :=
  let (display, shown) := Display.draw c.display c.machine.screen
  let drawn := { c with display := display, frames := c.frames ++ [c.machine.screen] }
  match shown with
  | .ok _ => (drawn, verdict)
  | .error error => (drawn, some (.error (.io error)))

def act [Input ι] [Display δ] (c : Console ι δ) : Action → Turn (Console ι δ)
  | .poll =>
      let poll := Input.poll c.input c.machine.keypad
      let heard := { c with input := poll.input, machine := { c.machine with keypad := poll.keypad } }
      match poll.control with
      | .ok .proceed => (heard, none)
      | .ok .quit => (heard, some (.ok .quit))
      | .error error => (heard, some (.error (.io error)))
  | .attempt =>
      if c.config.maxCycles.any fun limit => limit ≤ c.cycles then c.drawThen (some (.ok .cycleLimit))
      else if c.config.stopAtProgramEnd && c.machine.atProgramEnd then c.drawThen (some (.ok .programEnd))
      else
        let outcome := c.machine.step
        match outcome.result with
        | .ok _ => ({ c with machine := outcome.machine, cycles := c.cycles + 1 }, none)
        | .error failure => ({ c with machine := outcome.machine }, some (.error failure))
  | .countdown => ({ c with machine := c.machine.tick }, none)
  | .draw => c.drawThen none

def follow [Input ι] [Display δ] (c : Console ι δ) : List Action → Turn (Console ι δ)
  | [] => (c, none)
  | action :: rest => (c.act action).andThen fun going => going.follow rest

theorem follow_append [Input ι] [Display δ] (c : Console ι δ) (first second : List Action) :
    c.follow (first ++ second) = (c.follow first).andThen fun going => going.follow second := by
  induction first generalizing c with
  | nil => rfl
  | cons action rest ih =>
      rw [List.cons_append, follow, follow, Turn.and_then_assoc]
      simp only [ih]

theorem draw_then_verdict [Display δ] (c going : Console ι δ) (verdict : Option Verdict)
    (went : c.drawThen verdict = (going, none)) :
    verdict = none ∧ going.frames.length = c.frames.length + 1 ∧ going.cycles = c.cycles := by
  revert went
  rw [drawThen]
  cases Display.draw c.display c.machine.screen with
  | mk display shown =>
      cases shown with
      | error error => simp
      | ok =>
          simp only [Prod.mk.injEq]
          rintro ⟨rfl, rfl⟩
          simp

theorem act_counts [Input ι] [Display δ] (c going : Console ι δ) (action : Action)
    (went : c.act action = (going, none)) :
    going.frames.length = c.frames.length + [action].count .draw ∧
      going.cycles = c.cycles + [action].count .attempt := by
  cases action with
  | poll =>
      revert went
      rw [act]
      cases (Input.poll c.input c.machine.keypad).control with
      | error error => simp
      | ok control =>
          cases control with
          | quit => simp
          | proceed =>
              simp only [Prod.mk.injEq, and_true]
              rintro rfl
              simp
  | attempt =>
      revert went
      rw [act]
      split
      · intro went
        cases (draw_then_verdict c going _ went).1
      · split
        · intro went
          cases (draw_then_verdict c going _ went).1
        · dsimp only
          cases c.machine.step.result with
          | error failure => simp
          | ok =>
              simp only [Prod.mk.injEq, and_true]
              rintro rfl
              simp
  | countdown =>
      obtain ⟨rfl, _⟩ := Prod.mk.inj went
      simp
  | draw =>
      obtain ⟨_, frames, cycles⟩ := draw_then_verdict c going none went
      simp [frames, cycles]

theorem follow_counts [Input ι] [Display δ] (c going : Console ι δ) (actions : List Action)
    (went : c.follow actions = (going, none)) :
    going.frames.length = c.frames.length + actions.count .draw ∧
      going.cycles = c.cycles + actions.count .attempt := by
  induction actions generalizing c with
  | nil =>
      obtain ⟨rfl, _⟩ := Prod.mk.inj went
      exact ⟨rfl, rfl⟩
  | cons action rest ih =>
      rw [follow] at went
      cases first : c.act action with
      | mk middle verdict =>
          rw [first] at went
          cases verdict with
          | some verdict => cases went
          | none =>
              obtain ⟨frames, cycles⟩ := act_counts c middle action first
              obtain ⟨moreFrames, moreCycles⟩ := ih middle went
              rw [← List.singleton_append, List.count_append, List.count_append]
              exact ⟨by omega, by omega⟩

end Console

namespace Host

variable {ι δ : Type}

def console (h : Host ι (Filmed δ)) : Console ι δ :=
  ⟨h.config, h.machine, h.input, h.display.display, h.cycles, h.display.frames⟩

def opening (h : Host ι δ) : Console ι δ :=
  ⟨h.config, h.machine, h.input, h.display, h.cycles, []⟩

theorem draw_then_present [Display δ] (h : Host ι (Filmed δ)) (verdict : Option Verdict) :
    h.console.drawThen verdict = (h.present.andThen fun shown => (shown, verdict)).onState console := by
  cases drawn : Display.draw h.display.display h.machine.screen with
  | mk display shown =>
      have same : Display.draw h.console.display h.console.machine.screen = (display, shown) := drawn
      rw [Console.drawThen, present, same, filmed_draw h.display h.machine.screen display shown drawn]
      cases shown <;> rfl

theorem act_poll [Input ι] [Display δ] (h : Host ι (Filmed δ)) :
    h.console.act .poll = h.listen.onState console := by
  have same : Input.poll h.console.input h.console.machine.keypad = Input.poll h.input h.machine.keypad := rfl
  rw [Console.act, listen, same]
  cases (Input.poll h.input h.machine.keypad).control with
  | error error => rfl
  | ok control => cases control <;> rfl

theorem act_draw [Input ι] [Display δ] (h : Host ι (Filmed δ)) :
    h.console.act .draw = h.present.onState console := by
  rw [Console.act, draw_then_present, Turn.and_then_going]

theorem draw_then_finish [Display δ] (h : Host ι (Filmed δ)) (reason : Stop) :
    h.console.drawThen (some (.ok reason)) = (h.finish reason).onState console := by
  rw [draw_then_present, finish]
  cases h.present with
  | mk shown verdict => cases verdict <;> rfl

theorem act_attempt [Input ι] [Display δ] (h : Host ι (Filmed δ)) :
    h.console.act .attempt = h.attempt.onState console := by
  have sameLimit : (h.console.config.maxCycles.any fun limit => limit ≤ h.console.cycles) = h.limitReached := by
    rw [limitReached]
    change (h.config.maxCycles.any fun limit => limit ≤ h.cycles) = _
    cases h.config.maxCycles <;> rfl
  have sameEnd : (h.console.config.stopAtProgramEnd && h.console.machine.atProgramEnd) =
      (h.config.stopAtProgramEnd && h.machine.atProgramEnd) := rfl
  have sameStep : h.console.machine.step = h.machine.step := rfl
  rw [Console.act, attempt, sameLimit, sameEnd, sameStep]
  split
  · exact draw_then_finish h .cycleLimit
  · split
    · exact draw_then_finish h .programEnd
    · dsimp only [step]
      cases h.machine.step.result <;> rfl

theorem follow_batch [Input ι] [Display δ] (n : Nat) (h : Host ι (Filmed δ)) :
    h.console.follow (List.replicate n .attempt) = (batch n h).onState console := by
  induction n generalizing h with
  | zero => rfl
  | succ n ih =>
      rw [List.replicate_succ, Console.follow, batch, act_attempt]
      exact Turn.and_then_on_state console _ _ _ ih

theorem follow_round [Input ι] [Display δ] (n : Nat) (h : Host ι (Filmed δ)) :
    h.console.follow (Action.round n) = (h.tick n).onState console := by
  rw [Action.round, Console.follow, act_poll, tick]
  apply Turn.and_then_on_state
  intro heard
  rw [Console.follow_append, follow_batch]
  apply Turn.and_then_on_state
  intro ran
  have counted : ran.console.act .countdown = (console { ran with machine := ran.machine.tick }, none) := rfl
  rw [Console.follow, counted, ← act_draw]
  exact Turn.and_then_going _

theorem follow_batches [Input ι] [Display δ] (count : Nat) (clock : Clock) (h : Host ι (Filmed δ)) :
    h.console.follow ((clock.batches count).flatMap Action.round) = (Host.ticks count clock h).onState console := by
  induction count generalizing clock h with
  | zero => rfl
  | succ count ih =>
      rw [Clock.batches, List.flatMap_cons, Console.follow_append, follow_round, Host.ticks]
      exact Turn.and_then_on_state console _ _ _ (ih clock.next)

def agenda (h : Host ι δ) (limit : Nat) : List Action :=
  (h.clock.batches limit).flatMap Action.round

theorem follow_agenda [Input ι] [Display δ] (h : Host ι δ) (limit : Nat) :
    h.opening.follow (h.agenda limit) = (h.filmed.run limit).onState console :=
  follow_batches limit h.clock h.filmed.announce

def rate (h : Host ι δ) : Nat :=
  h.config.instructionsPerSecond.toNat

def tickRate (h : Host ι δ) : Nat :=
  max h.config.timerHz.toNat 1

theorem agenda_scheduled (h : Host ι δ) (limit : Nat) (bound : h.rate + h.tickRate ≤ 0x100000000) :
    h.agenda limit = Action.schedule h.rate h.tickRate limit := by
  rw [agenda, Clock.batches_at 0 limit h.clock (Clock.start_at _ _ bound), Action.schedule, List.range_eq_range',
    List.flatMap_map]
  rfl

theorem follow_schedule [Input ι] [Display δ] (limit : Nat) (h : Host ι δ)
    (bound : h.rate + h.tickRate ≤ 0x100000000) :
    h.opening.follow (Action.schedule h.rate h.tickRate limit) = (h.filmed.run limit).onState console := by
  rw [← agenda_scheduled h limit bound]
  exact follow_agenda h limit

end Host

end Chip8
