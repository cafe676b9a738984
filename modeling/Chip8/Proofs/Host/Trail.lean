import Chip8.Proofs.Host.Console
import Chip8.Proofs.Machine.Fault

set_option autoImplicit false

namespace Chip8

theorem Machine.at_program_end_iff (m : Machine) : m.atProgramEnd = true ↔ m.fetchedWord = some 0 := by
  rw [fetched_word_iff, atProgramEnd]
  cases m.memory.fetch m.pc <;> simp

namespace Console

variable {ι δ : Type}

def polled [Input ι] (c : Console ι δ) : Poll ι :=
  Input.poll c.input c.machine.keypad

def heard [Input ι] (c : Console ι δ) : Console ι δ :=
  { c with input := c.polled.input, machine := { c.machine with keypad := c.polled.keypad } }

def shown [Display δ] (c : Console ι δ) : Except IoError Unit :=
  (Display.draw c.display c.machine.screen).2

def handed [Display δ] (c : Console ι δ) : Console ι δ :=
  { c with
    display := (Display.draw c.display c.machine.screen).1
    frames := c.frames ++ [c.machine.screen] }

def reason? (c : Console ι δ) : Option Stop :=
  if c.config.maxCycles.any fun limit => limit ≤ c.cycles then some .cycleLimit
  else if c.config.stopAtProgramEnd && c.machine.atProgramEnd then some .programEnd
  else none

theorem reason_limit_iff (c : Console ι δ) :
    c.reason? = some .cycleLimit ↔ ∃ limit, c.config.maxCycles = some limit ∧ limit ≤ c.cycles := by
  rw [reason?]
  cases c.config.maxCycles with
  | none => by_cases ended : (c.config.stopAtProgramEnd && c.machine.atProgramEnd) = true <;> simp [ended]
  | some limit =>
      by_cases reached : limit ≤ c.cycles
      · simp [reached]
      · by_cases ended : (c.config.stopAtProgramEnd && c.machine.atProgramEnd) = true <;> simp [reached, ended]

theorem reason_end_iff (c : Console ι δ) :
    c.reason? = some .programEnd ↔ (∀ limit, c.config.maxCycles = some limit → c.cycles < limit) ∧
      c.config.stopAtProgramEnd = true ∧ c.machine.fetchedWord = some 0 := by
  rw [reason?, ← Machine.at_program_end_iff]
  cases c.config.maxCycles with
  | none => simp
  | some limit =>
      by_cases reached : limit ≤ c.cycles
      · have notBelow : ¬ c.cycles < limit := Nat.not_lt.mpr reached
        simp [reached, notBelow]
      · simp [reached, Nat.not_le.mp reached]

theorem reason_none_iff (c : Console ι δ) :
    c.reason? = none ↔ (∀ limit, c.config.maxCycles = some limit → c.cycles < limit) ∧
      (c.config.stopAtProgramEnd = true → c.machine.fetchedWord ≠ some 0) := by
  rw [reason?, ne_eq, ← Machine.at_program_end_iff]
  cases c.config.maxCycles with
  | none => simp
  | some limit =>
      by_cases reached : limit ≤ c.cycles
      · have notBelow : ¬ c.cycles < limit := Nat.not_lt.mpr reached
        simp [reached, notBelow]
      · simp [reached, Nat.not_le.mp reached]

-- How an action can come out. Six of the ways end the call.
inductive ActWay [Input ι] [Display δ] (c : Console ι δ) : Action → Turn (Console ι δ) → Prop where
  | heard (polled : c.polled.control = .ok .proceed) : ActWay c .poll (c.heard, none)
  | quit (polled : c.polled.control = .ok .quit) : ActWay c .poll (c.heard, some (.ok .quit))
  | unheard (error : IoError) (polled : c.polled.control = .error error) :
      ActWay c .poll (c.heard, some (.error (.io error)))
  | stepped (unmet : c.reason? = none) (result : c.machine.step.result = .ok ()) :
      ActWay c .attempt ({ c with machine := c.machine.step.machine, cycles := c.cycles + 1 }, none)
  | faulted (unmet : c.reason? = none) (failure : Failure) (result : c.machine.step.result = .error failure) :
      ActWay c .attempt ({ c with machine := c.machine.step.machine }, some (.error failure))
  | stopped (reason : Stop) (met : c.reason? = some reason) (shown : c.shown = .ok ()) :
      ActWay c .attempt (c.handed, some (.ok reason))
  | unstopped (reason : Stop) (met : c.reason? = some reason) (error : IoError) (shown : c.shown = .error error) :
      ActWay c .attempt (c.handed, some (.error (.io error)))
  | counted : ActWay c .countdown ({ c with machine := c.machine.tick }, none)
  | drawn (shown : c.shown = .ok ()) : ActWay c .draw (c.handed, none)
  | undrawn (error : IoError) (shown : c.shown = .error error) :
      ActWay c .draw (c.handed, some (.error (.io error)))

theorem draw_then_shown [Display δ] (c : Console ι δ) (verdict : Option Verdict) (shown : c.shown = .ok ()) :
    c.drawThen verdict = (c.handed, verdict) := by
  simp only [Console.shown] at shown
  simp only [drawThen, shown, handed]

theorem draw_then_unshown [Display δ] (c : Console ι δ) (verdict : Option Verdict) (error : IoError)
    (shown : c.shown = .error error) : c.drawThen verdict = (c.handed, some (.error (.io error))) := by
  simp only [Console.shown] at shown
  simp only [drawThen, shown, handed]

theorem act_reason [Input ι] [Display δ] (c : Console ι δ) (reason : Stop) (met : c.reason? = some reason) :
    c.act .attempt = c.drawThen (some (.ok reason)) := by
  revert met
  rw [act, reason?]
  split
  · intro met
    cases met
    rfl
  · split
    · intro met
      cases met
      rfl
    · intro met
      cases met

theorem act_no_reason [Input ι] [Display δ] (c : Console ι δ) (unmet : c.reason? = none) :
    c.act .attempt =
      match c.machine.step.result with
      | .ok _ => ({ c with machine := c.machine.step.machine, cycles := c.cycles + 1 }, none)
      | .error failure => ({ c with machine := c.machine.step.machine }, some (.error failure)) := by
  revert unmet
  rw [act, reason?]
  split
  · intro unmet
    cases unmet
  · split
    · intro unmet
      cases unmet
    · intro _
      rfl

theorem act_polled [Input ι] [Display δ] (c : Console ι δ) :
    c.act .poll =
      match c.polled.control with
      | .ok .proceed => (c.heard, none)
      | .ok .quit => (c.heard, some (.ok .quit))
      | .error error => (c.heard, some (.error (.io error))) := rfl

theorem act_way [Input ι] [Display δ] (c : Console ι δ) (action : Action) : ActWay c action (c.act action) := by
  cases action with
  | poll =>
      rw [act_polled]
      cases polled : c.polled.control with
      | error error => exact .unheard error polled
      | ok control =>
          cases control with
          | proceed => exact .heard polled
          | quit => exact .quit polled
  | attempt =>
      cases met : c.reason? with
      | some reason =>
          rw [act_reason c reason met]
          cases shown : c.shown with
          | ok =>
              rw [draw_then_shown c _ shown]
              exact .stopped reason met shown
          | error error =>
              rw [draw_then_unshown c _ error shown]
              exact .unstopped reason met error shown
      | none =>
          rw [act_no_reason c met]
          cases result : c.machine.step.result with
          | ok => exact .stepped met result
          | error failure => exact .faulted met failure result
  | countdown => exact .counted
  | draw =>
      rw [act]
      cases shown : c.shown with
      | ok =>
          rw [draw_then_shown c _ shown]
          exact .drawn shown
      | error error =>
          rw [draw_then_unshown c _ error shown]
          exact .undrawn error shown

theorem act_of_way [Input ι] [Display δ] (c : Console ι δ) (action : Action) (turn : Turn (Console ι δ))
    (way : ActWay c action turn) : c.act action = turn := by
  cases way with
  | heard polled => rw [act_polled, polled]
  | quit polled => rw [act_polled, polled]
  | unheard error polled => rw [act_polled, polled]
  | stepped unmet result => rw [act_no_reason c unmet, result]
  | faulted unmet failure result => rw [act_no_reason c unmet, result]
  | stopped reason met shown => rw [act_reason c reason met, draw_then_shown c _ shown]
  | unstopped reason met error shown => rw [act_reason c reason met, draw_then_unshown c _ error shown]
  | counted => rfl
  | drawn shown => rw [act, draw_then_shown c _ shown]
  | undrawn error shown => rw [act, draw_then_unshown c _ error shown]

abbrev Entry (ι δ : Type) := Console ι δ × Action

def trail [Input ι] [Display δ] (c : Console ι δ) : List Action → List (Entry ι δ)
  | [] => []
  | action :: rest =>
      (c, action) ::
        match c.act action with
        | (going, none) => going.trail rest
        | (_, some _) => []

variable [Input ι] [Display δ]

theorem trail_going (c going : Console ι δ) (action : Action) (rest : List Action)
    (went : c.act action = (going, none)) : c.trail (action :: rest) = (c, action) :: going.trail rest := by
  rw [trail, went]

theorem trail_ended (c final : Console ι δ) (action : Action) (rest : List Action) (verdict : Verdict)
    (ended : c.act action = (final, some verdict)) : c.trail (action :: rest) = [(c, action)] := by
  rw [trail, ended]

theorem follow_going (c going : Console ι δ) (action : Action) (rest : List Action)
    (went : c.act action = (going, none)) : c.follow (action :: rest) = going.follow rest := by
  rw [follow, went]
  rfl

theorem follow_ended (c final : Console ι δ) (action : Action) (rest : List Action) (verdict : Verdict)
    (ended : c.act action = (final, some verdict)) : c.follow (action :: rest) = (final, some verdict) := by
  rw [follow, ended]
  rfl

theorem trail_split (c here : Console ι δ) (action : Action) (actions : List Action) (before after : List (Entry ι δ))
    (split : c.trail actions = before ++ (here, action) :: after) :
    ∃ first rest, actions = first ++ action :: rest ∧ c.follow first = (here, none) ∧ c.trail first = before ∧
      here.trail (action :: rest) = (here, action) :: after := by
  induction actions generalizing c before with
  | nil => simp [trail] at split
  | cons next rest ih =>
      cases before with
      | nil =>
          obtain ⟨same, _⟩ := List.cons.inj (show (c, next) :: _ = (here, action) :: after from split)
          obtain ⟨rfl, rfl⟩ := Prod.mk.inj same
          exact ⟨[], rest, rfl, rfl, rfl, split⟩
      | cons entry others =>
          cases outcome : c.act next with
          | mk going verdict =>
              cases verdict with
              | some verdict =>
                  rw [trail_ended c going next rest verdict outcome] at split
                  simp at split
              | none =>
                  rw [trail_going c going next rest outcome] at split
                  obtain ⟨same, remaining⟩ := List.cons.inj split
                  obtain ⟨first, final, actionsEq, followed, trailEq, onward⟩ := ih going others remaining
                  refine ⟨next :: first, final, by rw [actionsEq, List.cons_append], ?_, ?_, onward⟩
                  · rw [follow_going c going next first outcome]
                    exact followed
                  · rw [trail_going c going next first outcome, trailEq, same]

theorem trail_linked (c here next : Console ι δ) (action other : Action) (actions : List Action)
    (before after : List (Entry ι δ))
    (split : c.trail actions = before ++ (here, action) :: (next, other) :: after) :
    here.act action = (next, none) := by
  obtain ⟨_, rest, _, _, _, onward⟩ := trail_split c here action actions before _ split
  cases outcome : here.act action with
  | mk going verdict =>
      cases verdict with
      | some verdict =>
          rw [trail_ended here going action rest verdict outcome] at onward
          cases onward
      | none =>
          rw [trail_going here going action rest outcome] at onward
          cases rest with
          | nil => cases onward
          | cons later others =>
              obtain ⟨same, _⟩ := List.cons.inj (List.cons.inj onward).2
              rw [(Prod.mk.inj same).1]

theorem trail_member (c here : Console ι δ) (action : Action) (actions : List Action)
    (member : (here, action) ∈ c.trail actions) :
    ∃ first rest, actions = first ++ action :: rest ∧ c.follow first = (here, none) := by
  obtain ⟨before, after, split⟩ := List.append_of_mem member
  obtain ⟨first, rest, actionsEq, followed, _⟩ := trail_split c here action actions before after split
  exact ⟨first, rest, actionsEq, followed⟩

theorem follow_keeps (kept : Console ι δ → Prop) (each : ∀ c action, kept c → kept (c.act action).1)
    (c : Console ι δ) (actions : List Action) (start : kept c) : kept (c.follow actions).1 := by
  induction actions generalizing c with
  | nil => exact start
  | cons next rest ih =>
      have first := each c next start
      cases outcome : c.act next with
      | mk going verdict =>
          rw [outcome] at first
          cases verdict with
          | some verdict =>
              rw [follow_ended c going next rest verdict outcome]
              exact first
          | none =>
              rw [follow_going c going next rest outcome]
              exact ih going first

theorem trail_keeps (kept : Console ι δ → Prop) (each : ∀ c action, kept c → kept (c.act action).1)
    (c here : Console ι δ) (action : Action) (actions : List Action) (start : kept c)
    (member : (here, action) ∈ c.trail actions) : kept here := by
  obtain ⟨first, _, _, followed⟩ := trail_member c here action actions member
  have there := follow_keeps kept each c first start
  rw [followed] at there
  exact there

theorem trail_append (c here : Console ι δ) (first rest : List Action) (went : c.follow first = (here, none)) :
    c.trail (first ++ rest) = c.trail first ++ here.trail rest := by
  induction first generalizing c with
  | nil =>
      cases went
      rfl
  | cons next others ih =>
      cases outcome : c.act next with
      | mk going verdict =>
          cases verdict with
          | some verdict =>
              rw [follow_ended c going next others verdict outcome] at went
              cases went
          | none =>
              rw [follow_going c going next others outcome] at went
              rw [List.cons_append, trail_going c going next _ outcome, trail_going c going next _ outcome,
                ih going went, List.cons_append]

theorem trail_actions (c going : Console ι δ) (actions : List Action) (went : c.follow actions = (going, none)) :
    (c.trail actions).map Prod.snd = actions := by
  induction actions generalizing c with
  | nil => rfl
  | cons next rest ih =>
      cases outcome : c.act next with
      | mk middle verdict =>
          cases verdict with
          | some verdict =>
              rw [follow_ended c middle next rest verdict outcome] at went
              cases went
          | none =>
              rw [follow_going c middle next rest outcome] at went
              rw [trail_going c middle next rest outcome, List.map_cons, ih middle went]

theorem trail_order (c here : Console ι δ) (action : Action) (actions : List Action)
    (before after : List (Entry ι δ)) (split : c.trail actions = before ++ (here, action) :: after) :
    ∃ rest, actions = before.map Prod.snd ++ action :: rest := by
  obtain ⟨first, rest, actionsEq, followed, firstEq, _⟩ := trail_split c here action actions before after split
  refine ⟨rest, ?_⟩
  rw [actionsEq, ← firstEq, trail_actions c here first followed]

theorem trail_previous (c here : Console ι δ) (action last : Action) (actions others : List Action)
    (before after : List (Entry ι δ)) (split : c.trail actions = before ++ (here, action) :: after)
    (ending : before.map Prod.snd = others ++ [last]) :
    ∃ earlier previous, before = earlier ++ [(previous, last)] ∧ previous.act last = (here, none) := by
  obtain ⟨earlier, final, beforeEq, _, finalEq⟩ := List.map_eq_append_iff.mp ending
  obtain ⟨⟨previous, action⟩, rfl, same⟩ := List.map_eq_singleton_iff.mp finalEq
  subst same
  rw [beforeEq, List.append_assoc] at split
  exact ⟨earlier, previous, beforeEq, trail_linked c previous here _ _ actions earlier after split⟩

theorem follow_last (c final : Console ι δ) (actions : List Action) (verdict : Verdict)
    (ended : c.follow actions = (final, some verdict)) :
    ∃ before here action, c.trail actions = before ++ [(here, action)] ∧
      here.act action = (final, some verdict) := by
  induction actions generalizing c with
  | nil => cases ended
  | cons next rest ih =>
      cases outcome : c.act next with
      | mk middle other =>
          cases other with
          | some other =>
              rw [follow_ended c middle next rest other outcome] at ended
              exact ⟨[], c, next, trail_ended c middle next rest other outcome, by rw [outcome, ended]⟩
          | none =>
              rw [follow_going c middle next rest outcome] at ended
              obtain ⟨before, here, action, trailEq, last⟩ := ih middle ended
              exact ⟨(c, next) :: before, here, action,
                by rw [trail_going c middle next rest outcome, trailEq, List.cons_append], last⟩

theorem follow_of_ended (c here final : Console ι δ) (action : Action) (actions : List Action) (verdict : Verdict)
    (member : (here, action) ∈ c.trail actions) (ended : here.act action = (final, some verdict)) :
    c.follow actions = (final, some verdict) ∧ (c.trail actions).getLast? = some (here, action) := by
  obtain ⟨first, rest, rfl, followed⟩ := trail_member c here action actions member
  refine ⟨?_, ?_⟩
  · rw [follow_append, followed]
    exact follow_ended here final action rest verdict ended
  · rw [trail_append c here first _ followed, trail_ended here final action rest verdict ended]
    simp

theorem ended_is_last (c here final : Console ι δ) (action : Action) (actions : List Action) (verdict : Verdict)
    (before after : List (Entry ι δ)) (split : c.trail actions = before ++ (here, action) :: after)
    (ended : here.act action = (final, some verdict)) : after = [] := by
  obtain ⟨_, rest, _, _, _, onward⟩ := trail_split c here action actions before after split
  rw [trail_ended here final action rest verdict ended] at onward
  exact (List.cons.inj onward).2.symm

end Console

namespace Console

variable {ι δ : Type}

def screen? : Entry ι δ → Option Screen
  | (c, .draw) => some c.machine.screen
  | (c, .attempt) => c.reason?.map fun _ => c.machine.screen
  | _ => none

def step? : Entry ι δ → Option Machine
  | (c, .attempt) => if c.reason? = none then some c.machine else none
  | _ => none

def screens (entries : List (Entry ι δ)) : List Screen :=
  entries.filterMap screen?

def steps (entries : List (Entry ι δ)) : List Machine :=
  entries.filterMap step?

def successes (machines : List Machine) : Nat :=
  machines.countP fun m => m.step.result.isOk

theorem screens_append (first second : List (Entry ι δ)) :
    screens (first ++ second) = screens first ++ screens second :=
  List.filterMap_append

theorem steps_append (first second : List (Entry ι δ)) : steps (first ++ second) = steps first ++ steps second :=
  List.filterMap_append

theorem successes_append (first second : List (Entry ι δ)) :
    successes (steps (first ++ second)) = successes (steps first) + successes (steps second) := by
  rw [steps_append, successes, List.countP_append]
  rfl

variable [Input ι] [Display δ]

theorem act_adds (c : Console ι δ) (action : Action) :
    (c.act action).1.frames = c.frames ++ screens [(c, action)] ∧
      (c.act action).1.cycles = c.cycles + successes (steps [(c, action)]) ∧
      (c.act action).1.config = c.config := by
  have way := c.act_way action
  generalize c.act action = turn at way ⊢
  cases way with
  | heard polled => simp [screens, screen?, steps, step?, successes, Console.heard]
  | quit polled => simp [screens, screen?, steps, step?, successes, Console.heard]
  | unheard error polled => simp [screens, screen?, steps, step?, successes, Console.heard]
  | stepped unmet result =>
      simp [screens, screen?, steps, step?, successes, unmet, result, Except.isOk, Except.toBool]
  | faulted unmet failure result =>
      simp [screens, screen?, steps, step?, successes, unmet, result, Except.isOk, Except.toBool]
  | stopped reason met shown => simp [screens, screen?, steps, step?, successes, met, handed]
  | unstopped reason met error shown => simp [screens, screen?, steps, step?, successes, met, handed]
  | counted => simp [screens, screen?, steps, step?, successes]
  | drawn shown => simp [screens, screen?, steps, step?, successes, handed]
  | undrawn error shown => simp [screens, screen?, steps, step?, successes, handed]

theorem follow_adds (c : Console ι δ) (actions : List Action) :
    (c.follow actions).1.frames = c.frames ++ screens (c.trail actions) ∧
      (c.follow actions).1.cycles = c.cycles + successes (steps (c.trail actions)) ∧
      (c.follow actions).1.config = c.config := by
  induction actions generalizing c with
  | nil => simp [follow, trail, screens, steps, successes]
  | cons action rest ih =>
      obtain ⟨frames, cycles, config⟩ := act_adds c action
      cases outcome : c.act action with
      | mk going verdict =>
          rw [outcome] at frames cycles config
          cases verdict with
          | some verdict =>
              rw [follow_ended c going action rest verdict outcome, trail_ended c going action rest verdict outcome]
              exact ⟨frames, cycles, config⟩
          | none =>
              obtain ⟨moreFrames, moreCycles, sameConfig⟩ := ih going
              have split : (c, action) :: going.trail rest = [(c, action)] ++ going.trail rest := rfl
              rw [follow_going c going action rest outcome, trail_going c going action rest outcome, split,
                screens_append, successes_append]
              refine ⟨?_, ?_, sameConfig.trans config⟩
              · rw [moreFrames, frames, List.append_assoc]
              · rw [moreCycles, cycles, Nat.add_assoc]

end Console

namespace Host

variable {ι δ : Type} [Input ι] [Display δ]

def trail (h : Host ι δ) (limit : Nat) : List (Console.Entry ι δ) :=
  h.opening.trail (h.agenda limit)

def film (h : Host ι δ) (limit : Nat) : List Screen :=
  (h.filmed.run limit).1.display.frames

structure Leaves (h : Host ι δ) (limit : Nat) (final : Console ι δ) (verdict : Option Verdict) : Prop where
  verdict : (h.run limit).2 = verdict
  config : (h.run limit).1.config = final.config
  machine : (h.run limit).1.machine = final.machine
  input : (h.run limit).1.input = final.input
  display : (h.run limit).1.display = final.display
  cycles : (h.run limit).1.cycles = final.cycles
  film : h.film limit = final.frames

theorem leaves_of_follow (h : Host ι δ) (limit : Nat) (final : Console ι δ) (verdict : Option Verdict)
    (followed : h.opening.follow (h.agenda limit) = (final, verdict)) : h.Leaves limit final verdict := by
  rw [follow_agenda] at followed
  obtain ⟨rfl, rfl⟩ := Prod.mk.inj followed
  have plain := run_filmed limit h
  exact
    { verdict := congrArg Prod.snd plain
      config := congrArg (fun turn => turn.1.config) plain
      machine := congrArg (fun turn => turn.1.machine) plain
      input := congrArg (fun turn => turn.1.input) plain
      display := congrArg (fun turn => turn.1.display) plain
      cycles := congrArg (fun turn => turn.1.cycles) plain
      film := rfl }

end Host

end Chip8
