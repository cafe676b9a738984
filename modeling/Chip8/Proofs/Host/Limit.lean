import Chip8.Proofs.Host.Exit
import Chip8.Proofs.Host.Schedule

set_option autoImplicit false

namespace Chip8

namespace Console

variable {ι δ : Type}

structure Within (c : Console ι δ) (most : Nat) : Prop where
  limited : c.config.maxCycles = some most
  below : c.cycles ≤ most

variable [Input ι] [Display δ]

theorem act_within (most : Nat) (c : Console ι δ) (action : Action) (within : c.Within most) :
    (c.act action).1.Within most := by
  have way := c.act_way action
  generalize c.act action = turn at way ⊢
  cases way with
  | stepped unmet result => exact ⟨within.limited, ((reason_none_iff c).mp unmet).1 most within.limited⟩
  | _ => exact ⟨within.limited, within.below⟩

theorem trail_config (c here : Console ι δ) (action : Action) (actions : List Action)
    (member : (here, action) ∈ c.trail actions) : here.config = c.config :=
  trail_keeps (fun other => other.config = c.config) (fun other next same => (act_adds other next).2.2.trans same)
    c here action actions rfl member

theorem trail_within (c here : Console ι δ) (action : Action) (actions : List Action) (most : Nat)
    (within : c.Within most) (member : (here, action) ∈ c.trail actions) : here.cycles ≤ most :=
  (trail_keeps (fun other => other.Within most) (act_within most) c here action actions within member).below

theorem trail_cycles (c here : Console ι δ) (action : Action) (actions : List Action)
    (before after : List (Entry ι δ)) (split : c.trail actions = before ++ (here, action) :: after) :
    here.cycles = c.cycles + successes (steps before) := by
  obtain ⟨first, _, _, followed, firstEq, _⟩ := trail_split c here action actions before after split
  have added := (follow_adds c first).2.1
  rw [followed, firstEq] at added
  exact added

theorem steps_nonzero (c : Console ι δ) (actions : List Action) (stops : c.config.stopAtProgramEnd = true)
    (m : Machine) (stepped : m ∈ steps (c.trail actions)) : m.fetchedWord ≠ some 0 := by
  obtain ⟨⟨here, action⟩, member, made⟩ := List.mem_filterMap.mp stepped
  have config := trail_config c here action actions member
  cases action with
  | attempt =>
      cases unmet : here.reason? with
      | some reason => simp [step?, unmet] at made
      | none =>
          simp only [step?, unmet, if_true, Option.some.injEq] at made
          rw [← made]
          exact ((reason_none_iff here).mp unmet).2 (by rw [config, stops])
  | _ => cases made

end Console

namespace Host

variable {ι δ : Type}

theorem tick_rate_pos (h : Host ι δ) : 0 < h.tickRate :=
  Nat.lt_of_lt_of_le Nat.zero_lt_one (Nat.le_max_right _ _)

variable [Input ι] [Display δ]

-- A host after any number of calls, each of any number of ticks, and the entries of their trails.
inductive Called (start : Host ι δ) : Host ι δ → List (Console.Entry ι δ) → Prop where
  | created : Called start start []
  | call (h : Host ι δ) (made : List (Console.Entry ι δ)) (limit : Nat) (earlier : Called start h made) :
      Called start (h.run limit).1 (made ++ h.trail limit)

theorem run_config (h : Host ι δ) (limit : Nat) : (h.run limit).1.config = h.config := by
  have left := leaves_of_follow h limit _ _ rfl
  rw [left.config]
  exact (Console.follow_adds h.opening (h.agenda limit)).2.2

theorem run_cycles (h : Host ι δ) (limit : Nat) :
    (h.run limit).1.cycles = h.cycles + Console.successes (Console.steps (h.trail limit)) := by
  have left := leaves_of_follow h limit _ _ rfl
  rw [left.cycles]
  exact (Console.follow_adds h.opening (h.agenda limit)).2.1

theorem run_within (h : Host ι δ) (limit most : Nat) (limited : h.config.maxCycles = some most)
    (within : h.cycles ≤ most) : (h.run limit).1.cycles ≤ most := by
  have left := leaves_of_follow h limit _ _ rfl
  rw [left.cycles]
  exact (Console.follow_keeps (fun c => c.Within most) (Console.act_within most) h.opening (h.agenda limit)
    ⟨limited, within⟩).below

theorem called_config (start h : Host ι δ) (made : List (Console.Entry ι δ)) (called : Called start h made) :
    h.config = start.config := by
  induction called with
  | created => rfl
  | call h made limit _ ih => rw [run_config, ih]

theorem called_cycles (start h : Host ι δ) (made : List (Console.Entry ι δ)) (called : Called start h made)
    (created : start.cycles = 0) : h.cycles = Console.successes (Console.steps made) := by
  induction called with
  | created => exact created
  | call h made limit _ ih => rw [run_cycles, ih, Console.successes_append]

theorem called_within (start h : Host ι δ) (made : List (Console.Entry ι δ)) (called : Called start h made)
    (created : start.cycles = 0) (most : Nat) (limited : start.config.maxCycles = some most) : h.cycles ≤ most := by
  induction called with
  | created => omega
  | call h made limit earlier ih =>
      exact run_within h limit most (by rw [called_config start h made earlier, limited]) ih

theorem called_nonzero (start h : Host ι δ) (made : List (Console.Entry ι δ)) (called : Called start h made)
    (stops : start.config.stopAtProgramEnd = true) (m : Machine) (stepped : m ∈ Console.steps made) :
    m.fetchedWord ≠ some 0 := by
  induction called with
  | created => cases stepped
  | call h made limit earlier ih =>
      rw [Console.steps_append] at stepped
      rcases List.mem_append.mp stepped with before | inCall
      · exact ih before
      · have config := called_config start h made earlier
        exact Console.steps_nonzero h.opening (h.agenda limit) (by rw [← stops, ← config]; rfl) m inCall

def taken (h : Host ι δ) (limit : Nat) : List Action :=
  (h.trail limit).map Prod.snd

theorem stop_way (h : Host ι δ) (limit : Nat) (reason : Stop) (notQuit : reason ≠ .quit)
    (stopped : (h.run limit).2 = some (.ok reason)) :
    ∃ c first rest, (c, .attempt) ∈ h.trail limit ∧ h.agenda limit = first ++ .attempt :: rest ∧
      h.opening.follow first = (c, none) ∧ h.taken limit = first ++ [.attempt] ∧ c.reason? = some reason ∧
      c.shown = .ok () ∧ h.Leaves limit c.handed (some (.ok reason)) := by
  obtain ⟨before, c, action, final, split, way, left⟩ := exit_way h limit (.ok reason) stopped
  cases way with
  | quit => exact absurd rfl notQuit
  | stopped _ met shown =>
      obtain ⟨first, rest, actionsEq, followed, firstEq, _⟩ :=
        Console.trail_split h.opening c .attempt (h.agenda limit) before [] split
      refine ⟨c, first, rest, by simp [split], actionsEq, followed, ?_, met, shown, left⟩
      rw [taken, split, List.map_append, ← firstEq, Console.trail_actions h.opening c first followed]
      rfl

theorem stop_iff (h : Host ι δ) (limit : Nat) (reason : Stop) (notQuit : reason ≠ .quit) :
    (h.run limit).2 = some (.ok reason) ↔
      ∃ c, (c, .attempt) ∈ h.trail limit ∧ c.reason? = some reason ∧ c.shown = .ok () := by
  constructor
  · intro stopped
    obtain ⟨c, _, _, member, _, _, _, met, shown, _⟩ := stop_way h limit reason notQuit stopped
    exact ⟨c, member, met, shown⟩
  · intro stopped
    obtain ⟨c, member, met, shown⟩ := stopped
    exact (leaves_of_way h limit c _ .attempt _ member (.stopped reason met shown)).2.verdict

theorem trail_config (h : Host ι δ) (limit : Nat) (c : Console ι δ) (action : Action)
    (member : (c, action) ∈ h.trail limit) : c.config = h.config :=
  Console.trail_config h.opening c action (h.agenda limit) member

theorem limit_stop_iff (h : Host ι δ) (limit : Nat) :
    (h.run limit).2 = some (.ok .cycleLimit) ↔ ∃ c, (c, .attempt) ∈ h.trail limit ∧
      (∃ most, h.config.maxCycles = some most ∧ most ≤ c.cycles) ∧ c.shown = .ok () := by
  rw [stop_iff h limit .cycleLimit (by decide)]
  apply exists_congr
  intro c
  apply and_congr_right
  intro member
  rw [Console.reason_limit_iff, trail_config h limit c .attempt member]

theorem end_stop_iff (h : Host ι δ) (limit : Nat) :
    (h.run limit).2 = some (.ok .programEnd) ↔ ∃ c, (c, .attempt) ∈ h.trail limit ∧
      (∀ most, h.config.maxCycles = some most → c.cycles < most) ∧
      h.config.stopAtProgramEnd = true ∧ c.machine.fetchedWord = some 0 ∧ c.shown = .ok () := by
  rw [stop_iff h limit .programEnd (by decide)]
  apply exists_congr
  intro c
  apply and_congr_right
  intro member
  rw [Console.reason_end_iff, trail_config h limit c .attempt member]
  simp only [and_assoc]

theorem limit_met_in_time (h : Host ι δ) (limit most : Nat) (bound : h.rate + h.tickRate ≤ 0x100000000)
    (limited : h.config.maxCycles = some most) (within : h.cycles ≤ most)
    (stopped : (h.run limit).2 = some (.ok .cycleLimit)) :
    (h.run limit).1.cycles = most ∧
      (h.taken limit).count .poll = Action.due h.rate h.tickRate (most - h.cycles) ∧
      (h.taken limit).count .countdown + 1 = Action.due h.rate h.tickRate (most - h.cycles) := by
  obtain ⟨c, first, rest, member, split, followed, takenEq, met, _, left⟩ :=
    stop_way h limit .cycleLimit (by decide) stopped
  obtain ⟨other, otherLimited, reached⟩ := (Console.reason_limit_iff c).mp met
  rw [trail_config h limit c .attempt member] at otherLimited
  cases limited.symm.trans otherLimited
  have below := Console.trail_within h.opening c .attempt (h.agenda limit) most ⟨limited, within⟩ member
  have counted : c.cycles = h.cycles + first.count .attempt := (Console.follow_counts h.opening c first followed).2
  have number : first.count .attempt = most - h.cycles := by omega
  rw [agenda_scheduled h limit bound] at split
  obtain ⟨polls, countdowns, _⟩ := Action.before_attempt h.rate h.tickRate limit (tick_rate_pos h) first rest split
  rw [number] at polls countdowns
  refine ⟨?_, ?_, ?_⟩
  · rw [left.cycles]
    exact Nat.le_antisymm below reached
  · simp [takenEq, List.count_append, polls]
  · simp [takenEq, List.count_append, countdowns]

theorem limit_met (h : Host ι δ) (limit most : Nat) (bound : h.rate + h.tickRate ≤ 0x100000000)
    (limited : h.config.maxCycles = some most) (within : h.cycles ≤ most) (running : 0 < h.rate)
    (enough : Action.due h.rate h.tickRate (most - h.cycles) ≤ limit) : (h.run limit).2 ≠ none := by
  intro going
  cases followed : h.opening.follow (h.agenda limit) with
  | mk final verdict =>
      have left := leaves_of_follow h limit final verdict followed
      cases left.verdict.symm.trans going
      have below := run_within h limit most limited within
      have counted : final.cycles = h.cycles + (h.agenda limit).count .attempt :=
        (Console.follow_counts h.opening final (h.agenda limit) followed).2
      have attempts := (Action.due_le_iff h.rate h.tickRate _ limit running (tick_rate_pos h)).mp enough
      rw [agenda_scheduled h limit bound, Action.count_attempts] at counted
      rw [left.cycles] at below
      omega

theorem limit_not_met (h : Host ι δ) (limit : Nat) (bound : h.rate + h.tickRate ≤ 0x100000000) (still : h.rate = 0) :
    (h.run limit).2 ≠ some (.ok .cycleLimit) := by
  intro stopped
  obtain ⟨_, first, rest, _, split, _⟩ := stop_way h limit .cycleLimit (by decide) stopped
  have number := Action.count_attempts h.rate h.tickRate limit
  rw [← agenda_scheduled h limit bound, split, still] at number
  simp [List.count_append] at number

structure Limited (h : Host ι δ) (made : List (Console.Entry ι δ)) (limit : Nat) : Prop where
  counted : (h.run limit).1.cycles = Console.successes (Console.steps (made ++ h.trail limit))
  countedAt : ∀ before c action after, h.trail limit = before ++ (c, action) :: after →
    c.cycles = Console.successes (Console.steps (made ++ before))
  bounded : ∀ most, h.config.maxCycles = some most →
    (h.run limit).1.cycles ≤ most ∧ ∀ c action, (c, action) ∈ h.trail limit → c.cycles ≤ most
  atLimit : (h.run limit).2 = some (.ok .cycleLimit) → h.config.maxCycles = some (h.run limit).1.cycles
  reached : ∀ most, h.config.maxCycles = some most → 0 < h.rate →
    Action.due h.rate h.tickRate (most - h.cycles) ≤ limit →
    (∀ verdict, (h.run limit).2 = some verdict → verdict = .ok .cycleLimit) →
    (h.run limit).2 = some (.ok .cycleLimit)
  inTime : ∀ most, h.config.maxCycles = some most → (h.run limit).2 = some (.ok .cycleLimit) →
    (h.taken limit).count .poll = Action.due h.rate h.tickRate (most - h.cycles) ∧
      (h.taken limit).count .countdown + 1 = Action.due h.rate h.tickRate (most - h.cycles)
  still : h.rate = 0 → (h.run limit).2 ≠ some (.ok .cycleLimit)
  nonzero : h.config.stopAtProgramEnd = true →
    ∀ m ∈ Console.steps (made ++ h.trail limit), m.fetchedWord ≠ some 0
  limitFirst : (h.run limit).2 = some (.ok .cycleLimit) ↔ ∃ c, (c, .attempt) ∈ h.trail limit ∧
    (∃ most, h.config.maxCycles = some most ∧ most ≤ c.cycles) ∧ c.shown = .ok ()
  programEnd : (h.run limit).2 = some (.ok .programEnd) ↔ ∃ c, (c, .attempt) ∈ h.trail limit ∧
    (∀ most, h.config.maxCycles = some most → c.cycles < most) ∧
    h.config.stopAtProgramEnd = true ∧ c.machine.fetchedWord = some 0 ∧ c.shown = .ok ()

theorem cycle_limit_is_exact (start h : Host ι δ) (made : List (Console.Entry ι δ)) (limit : Nat)
    (created : start.cycles = 0) (bound : start.rate + start.tickRate ≤ 2 ^ 32) (called : Called start h made) :
    h.Limited made limit := by
  have config := called_config start h made called
  have rates : h.rate + h.tickRate ≤ 0x100000000 := by
    rw [rate, tickRate, config]
    exact bound
  have within : ∀ most, h.config.maxCycles = some most → h.cycles ≤ most := by
    intro most limited
    exact called_within start h made called created most (by rw [← config, limited])
  have next : Called start (h.run limit).1 (made ++ h.trail limit) := .call h made limit called
  exact
    { counted := called_cycles start _ _ next created
      countedAt := by
        intro before c action after split
        rw [Console.trail_cycles h.opening c action (h.agenda limit) before after split, Console.successes_append,
          ← called_cycles start h made called created]
        rfl
      bounded := by
        intro most limited
        refine ⟨run_within h limit most limited (within most limited), ?_⟩
        intro c action member
        exact Console.trail_within h.opening c action (h.agenda limit) most ⟨limited, within most limited⟩ member
      atLimit := by
        intro stopped
        obtain ⟨_, _, ⟨most, limited, _⟩, _⟩ := (limit_stop_iff h limit).mp stopped
        rw [(limit_met_in_time h limit most rates limited (within most limited) stopped).1, limited]
      reached := by
        intro most limited running enough others
        cases ended : (h.run limit).2 with
        | none => exact absurd ended (limit_met h limit most rates limited (within most limited) running enough)
        | some verdict => rw [others verdict ended]
      inTime := by
        intro most limited stopped
        exact (limit_met_in_time h limit most rates limited (within most limited) stopped).2
      still := limit_not_met h limit rates
      nonzero := by
        intro stops
        exact called_nonzero start _ _ next (by rw [← config, stops])
      limitFirst := limit_stop_iff h limit
      programEnd := end_stop_iff h limit }

-- The first call quits after two steps. The second one has one cycle left, so its second attempt, which is due in
-- its third tick, meets the limit.
def resumed : Host Script Recorder where
  config := { instructionsPerSecond := 2, timerHz := 3, maxCycles := some 3, stopAtProgramEnd := true }
  machine := { Machine.fresh .lenient (.ofSeed 0) with memory := ((Memory.fresh .lenient).load [0x12, 0x00]).1 }
  input := ⟨List.replicate 3 (.keys []) ++ .quit :: List.replicate 3 (.keys [])⟩
  display := {}

theorem second_call_meets_limit :
    (resumed.run 4).2 = some (.ok .quit) ∧ (resumed.run 4).1.cycles = 2 ∧
      ((resumed.run 4).1.run 3).2 = some (.ok .cycleLimit) ∧ ((resumed.run 4).1.run 3).1.cycles = 3 ∧
      ((resumed.run 4).1.taken 3).count .poll = 3 ∧ ((resumed.run 4).1.taken 3).count .countdown + 1 = 3 := by
  have bound : resumed.rate + resumed.tickRate ≤ 2 ^ 32 := by decide
  have called : Called resumed (resumed.run 4).1 (resumed.trail 4) := .call resumed [] 4 .created
  have second := cycle_limit_is_exact resumed (resumed.run 4).1 (resumed.trail 4) 3 rfl bound called
  have stopped : ((resumed.run 4).1.run 3).2 = some (.ok .cycleLimit) := by
    apply second.reached 3 rfl (by decide) (by decide)
    intro verdict ended
    exact (Option.some.inj ended).symm
  obtain ⟨polls, countdowns⟩ := second.inTime 3 rfl stopped
  exact ⟨rfl, rfl, stopped, (Option.some.inj (second.atLimit stopped)).symm, polls, countdowns⟩

end Host

end Chip8
