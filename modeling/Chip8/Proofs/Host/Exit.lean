import Mathlib.Data.List.Basic
import Chip8.Host.Scripted
import Chip8.Proofs.Host.Trail

set_option autoImplicit false

namespace Chip8

namespace Action

theorem round_eq (n : Nat) : round n = (.poll :: List.replicate n .attempt ++ [.countdown]) ++ .draw :: [] := by
  simp [round]

theorem rounds_split (clock : Clock) (count : Nat) (action : Action) (first rest : List Action)
    (split : (clock.batches count).flatMap round = first ++ action :: rest) :
    ∃ k n inner outer, clock.batches (k + 1) = clock.batches k ++ [n] ∧ round n = inner ++ action :: outer ∧
      first = (clock.batches k).flatMap round ++ inner := by
  induction count generalizing rest with
  | zero => simp [Clock.batches] at split
  | succ count ih =>
      obtain ⟨n, more⟩ := Clock.batches_succ count clock
      rw [more, List.flatMap_append, List.flatMap_singleton] at split
      rcases List.append_eq_append_iff.mp split with ⟨middle, before, here⟩ | ⟨middle, earlier, after⟩
      · exact ⟨count, n, middle, rest, more, here, before⟩
      · cases middle with
        | nil =>
            rw [List.append_nil] at earlier
            exact ⟨count, n, [], rest, more, after.symm, by rw [earlier, List.append_nil]⟩
        | cons next tail =>
            obtain ⟨same, _⟩ := List.cons.inj after
            subst same
            exact ih tail earlier

theorem round_of_draw (clock : Clock) (count : Nat) (first rest : List Action)
    (split : (clock.batches count).flatMap round = first ++ .draw :: rest) :
    ∃ k, first ++ [.draw] = (clock.batches (k + 1)).flatMap round := by
  obtain ⟨k, n, inner, outer, more, inRound, firstEq⟩ := rounds_split clock count .draw first rest split
  have notBefore : Action.draw ∉ .poll :: List.replicate n .attempt ++ [.countdown] := by simp
  have whole := inRound
  rw [round_eq] at inRound
  obtain ⟨_, _, nothing⟩ := (List.append_cons_inj_of_notMem notBefore List.not_mem_nil).mp inRound
  subst nothing
  refine ⟨k, ?_⟩
  rw [more, List.flatMap_append, List.flatMap_singleton, whole, firstEq, List.append_assoc]

theorem rounds_before_poll (clock : Clock) (count : Nat) (first rest : List Action)
    (split : (clock.batches count).flatMap round = first ++ .poll :: rest) :
    ∃ k, first = (clock.batches k).flatMap round := by
  obtain ⟨k, n, inner, outer, _, inRound, firstEq⟩ := rounds_split clock count .poll first rest split
  have notAfter : Action.poll ∉ List.replicate n .attempt ++ [.countdown, .draw] := by simp
  cases inner with
  | nil => exact ⟨k, by rw [firstEq, List.append_nil]⟩
  | cons next tail =>
      obtain ⟨_, inBatch⟩ := List.cons.inj inRound
      rw [inBatch] at notAfter
      simp at notAfter

theorem rounds_end (clock : Clock) (k : Nat) :
    ∃ earlier, (clock.batches (k + 1)).flatMap round = earlier ++ [.countdown] ++ [.draw] := by
  obtain ⟨n, more⟩ := Clock.batches_succ k clock
  rw [more, List.flatMap_append, List.flatMap_singleton, round_eq, ← List.append_assoc, ← List.append_assoc]
  exact ⟨_, rfl⟩

end Action

namespace Console

variable {ι δ : Type}

-- The screens at the end of the completed ticks: those before a draw that follows a countdown.
def completed (entries : List (Entry ι δ)) : List Screen :=
  entries.filterMap fun entry => if entry.2 = .draw then some entry.1.machine.screen else none

theorem completed_append (first second : List (Entry ι δ)) :
    completed (first ++ second) = completed first ++ completed second :=
  List.filterMap_append

theorem screens_going (entries : List (Entry ι δ))
    (unmet : ∀ c, (c, .attempt) ∈ entries → c.reason? = none) : screens entries = completed entries := by
  apply List.filterMap_congr
  intro entry member
  obtain ⟨c, action⟩ := entry
  cases action with
  | attempt => simp [screen?, unmet c member]
  | _ => rfl

variable [Input ι] [Display δ]

theorem ended_of_reason (c : Console ι δ) (reason : Stop) (met : c.reason? = some reason) :
    ∃ verdict, c.act .attempt = (c.handed, some verdict) := by
  rw [act_reason c reason met]
  cases shown : c.shown with
  | ok => exact ⟨_, draw_then_shown c _ shown⟩
  | error error => exact ⟨_, draw_then_unshown c _ error shown⟩

-- What has an entry behind it did not end the call, so that no attempt in it met a reason to stop.
theorem screens_before (c here : Console ι δ) (action : Action) (actions : List Action)
    (before after : List (Entry ι δ)) (split : c.trail actions = before ++ (here, action) :: after) :
    screens before = completed before := by
  apply screens_going
  intro earlier member
  cases met : earlier.reason? with
  | none => rfl
  | some reason =>
      obtain ⟨verdict, ended⟩ := ended_of_reason earlier reason met
      obtain ⟨first, middle, beforeEq⟩ := List.append_of_mem member
      rw [beforeEq, List.append_assoc] at split
      have nothing := ended_is_last c earlier _ _ actions verdict first _ split ended
      simp at nothing

end Console

namespace Host

variable {ι δ : Type} [Input ι] [Display δ]

def completed (h : Host ι δ) (limit : Nat) : List Screen :=
  Console.completed (h.trail limit)

def StopReached (h : Host ι δ) (limit : Nat) : Prop :=
  ∃ c, (c, .attempt) ∈ h.trail limit ∧ c.reason? ≠ none

theorem leaves_of_ended (h : Host ι δ) (limit : Nat) (here final : Console ι δ) (action : Action) (verdict : Verdict)
    (member : (here, action) ∈ h.trail limit) (ended : here.act action = (final, some verdict)) :
    h.Leaves limit final (some verdict) ∧ (h.trail limit).getLast? = some (here, action) := by
  obtain ⟨followed, last⟩ := Console.follow_of_ended h.opening here final action (h.agenda limit) verdict member ended
  exact ⟨leaves_of_follow h limit final (some verdict) followed, last⟩

theorem film_screens (h : Host ι δ) (limit : Nat) : h.film limit = Console.screens (h.trail limit) := by
  have left := leaves_of_follow h limit _ _ rfl
  rw [left.film, (Console.follow_adds h.opening (h.agenda limit)).1]
  exact List.nil_append _

theorem film_unstopped (h : Host ι δ) (limit : Nat) (unstopped : ¬ h.StopReached limit) :
    h.film limit = h.completed limit := by
  rw [film_screens]
  apply Console.screens_going
  intro c member
  cases met : c.reason? with
  | none => rfl
  | some reason => exact absurd ⟨c, member, by simp [met]⟩ unstopped

theorem film_stopped (h : Host ι δ) (limit : Nat) (stopped : h.StopReached limit) :
    h.film limit = h.completed limit ++ [(h.run limit).1.machine.screen] := by
  obtain ⟨c, member, met⟩ := stopped
  obtain ⟨reason, met⟩ := Option.ne_none_iff_exists'.mp met
  obtain ⟨verdict, ended⟩ := Console.ended_of_reason c reason met
  obtain ⟨before, after, split⟩ := List.append_of_mem member
  have nothing := Console.ended_is_last h.opening c _ _ (h.agenda limit) verdict before after split ended
  subst nothing
  obtain ⟨left, _⟩ := leaves_of_ended h limit c c.handed .attempt verdict member ended
  have sameScreens := Console.screens_before h.opening c .attempt (h.agenda limit) before [] split
  have last : Console.screens [(c, Action.attempt)] = [c.machine.screen] := by
    simp [Console.screens, Console.screen?, met]
  have noMore : Console.completed [(c, Action.attempt)] = [] := rfl
  rw [film_screens, completed, split, Console.screens_append, Console.completed_append, last, noMore, sameScreens,
    List.append_nil, left.machine]
  rfl

theorem tick_before_draw (h : Host ι δ) (limit : Nat) (c : Console ι δ) (before after : List (Console.Entry ι δ))
    (split : h.trail limit = before ++ (c, .draw) :: after) :
    (∃ k, before.map Prod.snd ++ [.draw] = h.agenda (k + 1)) ∧
      ∃ earlier ran, before = earlier ++ [(ran, .countdown)] ∧ c = { ran with machine := ran.machine.tick } := by
  obtain ⟨rest, order⟩ := Console.trail_order h.opening c .draw (h.agenda limit) before after split
  obtain ⟨k, whole⟩ := Action.round_of_draw h.clock limit _ rest order
  refine ⟨⟨k, whole⟩, ?_⟩
  obtain ⟨others, ending⟩ := Action.rounds_end h.clock k
  have counted := List.append_cancel_right (whole.trans ending)
  obtain ⟨earlier, ran, beforeEq, ticked⟩ :=
    Console.trail_previous h.opening c .draw .countdown (h.agenda limit) others before after split counted
  exact ⟨earlier, ran, beforeEq, (Prod.mk.inj ticked).1.symm⟩

theorem draw_before_poll (h : Host ι δ) (limit : Nat) (c : Console ι δ) (before after : List (Console.Entry ι δ))
    (split : h.trail limit = before ++ (c, .poll) :: after) :
    before = [] ∨ ∃ earlier drawn, before = earlier ++ [(drawn, .draw)] ∧ c = drawn.handed := by
  obtain ⟨rest, order⟩ := Console.trail_order h.opening c .poll (h.agenda limit) before after split
  obtain ⟨k, whole⟩ := Action.rounds_before_poll h.clock limit _ rest order
  cases k with
  | zero => exact .inl (List.map_eq_nil_iff.mp whole)
  | succ k =>
      obtain ⟨others, ending⟩ := Action.rounds_end h.clock k
      obtain ⟨earlier, drawn, beforeEq, went⟩ :=
        Console.trail_previous h.opening c .poll .draw (h.agenda limit) _ before after split (whole.trans ending)
      have way := drawn.act_way .draw
      rw [went] at way
      cases way
      exact .inr ⟨earlier, drawn, beforeEq, rfl⟩

theorem leaves_of_way (h : Host ι δ) (limit : Nat) (here final : Console ι δ) (action : Action) (verdict : Verdict)
    (member : (here, action) ∈ h.trail limit) (way : Console.ActWay here action (final, some verdict)) :
    (h.trail limit).getLast? = some (here, action) ∧ h.Leaves limit final (some verdict) := by
  obtain ⟨left, last⟩ := leaves_of_ended h limit here final action verdict member (here.act_of_way action _ way)
  exact ⟨last, left⟩

theorem exit_way (h : Host ι δ) (limit : Nat) (verdict : Verdict) (ended : (h.run limit).2 = some verdict) :
    ∃ before here action final, h.trail limit = before ++ [(here, action)] ∧
      Console.ActWay here action (final, some verdict) ∧ h.Leaves limit final (some verdict) := by
  cases followed : h.opening.follow (h.agenda limit) with
  | mk final other =>
      have left := leaves_of_follow h limit final other followed
      cases left.verdict.symm.trans ended
      obtain ⟨before, here, action, trailEq, last⟩ := Console.follow_last h.opening final _ verdict followed
      have way := here.act_way action
      rw [last] at way
      exact ⟨before, here, action, final, trailEq, way, left⟩

theorem last_frame (h : Host ι δ) (limit : Nat) (reason : Stop) (stopped : (h.run limit).2 = some (.ok reason))
    (ticked : reason = .quit → h.completed limit ≠ []) :
    (h.film limit).getLast? = some (h.run limit).1.machine.screen := by
  obtain ⟨before, here, action, final, split, way, left⟩ := exit_way h limit (.ok reason) stopped
  rw [left.film, left.machine]
  cases way with
  | stopped => exact List.getLast?_concat
  | quit =>
      rcases draw_before_poll h limit here before [] split with opening | ⟨earlier, drawn, _, rfl⟩
      · have nothing : h.completed limit = [] := by
          rw [completed, split, opening]
          rfl
        exact absurd nothing (ticked rfl)
      · exact List.getLast?_concat

structure Accounted (h : Host ι δ) (limit : Nat) : Prop where
  ticks : ∀ before c after, h.trail limit = before ++ (c, .draw) :: after →
    (∃ k, before.map Prod.snd ++ [.draw] = h.agenda (k + 1)) ∧
      ∃ earlier ran, before = earlier ++ [(ran, .countdown)] ∧ c = { ran with machine := ran.machine.tick }
  unstopped : ¬ h.StopReached limit → h.film limit = h.completed limit
  stopped : h.StopReached limit → h.film limit = h.completed limit ++ [(h.run limit).1.machine.screen]
  lastFrame : ∀ reason, (h.run limit).2 = some (.ok reason) → (reason = .quit → h.completed limit ≠ []) →
    (h.film limit).getLast? = some (h.run limit).1.machine.screen
  fault : ∀ c failure, (c, .attempt) ∈ h.trail limit → c.reason? = none → c.machine.step.result = .error failure →
    (∃ source, failure = .malformedProgram c.machine.pc (c.machine.fetchedWord.getD 0) source) ∧
      (h.trail limit).getLast? = some (c, .attempt) ∧
      h.Leaves limit
        { c with machine := { c.machine with lastOpcode := c.machine.fetchedWord.getD c.machine.lastOpcode } }
        (some (.error failure))
  quit : ∀ c, (c, .poll) ∈ h.trail limit → c.polled.control = .ok .quit →
    (h.trail limit).getLast? = some (c, .poll) ∧ h.Leaves limit c.heard (some (.ok .quit))
  pollFailure : ∀ c error, (c, .poll) ∈ h.trail limit → c.polled.control = .error error →
    (h.trail limit).getLast? = some (c, .poll) ∧ h.Leaves limit c.heard (some (.error (.io error)))
  stop : ∀ c reason, (c, .attempt) ∈ h.trail limit → c.reason? = some reason → c.shown = .ok () →
    (h.trail limit).getLast? = some (c, .attempt) ∧ h.Leaves limit c.handed (some (.ok reason))
  stopDrawFailure : ∀ c reason error, (c, .attempt) ∈ h.trail limit → c.reason? = some reason →
    c.shown = .error error →
    (h.trail limit).getLast? = some (c, .attempt) ∧ h.Leaves limit c.handed (some (.error (.io error)))
  drawFailure : ∀ c error, (c, .draw) ∈ h.trail limit → c.shown = .error error →
    (h.trail limit).getLast? = some (c, .draw) ∧ h.Leaves limit c.handed (some (.error (.io error)))
  exits : ∀ verdict, (h.run limit).2 = some verdict → ∃ before here action final,
    h.trail limit = before ++ [(here, action)] ∧ Console.ActWay here action (final, some verdict) ∧
      h.Leaves limit final (some verdict)

theorem every_exit_is_accounted (h : Host ι δ) (limit : Nat) : h.Accounted limit where
  ticks before c after split := tick_before_draw h limit c before after split
  unstopped := film_unstopped h limit
  stopped := film_stopped h limit
  lastFrame := last_frame h limit
  fault c failure member unmet result := by
    refine ⟨Machine.fault_payload c.machine failure result, ?_⟩
    rw [← Machine.fault_machine c.machine failure result]
    exact leaves_of_way h limit c _ .attempt _ member (.faulted unmet failure result)
  quit c member polled := leaves_of_way h limit c _ .poll _ member (.quit polled)
  pollFailure c error member polled := leaves_of_way h limit c _ .poll _ member (.unheard error polled)
  stop c reason member met shown := leaves_of_way h limit c _ .attempt _ member (.stopped reason met shown)
  stopDrawFailure c reason error member met shown :=
    leaves_of_way h limit c _ .attempt _ member (.unstopped reason met error shown)
  drawFailure c error member shown := leaves_of_way h limit c _ .draw _ member (.undrawn error shown)
  exits verdict := exit_way h limit verdict

def refusing : Host Script Recorder where
  config := { instructionsPerSecond := 2, timerHz := 3, maxCycles := some 0 }
  machine := Machine.fresh .lenient (.ofSeed 0)
  input := ⟨List.replicate 3 (.keys [])⟩
  display := { failsAt := some 1 }

theorem refused_frame_is_the_verdict :
    (refusing.run 3).2 = some (.error (.io (.told "display gone"))) ∧ (refusing.film 3).length = 2 := by
  let c := (refusing.opening.follow (Action.round 0 ++ [.poll])).1
  have last : (refusing.trail 3).getLast? = some (c, .attempt) := rfl
  have met : c.reason? = some .cycleLimit := rfl
  have shown : c.shown = .error (.told "display gone") := rfl
  obtain ⟨_, left⟩ :=
    (every_exit_is_accounted refusing 3).stopDrawFailure c .cycleLimit _ (List.mem_of_getLast? last) met shown
  refine ⟨left.verdict, ?_⟩
  rw [left.film]
  rfl

end Host

end Chip8
