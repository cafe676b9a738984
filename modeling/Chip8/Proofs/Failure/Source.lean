import Mathlib.Data.List.Chain
import Chip8.Proofs.Failure.Message

set_option autoImplicit false

namespace Chip8

namespace Text

def ProperEnd (tail text : String) : Prop :=
  tail.toList <:+ text.toList ∧ tail ≠ text

theorem proper_end_append (front tail : String) (nonempty : front.toList ≠ []) : ProperEnd tail (front ++ tail) := by
  refine ⟨?_, ?_⟩
  · rw [String.toList_append]
    exact List.suffix_append _ _
  · intro same
    have letters := congrArg String.toList same
    rw [String.toList_append] at letters
    exact nonempty (List.append_left_eq_self.mp letters.symm)

end Text

-- What can stand below a failure: another one, or the i/o error that one holds.
inductive Cause where
  | failure (nested : Failure)
  | device (error : IoError)

namespace Cause

def source? : Cause → Option Cause
  | failure (.malformedProgram _ _ source) => some (failure source)
  | failure (.io error) => some (device error)
  | _ => none

def text : Cause → String
  | failure nested => nested.message
  | device error => error.text

def failure? : Cause → Option Failure
  | failure nested => some nested
  | device _ => none

inductive Chain : Cause → List Cause → Prop where
  | ended (cause : Cause) (none : cause.source? = none) : Chain cause []
  | under (cause next : Cause) (rest : List Cause) (source : cause.source? = some next) (more : Chain next rest) :
      Chain cause (next :: rest)

theorem chain_unique (cause : Cause) (causes others : List Cause) (first : Chain cause causes)
    (second : Chain cause others) : causes = others := by
  induction first generalizing others with
  | ended cause none =>
      cases second with
      | ended => rfl
      | under _ next rest source => rw [none] at source; cases source
  | under cause next rest source more ih =>
      cases second with
      | ended _ none => rw [source] at none; cases none
      | under _ other others same further =>
          have here : next = other := Option.some.inj (source.symm.trans same)
          subst here
          rw [ih others further]

end Cause

namespace Failure

open Text (ProperEnd proper_end_append)

def layers : Failure → Nat
  | malformedProgram _ _ source => source.layers + 1
  | _ => 0

theorem length_sources (failure : Failure) : failure.sources.length = failure.layers := by
  induction failure with
  | malformedProgram pc opcode source ih => exact congrArg Nat.succ ih
  | _ => rfl

theorem sources_chain (failure : Failure) :
    ∃ below, Cause.Chain (.failure failure) (failure.sources.map .failure ++ below) ∧
      below.filterMap Cause.failure? = [] := by
  induction failure with
  | malformedProgram pc opcode source ih =>
      obtain ⟨below, chain, devices⟩ := ih
      exact ⟨below, .under _ (.failure source) _ rfl chain, devices⟩
  | io error => exact ⟨[.device error], .under _ (.device error) _ rfl (.ended _ rfl), rfl⟩
  | _ => exact ⟨[], .ended _ rfl, rfl⟩

theorem source_ends_message (pc opcode : UInt16) (source : Failure) :
    ProperEnd source.message (malformedProgram pc opcode source).message := by
  apply proper_end_append
    ("malformed program at " ++ hexAddress pc ++ " (opcode " ++ hexAddress opcode ++ "): ") source.message
  rw [String.toList_append]
  exact List.append_ne_nil_of_right_ne_nil _ (by decide)

theorem sources_end_messages (failure : Failure) :
    List.IsChain (fun upper lower => ProperEnd lower upper) (failure.message :: failure.sources.map message) := by
  induction failure with
  | malformedProgram pc opcode source ih =>
      exact List.isChain_cons_cons.mpr ⟨source_ends_message pc opcode source, ih⟩
  | _ => exact List.isChain_singleton _

theorem trail_causes (failure : Failure) :
    ∃ causes, Cause.Chain (.failure failure) causes ∧ failure.trail = causes.map Cause.text := by
  induction failure with
  | malformedProgram pc opcode source ih =>
      obtain ⟨causes, chain, told⟩ := ih
      exact ⟨_, .under _ (.failure source) causes rfl chain, congrArg (source.message :: ·) told⟩
  | io error => exact ⟨[.device error], .under _ (.device error) _ rfl (.ended _ rfl), rfl⟩
  | _ => exact ⟨[], .ended _ rfl, rfl⟩

theorem trail_told (failure : Failure) : failure.trail.take failure.layers = failure.sources.map message := by
  induction failure with
  | malformedProgram pc opcode source ih => exact congrArg (source.message :: ·) ih
  | _ => rfl

theorem messages_tell_failures_apart :
    (∀ a b : Failure, a.message = b.message ↔ a.inWords = b.inWords) ∧
    ∀ failure : Failure,
      (∃ below, below.filterMap Cause.failure? = [] ∧ ∀ causes, Cause.Chain (.failure failure) causes ↔
        causes = failure.sources.map .failure ++ below) ∧
      failure.sources.length = failure.layers ∧
      failure.trail.take failure.layers = failure.sources.map message ∧
      List.IsChain (fun upper lower => ProperEnd lower upper) (failure.message :: failure.sources.map message) := by
  refine ⟨message_eq_iff, ?_⟩
  intro failure
  obtain ⟨below, chain, devices⟩ := sources_chain failure
  refine ⟨⟨below, devices, ?_⟩, length_sources failure, trail_told failure, sources_end_messages failure⟩
  intro causes
  constructor
  · intro other
    exact Cause.chain_unique _ _ _ other chain
  · intro same
    rw [same]
    exact chain

end Failure

end Chip8
