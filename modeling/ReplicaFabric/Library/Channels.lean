import Mathlib.Logic.Function.Basic
import ReplicaFabric.Library.Machine

/-!
# Machines behind FIFO channels

Some inputs of a machine come over channels: a message is sent at one step and handed to the
machine at a later one, in the order of sending. Steps of different channels, and inputs that
come over none, interleave in any order. A message is stamped when it is sent with what is read
off the state then; the machine never sees the stamp.
-/

namespace Channels

variable {σ ι ο κ μ τ α : Type*}

structure Sent (μ τ : Type*) where
  message : μ
  stamp : τ
  deriving DecidableEq

structure State (σ κ μ τ : Type*) where
  machine : σ
  inFlight : κ → List (Sent μ τ)

def State.idle (s : σ) : State σ κ μ τ := ⟨s, fun _ => []⟩

inductive Action (ι κ μ α : Type*)
  | send (channel : κ) (message : μ)
  /-- The first message of the channel reaches the machine, if there is one. -/
  | deliver (channel : κ) (env : α)
  | direct (input : ι)

structure System (σ ι ο κ μ τ α : Type*) where
  step : σ → ι → ο × σ
  receive : κ → μ → α → ι
  stamp : σ → μ → τ

namespace System

variable (sys : System σ ι ο κ μ τ α)

variable [DecidableEq κ]

def act (s : State σ κ μ τ) : Action ι κ μ α → Option ο × State σ κ μ τ
  | .send channel message =>
      let sent : Sent μ τ := ⟨message, sys.stamp s.machine message⟩
      (none, { s with
        inFlight := Function.update s.inFlight channel (s.inFlight channel ++ [sent]) })
  | .deliver channel env =>
      match s.inFlight channel with
      | [] => (none, s)
      | sent :: rest =>
          let (output, next) := sys.step s.machine (sys.receive channel sent.message env)
          (some output, ⟨next, Function.update s.inFlight channel rest⟩)
  | .direct input =>
      let (output, next) := sys.step s.machine input
      (some output, { s with machine := next })

def handed (s : State σ κ μ τ) : Action ι κ μ α → Option ι
  | .send _ _ => none
  | .deliver channel env =>
      (s.inFlight channel).head?.map fun sent => sys.receive channel sent.message env
  | .direct input => some input

theorem act_machine (s : State σ κ μ τ) (action : Action ι κ μ α) :
    (sys.act s action).2.machine =
      Machine.run sys.step s.machine (sys.handed s action).toList := by
  cases action with
  | send channel message => rfl
  | deliver channel env =>
      unfold act handed
      dsimp only
      cases s.inFlight channel <;> rfl
  | direct input => rfl

theorem run_refines (s : State σ κ μ τ) (actions : List (Action ι κ μ α)) :
    ∃ inputs, (Machine.run sys.act s actions).machine =
      Machine.run sys.step s.machine inputs := by
  induction actions generalizing s with
  | nil => exact ⟨[], rfl⟩
  | cons action actions ih =>
      obtain ⟨later, rest⟩ := ih (sys.act s action).2
      refine ⟨(sys.handed s action).toList ++ later, ?_⟩
      rw [Machine.run_cons, rest, act_machine, Machine.run_append]

end System

end Channels
