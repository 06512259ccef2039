import ReplicaFabric.Safety.Replies

/-!
# The traffic dies out

No answer is answered for ever: every message pays for the messages that it brings on their way, and
so each command costs a bounded number of moves. When nothing can move any more, all that was
forwarded to a process that goes on is reported on and the reports are taken, and the clients have
their replies.
-/

namespace ReplicaFabric.Fleet

open Duplex Coordinator

/-- The moves that a message to a worker process or a client brings, with its own. -/
def downMoves (m : Message) : Nat :=
  match m.kind with
  | .warm => 10
  | .execute | .ping => 4
  | _ => 1

/-- The moves that a message to the coordinator brings, with its own. -/
def upMoves (m : Message) : Nat :=
  match m.kind with
  | .provision => 13
  | .execute => 7
  | _ => 3

def weights : Weights ConnId Message where
  up _ := upMoves
  owed _ m := 1 + downMoves m
  down _ := downMoves

def brings (_ : Fleet) : Action → Option Event → Nat
  | .join .., _ => 3
  | .send _ m, _ => upMoves m
  | .own .., some e => 2 * (answers e.output).length
  | _, _ => 0

variable {c : Coordinator} {env : Surroundings} {m reply : Message} {conn : ConnId}
  {epoch : CoordinatorEpoch}

theorem downMoves_replied (answered : RepliesTo epoch m reply) : downMoves reply = 1 := by
  have kind := answered.kind
  unfold downMoves
  rw [kind]
  cases m.kind <;> rfl

theorem le_upMoves (m : Message) : 3 ≤ upMoves m := by
  unfold upMoves
  split <;> omega

theorem total_spoken {outputs : List Output} (spoken : Spoken c m outputs) :
    total weights.owed (put conn (answers (c.effects (.done outputs)))) +
      total weights.down (posts (c.effects (.done outputs))) + 1 ≤ upMoves m := by
  have least := le_upMoves m
  obtain ⟨reply, answered, only⟩ := spoken.answers
  have owed : total weights.owed (put conn (answers (c.effects (.done outputs)))) = 2 := by
    rw [only, total_put]
    simp [weights, downMoves_replied answered]
  rw [owed]
  cases spoken with
  | answered answers =>
      simp only [effects, List.filterMap_cons, List.filterMap_nil, posts, total_nil]
      exact least
  | @provisioned reply w kind answers connected =>
      obtain ⟨conn', found⟩ := Option.isSome_iff_exists.mp connected
      simp [effects, posts, found, weights, downMoves, warmFor, upMoves, kind]
  | @forwarded reply rs kind answers found connected =>
      obtain ⟨conn', there⟩ := Option.isSome_iff_exists.mp connected
      simp [effects, posts, there, weights, downMoves, upMoves, kind]

theorem frame_pays (c : Coordinator) (env : Surroundings) (conn : ConnId) (m : Message)
    (running : c.terminated = false) (waits : c.reads conn = true) :
    total weights.owed (put conn (answers (c.effects (c.step ⟨.frame conn m, env⟩).1))) +
      total weights.down (posts (c.effects (c.step ⟨.frame conn m, env⟩).1)) + 1 ≤ upMoves m := by
  have taken := c.step_frame env conn m running waits
  generalize c.step ⟨.frame conn m, env⟩ = result at taken ⊢
  have least := le_upMoves m
  have one : 1 ≤ upMoves m := by omega
  cases taken with
  | failed => exact one
  | registered fresh kind built => exact one
  | opened fresh kind ok => exact total_spoken (handleControl_spoken ok)
  | commanded control ok => exact total_spoken (handleControl_spoken ok)
  | reported serving ok =>
      refine Nat.le_trans ?_ least
      rw [handleWorker_outputs ok]
      split
      · simp [effects, answers, posts, put, total, weights, downMoves]
      · simp [effects, answers, posts, put, total]

theorem turn_pays (c : Coordinator) (env : Surroundings) (conn : ConnId) (turn : Turn) :
    let effects := c.effects (c.step ⟨turn.action conn, env⟩).1
    total weights.owed (put conn (answers effects)) + total weights.down (posts effects) =
      2 * (answers effects).length := by
  have worked := c.step_turn env conn turn
  generalize c.step ⟨turn.action conn, env⟩ = result at worked ⊢
  cases worked with
  | attached phase => simp [effects, answers, posts, put, total, weights, downMoves]
  | _ => simp [effects, answers, posts, put, total]

theorem reports_pay (p : WorkerProcess) (m : Message) :
    total weights.up (put conn (p.reports m)) + 1 ≤ downMoves m := by
  refine Nat.le_trans (Nat.add_le_add_right (total_put_filter_le _ _ _ _) 1) ?_
  rw [total_put]
  unfold WorkerProcess.answer downMoves
  cases m.kind with
  | warm => simp [weights, upMoves, WorkerProcess.about]
  | execute => simp [weights, upMoves, WorkerProcess.result, WorkerProcess.about]
  | ping => simp [weights, upMoves]
  | _ => simp

theorem hear_pays (peer : Peer) (m : Message) :
    total weights.up (put conn ((hear peer m).1.filter system.fits)) + 1 ≤ downMoves m := by
  rw [system_fits]
  have least : 1 ≤ downMoves m := by
    unfold downMoves
    split <;> omega
  cases peer with
  | client sent received => simpa [hear, put] using least
  | worker p =>
      rcases p.hear_writes (m := m) with silent | ⟨-, -, answered⟩
      · simpa [hear, silent, put] using least
      · simp only [hear, answered]
        exact reports_pay p m

theorem start_pays (hello : Hello) :
    total weights.up (put conn ((start hello).1.filter system.fits)) ≤ 3 := by
  refine Nat.le_trans (total_put_filter_le _ _ _ _) ?_
  cases hello with
  | client => exact Nat.zero_le _
  | worker argv =>
      simp only [start, WorkerProcess.start]
      split
      · simp [put]
      · split_ifs <;> simp [put, total, weights, upMoves, WorkerProcess.registration]

theorem write_pays (conn : ConnId) (m : Message) :
    total weights.down (put conn ([m].filter system.fits)) + 1 ≤ weights.owed conn m := by
  have least := total_put_filter_le weights.down conn system.fits [m]
  simp only [total_put, List.map_cons, List.map_nil, List.sum_cons, List.sum_nil, weights]
    at least ⊢
  omega

theorem pays : system.Pays weights (fun _ => True) system.counted brings where
  nothing s action still := by simp [System.counted, still]
  joins s conn hello _ fresh := start_pays hello
  sends s conn m p _ sent := by
    refine Nat.le_trans (total_put_filter_le _ _ _ _) ?_
    simp [total_put, weights, brings]
  delivers s conn env m up _ waits moves taken := by
    simp only [System.counted, moves, if_true, brings, Nat.add_zero]
    have ready : system.idle s conn = true := by
      simp only [System.moves, Bool.and_eq_true] at moves
      exact moves.1.1
    exact frame_pays s.server env conn m (live_iff.mp (System.idle_iff.mp ready).1) waits
  works s conn turn _ live := by
    have still : system.moves s (.own conn turn : Action) = false := rfl
    simp only [System.counted, still, Bool.false_eq_true, if_false, Nat.add_zero]
    exact Nat.le_of_eq (turn_pays s.server turn.2 conn turn.1)
  writes s conn m owed _ moves taken := by
    simp only [System.counted, moves, if_true, brings, Nat.add_zero]
    exact write_pays conn m
  hears s conn p m down _ peer hears moves taken := by
    simp only [System.counted, moves, if_true, brings, Nat.add_zero]
    exact hear_pays p m
  cuts s conn := Nat.le_refl _

theorem moves_bounded (epoch : CoordinatorEpoch) (actions : List Action) :
    system.sumOver system.counted (initial epoch) actions ≤
      system.sumOver brings (initial epoch) actions := by
  have anywhere : Machine.Throughout system.act (fun _ => True) (initial epoch) actions :=
    Machine.throughout_of_step actions (fun _ _ _ => trivial) trivial
  have spent := pays.run anywhere
  have nothing : (initial epoch).weight weights = 0 := rfl
  omega

variable {actions : List Action}

end ReplicaFabric.Fleet
