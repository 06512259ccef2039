import Mathlib.Data.List.Forall2
import ReplicaFabric.Safety.Conservation

namespace ReplicaFabric.Fleet

open Duplex Coordinator

variable {Sends : ConnId → Message → Prop} {epoch : CoordinatorEpoch} {c next : Coordinator}
  {conn : ConnId} {l : Link} {sent received : List Message} {m : Message}

structure Exchange (epoch : CoordinatorEpoch) (c : Coordinator) (sent received : List Message)
    (l : Link) (handled rest replies : List Message) : Prop where
  sent : sent.filter Message.fits = handled ++ rest
  replied : List.Forall₂ (RepliesTo epoch) handled replies
  received : received ++ l.down ++ l.owed.filter Message.fits = replies.filter Message.fits
  /-- While the coordinator is up, the other commands are on their way to it. -/
  rest : c.terminated = false → rest = l.up

/-- Of the clients that leave `REGISTER` to the worker processes. -/
def Exchanges (Sends : ConnId → Message → Prop) (epoch : CoordinatorEpoch) (c : Coordinator)
    (conn : ConnId) (l : Link) : Prop :=
  c.epoch = epoch ∧ ((∀ m, Sends conn m → m.kind ≠ .register) →
    ∀ sent received, l.peer = some (.client sent received) →
      ∃ handled rest replies, Exchange epoch c sent received l handled rest replies)

namespace Exchange

variable {handled rest replies : List Message}

theorem idle (exchange : Exchange epoch c sent received l handled rest replies)
    (running : next.terminated = false → c.terminated = false) {l' : Link} (up : l'.up = l.up)
    (owed : l'.owed = l.owed) (down : l'.down = l.down) :
    Exchange epoch next sent received l' handled rest replies where
  sent := exchange.sent
  replied := exchange.replied
  received := by rw [owed, down, exchange.received]
  rest up' := by rw [up, exchange.rest (running up')]

theorem answers {up : List Message} {reply : Message}
    (exchange : Exchange epoch c sent received l handled rest replies) (first : l.up = m :: up)
    (running : c.terminated = false) (settled : l.owed = []) (answered : RepliesTo epoch m reply) :
    Exchange epoch next sent received { l with up := up, owed := [reply] } (handled ++ [m]) up
      (replies ++ [reply]) where
  sent := by rw [exchange.sent, exchange.rest running, first, List.append_assoc]; rfl
  replied := List.rel_append exchange.replied (.cons answered .nil)
  received := by
    have before := exchange.received
    rw [settled, List.filter_nil, List.append_nil] at before
    rw [before, List.filter_append]
  rest _ := rfl

end Exchange

theorem OfClient.absent (ofClient : OfClient Sends c conn l)
    (leaves : ∀ m, Sends conn m → m.kind ≠ .register) (reg : WorkerRegistration) :
    c.phases[conn]? ≠ some (.serving reg) ∧ c.phases[conn]? ≠ some (.unregistered reg) := by
  constructor <;>
    · intro phase
      have held := ofClient.unregistered leaves
      simp [holds, phase, Phase.holds] at held

theorem exchange_frame (leaves : ∀ m, Sends conn m → m.kind ≠ .register)
    (agrees : c.TableAgrees) (ofClient : OfClient Sends c conn l)
    {handled rest replies up : List Message}
    (exchange : Exchange c.epoch c sent received l handled rest replies) (settled : l.owed = [])
    (running : c.terminated = false) (env : Surroundings) (first : l.up = m :: up)
    (waits : c.reads conn = true) :
    ∃ handled rest replies, Exchange c.epoch (c.step ⟨.frame conn m, env⟩).2 sent received
      (l.serve conn up (serve c ⟨.frame conn m, env⟩).1) handled rest replies := by
  have taken := c.step_frame env conn m running waits
  have silent := postsTo_eq_nil agrees (c.step ⟨.frame conn m, env⟩).1 (ofClient.absent leaves)
  have effects : (serve c ⟨.frame conn m, env⟩).1 = c.effects (c.step ⟨.frame conn m, env⟩).1 := rfl
  rw [effects]
  generalize c.step ⟨.frame conn m, env⟩ = result at taken silent ⊢
  have speaks {outputs : List Output} {after : Coordinator} (spoken : Spoken c m outputs)
      (silent : postsTo (c.effects (.done outputs)) conn = []) :
      ∃ handled rest replies, Exchange c.epoch after sent received
        (l.serve conn up (c.effects (.done outputs))) handled rest replies := by
    obtain ⟨reply, answered, only⟩ := spoken.answers
    refine ⟨handled ++ [m], up, replies ++ [reply], ?_⟩
    have exchanged : Exchange c.epoch after sent received _ _ _ _ :=
      exchange.answers first running settled answered
    simpa [Link.serve, silent, only] using exchanged
  cases taken with
  | failed =>
      refine ⟨handled, rest, replies, exchange.sent, exchange.replied, ?_, fun running => ?_⟩
      · have before := exchange.received
        rw [settled] at before
        rw [← before]
        simp [Link.serve, Coordinator.effects, Duplex.answers, postsTo, posts]
      · cases running
  | registered fresh kind built =>
      exact absurd kind (leaves m (ofClient.sends m (by simp [first])))
  | opened fresh kind ok => exact speaks (handleControl_spoken ok) silent
  | commanded control ok => exact speaks (handleControl_spoken ok) silent
  | @reported reg outputs after serving ok => exact absurd serving (ofClient.absent leaves reg).1

theorem turn_unanswered (ofClient : OfClient Sends c conn l)
    (leaves : ∀ m, Sends conn m → m.kind ≠ .register) (turn : Turn) (env : Surroundings) :
    answers (c.effects (c.step ⟨turn.action conn, env⟩).1) = [] := by
  have worked := c.step_turn env conn turn
  generalize c.step ⟨turn.action conn, env⟩ = result at worked ⊢
  cases worked with
  | attached phase =>
      have held := ofClient.unregistered leaves
      simp [holds, phase, Phase.holds] at held
  | _ => rfl

theorem exchanges_keeps (epoch : CoordinatorEpoch) :
    system.Keeps Sends (Known Sends) fun _ => Exchanges Sends epoch where
  joins past c conn l hello known now absent := by
    refine ⟨now.1, fun leaves sent received peer => ?_⟩
    cases hello with
    | worker argv => cases peer
    | client =>
        cases peer
        have unused := known.orderly.unused absent
        refine ⟨[], [], [], rfl, .nil, ?_, fun _ => ?_⟩
        · simp [System.move, unused.down, unused.owed]
        · rw [move_up, unused.up]
          rfl
  sends past c conn l peer peer' m known now named sent allowed := by
    refine ⟨now.1, fun leaves sent' received' peer'' => ?_⟩
    cases peer with
    | worker p => cases sent
    | client before received =>
        obtain rfl := Option.some.inj sent
        obtain ⟨rfl, rfl⟩ := Peer.client.inj (Option.some.inj peer'')
        obtain ⟨handled, rest, replies, exchange⟩ := now.2 leaves before received named
        refine ⟨handled, rest ++ [m].filter Message.fits, replies, ?_, exchange.replied,
          exchange.received, fun running => ?_⟩
        · rw [List.filter_append, exchange.sent, List.append_assoc]
        · rw [move_up, exchange.rest running]
  serves past c conn l input up known now settled live source := by
    have running := live_iff.mp live
    obtain ⟨rfl, now⟩ := now
    refine ⟨c.step_epoch input, fun leaves sent received peer => ?_⟩
    obtain ⟨handled, rest, replies, exchange⟩ := now leaves sent received peer
    have ofClient := known.orderly.client peer
    cases source with
    | received m up env first waits =>
        exact exchange_frame leaves known.agrees ofClient exchange settled running env first waits
    | own turn =>
        have silent := postsTo_eq_nil known.agrees (c.step ⟨turn.1.action conn, turn.2⟩).1
          (ofClient.absent leaves)
        refine ⟨handled, rest, replies, exchange.idle (fun up => ?_) rfl ?_ ?_⟩
        · exact running
        · exact (turn_unanswered ofClient leaves turn.1 turn.2).trans settled.symm
        · exact (congrArg (l.down ++ ·) silent).trans (List.append_nil _)
  elsewhere past c conn l other l' input up known now _ _ mine settled live source := by
    obtain ⟨rfl, now⟩ := now
    refine ⟨c.step_epoch input, fun leaves sent received peer => ?_⟩
    obtain ⟨handled, rest, replies, exchange⟩ := now leaves sent received peer
    have silent := postsTo_eq_nil known.agrees (c.step input).1
      ((known.orderly.client peer).absent leaves)
    refine ⟨handled, rest, replies, exchange.idle (fun up => live_iff.mp live) rfl rfl ?_⟩
    exact (congrArg (l.down ++ ·) silent).trans (List.append_nil _)
  writes past c conn l m owed known now first := by
    refine ⟨now.1, fun leaves sent received peer => ?_⟩
    obtain ⟨handled, rest, replies, exchange⟩ := now.2 leaves sent received peer
    refine ⟨handled, rest, replies, exchange.sent, exchange.replied, ?_, exchange.rest⟩
    have before := exchange.received
    rw [first, ← List.singleton_append, List.filter_append] at before
    rw [← before]
    simp only [List.append_assoc]
    rfl
  hears past c conn l peer m down known now named hears first := by
    refine ⟨now.1, fun leaves sent received peer' => ?_⟩
    cases peer with
    | worker p => cases peer'
    | client sent before =>
        cases peer'
        obtain ⟨handled, rest, replies, exchange⟩ := now.2 leaves sent before named
        refine ⟨handled, rest, replies, exchange.sent, exchange.replied, ?_, fun running => ?_⟩
        · have heard := exchange.received
          rw [first] at heard
          simpa [System.move] using heard
        · rw [exchange.rest running, move_up]
          exact (List.append_nil _).symm
  cuts past c conn l peer known now named := by
    refine ⟨now.1, fun leaves sent received peer' => ?_⟩
    cases peer with
    | worker p => cases peer'
    | client before earlier =>
        cases peer'
        obtain ⟨handled, rest, replies, exchange⟩ := now.2 leaves sent received named
        refine ⟨handled, rest, replies, exchange.idle id ?_ rfl rfl⟩
        rw [move_up]
        exact List.append_nil _

theorem exchange_run (actions : List Action) (conn : ConnId)
    (leaves : ∀ m, .send conn m ∈ actions → m.kind ≠ .register) (sent received : List Message)
    (peer : (run epoch actions).peers conn = some (.client sent received)) :
    ∃ handled rest replies, Exchange epoch (run epoch actions).server sent received
      ((run epoch actions).link conn) handled rest replies :=
  ((exchanges_keeps epoch).run (throughout_known epoch actions)
    (fun _ => ⟨rfl, fun _ _ _ => nofun⟩) (fun _ _ sent => sent) conn).2 leaves sent received peer

theorem replies_in_order (epoch : CoordinatorEpoch) (actions : List Action) (conn : ConnId)
    (leaves : ∀ m, .send conn m ∈ actions → m.kind ≠ .register) (sent received : List Message)
    (peer : (run epoch actions).peers conn = some (.client sent received)) :
    ∃ handled rest replies, Exchange epoch (run epoch actions).server sent received
      ((run epoch actions).link conn) handled rest replies :=
  exchange_run actions conn leaves sent received peer

def hearing : List Action := Sample.provisioning ++ [.hear 1, .hear 1]

theorem replies_in_order_hearing : ∃ sent received : List Message, received.length = 2 ∧
    ∃ handled rest replies, Exchange ⟨0, 1⟩ (run ⟨0, 1⟩ hearing).server sent received
      ((run ⟨0, 1⟩ hearing).link 1) handled rest replies := by
  have heard : ((run ⟨0, 1⟩ hearing).peers 1).any (fun
      | .client _ received => received.length = 2
      | .worker _ => false) = true := by decide +kernel
  cases peer : (run ⟨0, 1⟩ hearing).peers 1 with
  | none =>
      rw [peer] at heard
      cases heard
  | some peer' =>
      rw [peer] at heard
      cases peer' with
      | worker p => cases heard
      | client sent received =>
          have closed : Closed hearing := by decide
          exact ⟨sent, received, by simpa using heard,
            replies_in_order ⟨0, 1⟩ hearing 1 (closed.sends 1) sent received peer⟩

end ReplicaFabric.Fleet
