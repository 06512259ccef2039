import ReplicaFabric.Controller.SetStep
import ReplicaFabric.Distributed.Coordinator

/-!
# The connections of the coordinator

Every accepted connection has its thread. A step of the machine is a section of one thread that
runs under one lock, or the handling of one message; the steps of different threads interleave
in any order.

A handler really runs in several sections, `PROVISION` in five and `EXECUTE` in two, and what other
threads do between them is left out. The results about a replica between the lookup and the frame
depend on this: on the host that it is forwarded to (`Safety.Addressing`, `Safety.Routing`), on what
`PROVISION` has made of it (`Safety.Provisioned`), and on its way up (`Safety.BringUp`).
-/

namespace ReplicaFabric

inductive Action
  | frame (conn : ConnId) (m : Message)
  | attach (conn : ConnId)
  /-- `read_frame` fails; a worker is unregistered. -/
  | hangUp (conn : ConnId)
  | detach (conn : ConnId)

structure Input where
  action : Action
  env : Surroundings

def Phase.servingFor : Phase → Option (WorkerId × WorkerBootId)
  | serving reg => some (reg.workerId, reg.bootId)
  | _ => none

theorem Phase.serving_of_servingFor {phases : Table ConnId Phase} {conn : ConnId}
    {host : WorkerId × WorkerBootId} (served : phases[conn]?.bind servingFor = some host) :
    ∃ reg, phases[conn]? = some (.serving reg) ∧ (reg.workerId, reg.bootId) = host := by
  obtain ⟨phase, found, registered⟩ := Option.bind_eq_some_iff.mp served
  cases phase with
  | serving reg => exact ⟨reg, found, Option.some.inj registered⟩
  | _ => cases registered

inductive Outcome
  | disabled
  | done (outputs : List Output)
  | terminated (e : Exception)
  deriving DecidableEq

namespace Coordinator

def firstFrame (c : Coordinator) (env : Surroundings) (conn : ConnId) (m : Message) :
    Except Exception (List Output × Coordinator) :=
  if m.kind = .register then do
    let reg ← buildWorkerReg env m
    let (r, ctrl) := c.ctrl.registerWorker reg
    return ([], { c with ctrl := ctrl, phases := c.phases.insert conn (.registered reg r) })
  else do
    let (outputs, c) ← c.handleControl env m
    return (outputs, { c with phases := c.phases.insert conn .control })

/-- Nothing catches the exceptions of a handler. -/
def settle (c : Coordinator) :
    Except Exception (List Output × Coordinator) → Outcome × Coordinator
  | .ok (outputs, next) => (.done outputs, next)
  | .error e => (.terminated e, { c with terminated := true })

def act (c : Coordinator) (env : Surroundings) : Action → Outcome × Coordinator
  | .frame conn m =>
      match c.phases[conn]? with
      | none => c.settle (c.firstFrame env conn m)
      | some (.serving _) => c.settle (c.handleWorker env m)
      | some .control => c.settle (c.handleControl env m)
      | some _ => (.disabled, c)
  | .attach conn =>
      match c.phases[conn]? with
      | some (.registered reg r) =>
          let ack : Message := { kind := .registerAck, epoch := c.epoch, payload := r.text }
          (.done [.reply ack],
            { c with
              workerConns := c.workerConns.insert reg.workerId conn
              phases := c.phases.insert conn (.serving reg) })
      | _ => (.disabled, c)
  | .hangUp conn =>
      match c.phases[conn]? with
      | some (.serving reg) =>
          (.done [],
            { c with
              ctrl := (c.ctrl.unregisterWorker reg.workerId).2
              phases := c.phases.insert conn (.unregistered reg) })
      | none | some .control => (.done [], { c with phases := c.phases.insert conn .finished })
      | some _ => (.disabled, c)
  | .detach conn =>
      match c.phases[conn]? with
      | some (.unregistered reg) =>
          (.done [],
            { c with
              workerConns := c.workerConns.erase reg.workerId
              phases := c.phases.insert conn .finished })
      | _ => (.disabled, c)

def step (c : Coordinator) (input : Input) : Outcome × Coordinator :=
  if c.terminated then (.disabled, c) else c.act input.env input.action

end Coordinator

def Operation.onReplicas : Operation → Bool
  | registerWorker _ | unregisterWorker _ => false
  | _ => true

namespace ReplicaSetController

variable {ctrl : ReplicaSetController}

theorem run_workers {calls : List Call} (requests : ∀ call ∈ calls, call.op.onReplicas = true) :
    (Machine.run step ctrl calls).workers = ctrl.workers := by
  induction calls generalizing ctrl with
  | nil => rfl
  | cons call calls ih =>
      rw [Machine.run_cons, ih fun later member => requests later (List.mem_cons_of_mem _ member)]
      have request := requests call List.mem_cons_self
      rw [step, workers_step]
      cases op : call.op with
      | registerWorker wr => simp [op, Operation.onReplicas] at request
      | unregisterWorker worker => simp [op, Operation.onReplicas] at request
      | _ => rfl

end ReplicaSetController

theorem exists_of_bind_ok {ε α β : Type} {parse : Except ε α} {rest : α → Except ε β} {out : β}
    (ok : (parse >>= rest) = .ok out) : ∃ v, parse = .ok v ∧ rest v = .ok out := by
  cases parse with
  | error e => cases ok
  | ok v => exact ⟨v, rfl, ok⟩

namespace Coordinator

variable {c next : Coordinator} {env : Surroundings} {m : Message} {outputs : List Output}

structure Handles (c next : Coordinator) (calls : List Call) : Prop where
  requests : ∀ call ∈ calls, call.op.onReplicas = true
  ctrl : next.ctrl = Machine.run ReplicaSetController.step c.ctrl calls
  workerConns : next.workerConns = c.workerConns
  phases : next.phases = c.phases
  epoch : next.epoch = c.epoch
  terminated : next.terminated = c.terminated

theorem Handles.workers {calls : List Call} (handles : Handles c next calls) :
    next.ctrl.workers = c.ctrl.workers := by
  rw [handles.ctrl, ReplicaSetController.run_workers handles.requests]

theorem Handles.nothing : Handles c c [] := ⟨by simp, rfl, rfl, rfl, rfl, rfl⟩

theorem Handles.one (op : Operation) (fresh : FreshIds) (request : op.onReplicas = true) :
    Handles c { c with ctrl := (op.apply fresh c.ctrl).2 } [⟨op, fresh⟩] :=
  ⟨by simpa using request, rfl, rfl, rfl, rfl, rfl⟩

theorem provision_handles (w : WorkerId) (compat : ReplicaCompatibility) (dev : DeviceCapability)
    (cap : UInt64) : ∃ calls, Handles c (c.provision env m w compat dev cap).2 calls := by
  let provision : Call := ⟨.provisionReplica m.replica m.set w compat dev cap (env.mono 0)
    (env.wall 0), env.fresh⟩
  let allocate : Call := ⟨.setAllocating m.replica env.placementId, env.fresh⟩
  let start : Call := ⟨.setStarting m.replica (env.mono 2) (env.wall 1), env.fresh⟩
  unfold Coordinator.provision
  dsimp only
  split
  · exact ⟨[provision, allocate, start], by simp [provision, allocate, start, Operation.onReplicas],
      rfl, rfl, rfl, rfl, rfl⟩
  · exact ⟨[provision], by simp [provision, Operation.onReplicas], rfl, rfl, rfl, rfl, rfl⟩

theorem handleControl_handles (ok : c.handleControl env m = .ok (outputs, next)) :
    ∃ calls, Handles c next calls := by
  unfold handleControl at ok
  split at ok
  · obtain ⟨set, -, ok⟩ := exists_of_bind_ok ok
    cases ok
    exact ⟨_, .one (.createReplicaSet set c.epoch) env.fresh rfl⟩
  · obtain ⟨w, -, ok⟩ := exists_of_bind_ok ok
    obtain ⟨major, -, ok⟩ := exists_of_bind_ok ok
    obtain ⟨devmem, -, ok⟩ := exists_of_bind_ok ok
    obtain ⟨cap, -, ok⟩ := exists_of_bind_ok ok
    have written : _ = next := congrArg Prod.snd (Except.ok.inj ok)
    rw [← written]
    exact provision_handles ..
  · obtain ⟨v, -, ok⟩ := exists_of_bind_ok ok
    cases ok
    exact ⟨_, .one (.promoteReplica m.replica (fromInt env.indeterminatePromotion v)
      (c.hostOf m).1 (c.hostOf m).2 (env.mono 0) (env.wall 0)) env.fresh rfl⟩
  · cases ok
    exact ⟨_, .one (.drainReplica m.replica (c.hostOf m).1 (c.hostOf m).2 (env.mono 0)) env.fresh
      rfl⟩
  · obtain ⟨failed, -, ok⟩ := exists_of_bind_ok ok
    cases ok
    exact ⟨_, .one (.triggerFailover m.set failed (getPayload m.payload "reason" "failover")
      (env.mono 0) (env.wall 0)) env.fresh rfl⟩
  all_goals
    cases ok
    exact ⟨[], .nothing⟩

theorem handleWorker_handles (ok : c.handleWorker env m = .ok (outputs, next)) :
    ∃ calls, Handles c next calls := by
  unfold handleWorker at ok
  dsimp only at ok
  split at ok
  · obtain ⟨warm, -, ok⟩ := exists_of_bind_ok ok
    cases ok
    exact ⟨_, .one (.warmReplica m.replica warm m.worker m.boot (env.mono 0)) env.fresh rfl⟩
  · obtain ⟨v, -, ok⟩ := exists_of_bind_ok ok
    split at ok
    · cases ok
      exact ⟨[], .nothing⟩
    · cases ok
      exact ⟨_, .one (.reportHealth m.replica _ m.worker m.boot (env.mono 0)) env.fresh rfl⟩
  · obtain ⟨mask, -, ok⟩ := exists_of_bind_ok ok
    cases ok
    exact ⟨_, .one (.reportReadiness m.replica (readinessOf mask) m.worker m.boot) env.fresh
      rfl⟩
  · cases ok
    exact ⟨[], by simp, rfl, rfl, rfl, rfl, rfl⟩
  all_goals
    cases ok
    exact ⟨[], .nothing⟩

inductive Change (c : Coordinator) : Action → Coordinator → Prop
  | disabled {action} : Change c action c
  | terminated {action} : Change c action { c with terminated := true }
  | registers {conn m reg} (fresh : c.phases[conn]? = none) :
      Change c (.frame conn m)
        { c with
          ctrl := (c.ctrl.registerWorker reg).2
          phases := c.phases.insert conn (.registered reg (c.ctrl.registerWorker reg).1) }
  | opens {conn m next calls} (fresh : c.phases[conn]? = none) (handles : Handles c next calls) :
      Change c (.frame conn m) { next with phases := next.phases.insert conn .control }
  | handles {conn m next calls} (handles : Handles c next calls) : Change c (.frame conn m) next
  | attaches {conn reg r} (phase : c.phases[conn]? = some (.registered reg r)) :
      Change c (.attach conn)
        { c with
          workerConns := c.workerConns.insert reg.workerId conn
          phases := c.phases.insert conn (.serving reg) }
  | hangsUp {conn reg} (phase : c.phases[conn]? = some (.serving reg)) :
      Change c (.hangUp conn)
        { c with
          ctrl := (c.ctrl.unregisterWorker reg.workerId).2
          phases := c.phases.insert conn (.unregistered reg) }
  | closes {conn} (phase : c.phases[conn]? = none ∨ c.phases[conn]? = some .control) :
      Change c (.hangUp conn) { c with phases := c.phases.insert conn .finished }
  | detaches {conn reg} (phase : c.phases[conn]? = some (.unregistered reg)) :
      Change c (.detach conn)
        { c with
          workerConns := c.workerConns.erase reg.workerId
          phases := c.phases.insert conn .finished }

theorem firstFrame_change {conn : ConnId} (fresh : c.phases[conn]? = none)
    (ok : c.firstFrame env conn m = .ok (outputs, next)) : Change c (.frame conn m) next := by
  unfold firstFrame at ok
  split at ok
  · obtain ⟨reg, -, ok⟩ := exists_of_bind_ok ok
    cases ok
    exact .registers fresh
  · obtain ⟨⟨sent, after⟩, handled, ok⟩ := exists_of_bind_ok ok
    cases ok
    obtain ⟨calls, handles⟩ := handleControl_handles handled
    exact .opens fresh handles

theorem settle_change {action : Action} (handler : Except Exception (List Output × Coordinator))
    (change : ∀ outputs next, handler = .ok (outputs, next) → Change c action next) :
    Change c action (c.settle handler).2 := by
  cases handler with
  | error e => exact .terminated
  | ok handled => exact change handled.1 handled.2 rfl

theorem step_change (c : Coordinator) (input : Input) :
    Change c input.action (c.step input).2 := by
  obtain ⟨action, env⟩ := input
  unfold step
  split
  · exact .disabled
  unfold act
  cases action with
  | frame conn m =>
      dsimp only
      split
      · next fresh => exact settle_change _ fun _ _ => firstFrame_change fresh
      · refine settle_change _ fun _ _ ok => ?_
        obtain ⟨calls, handles⟩ := handleWorker_handles ok
        exact .handles handles
      · refine settle_change _ fun _ _ ok => ?_
        obtain ⟨calls, handles⟩ := handleControl_handles ok
        exact .handles handles
      · exact .disabled
  | attach conn =>
      dsimp only
      split
      · next phase => exact .attaches phase
      · exact .disabled
  | hangUp conn =>
      dsimp only
      split
      · next phase => exact .hangsUp phase
      · next phase => exact .closes (Or.inl phase)
      · next phase => exact .closes (Or.inr phase)
      · exact .disabled
  | detach conn =>
      dsimp only
      split
      · next phase => exact .detaches phase
      · exact .disabled

theorem Change.calls {action : Action} (change : Change c action next) :
    ∃ calls, next.ctrl = Machine.run ReplicaSetController.step c.ctrl calls := by
  cases change with
  | @registers conn m reg fresh => exact ⟨[⟨.registerWorker reg, Sample.freshAt 0⟩], rfl⟩
  | opens fresh handles => exact ⟨_, handles.ctrl⟩
  | handles handles => exact ⟨_, handles.ctrl⟩
  | @hangsUp conn reg phase =>
      exact ⟨[⟨.unregisterWorker reg.workerId, Sample.freshAt 0⟩], rfl⟩
  | _ => exact ⟨[], rfl⟩

theorem run_refines (c : Coordinator) (inputs : List Input) :
    ∃ calls, (Machine.run step c inputs).ctrl =
      Machine.run ReplicaSetController.step c.ctrl calls := by
  induction inputs generalizing c with
  | nil => exact ⟨[], rfl⟩
  | cons input inputs ih =>
      obtain ⟨first, one⟩ := (c.step_change input).calls
      obtain ⟨rest, later⟩ := ih (c.step input).2
      exact ⟨first ++ rest, by rw [Machine.run_cons, later, one, Machine.run_append]⟩

end Coordinator

namespace Sample

def surroundings : Surroundings where
  fresh := freshAt 1
  placementId := ⟨0, 1⟩
  mono _ := 0
  wall _ := 0
  sends _ _ := true
  indeterminateBackend := .none
  indeterminatePromotion := .notPromoted

def coordinator : Coordinator := { epoch := ⟨0, 1⟩ }

def idPayload (id : ReplicaId) (keys : List Str) : Str :=
  keys.foldl (fun payload key => setPayload payload key id.str) []

def input (action : Action) : Input := ⟨action, surroundings⟩

def connect (conn : ConnId) (boot : WorkerBootId) : List Input :=
  [ .frame conn {
      kind := .register
      worker := ⟨0, 1⟩
      boot := boot
      payload := idPayload ⟨0, 1⟩ ["node_hex"] },
    .attach conn ].map input

def provisionOver (conn : ConnId) : List Input :=
  [ .frame conn {
      kind := .createSet
      set := setId
      payload := idPayload ⟨0, 1⟩
        ["model", "workload", "tenant", "artifact", "agen", "sgen", "pgen"] },
    .frame conn {
      kind := .provision
      replica := ⟨0, 1⟩
      set := setId
      payload := idPayload ⟨0, 1⟩ ["worker"] } ].map input

def reportOver (conn : ConnId) (boot : WorkerBootId) : List Input :=
  let report (kind : MessageKind) (payload : Str) : Action :=
    .frame conn {
      kind := kind
      worker := ⟨0, 1⟩
      boot := boot
      replica := ⟨0, 1⟩
      payload := payload }
  [report .warmDone "steps=4", report .readiness "mask=7ff", report .health "state=2"].map input

def promoteOver (conn : ConnId) : Input :=
  input (.frame conn { kind := .promote, replica := ⟨0, 1⟩ })

def execute : Message := { kind := .execute, replica := ⟨0, 1⟩ }

end Sample

end ReplicaFabric
