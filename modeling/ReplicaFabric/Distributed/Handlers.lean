import ReplicaFabric.Distributed.Reports

/-!
# What the handlers write

A control message has exactly one reply, and at most one frame goes to a worker. On a worker
connection the only frame that a handler writes is a `PONG`. A step of one connection leaves the
phases of the others as they are.
-/

namespace ReplicaFabric

/-- The kind of the reply. An `EXECUTE` is answered by a `MSG_ERROR` also when it was forwarded. -/
def MessageKind.replied : MessageKind → MessageKind
  | createSet => createSetAck
  | provision => provisionAck
  | promote => promoteAck
  | drain => drainAck
  | failover => failoverAck
  | query => query
  | snapshot => snapshot
  | _ => msgError

def Action.conn : Action → ConnId
  | frame conn _ | attach conn | hangUp conn | detach conn => conn

inductive Turn
  | attach | hangUp | detach
  deriving DecidableEq

def Turn.action (conn : ConnId) : Turn → Action
  | attach => .attach conn
  | hangUp => .hangUp conn
  | detach => .detach conn

namespace Coordinator

variable {c next : Coordinator} {env : Surroundings} {m : Message} {conn : ConnId}
  {outputs : List Output}

structure RepliesTo (epoch : CoordinatorEpoch) (m reply : Message) : Prop where
  kind : reply.kind = m.kind.replied
  seq : reply.seq = m.seq
  epoch : reply.epoch = epoch

def warmFor (c : Coordinator) (w : WorkerId) (m : Message) : Message where
  kind := .warm
  epoch := c.epoch
  worker := w
  replica := m.replica
  set := m.set
  payload := "steps=4"

inductive Spoken (c : Coordinator) (m : Message) : List Output → Prop
  | answered {reply} (answers : RepliesTo c.epoch m reply) : Spoken c m [.reply reply]
  | provisioned {reply w} (kind : m.kind = .provision) (answers : RepliesTo c.epoch m reply)
      (connected : (c.workerConns[w]?).isSome = true) :
      Spoken c m [.reply reply, .forward w (c.warmFor w m)]
  | forwarded {reply rs} (kind : m.kind = .execute) (answers : RepliesTo c.epoch m reply)
      (found : c.ctrl.findReplica m.replica = some rs)
      (connected : (c.workerConns[rs.workerId]?).isSome = true) :
      Spoken c m [.forward rs.workerId { m with epoch := c.epoch }, .reply reply]

theorem connected_of_delivers {w : WorkerId} {m : Message} (delivers : c.delivers env w m = true) :
    (c.workerConns[w]?).isSome = true := by
  unfold Coordinator.delivers at delivers
  split at delivers
  · cases delivers
  · next found => rw [found]; rfl

theorem sendToWorker_cases (c : Coordinator) (env : Surroundings) (w : WorkerId) (m : Message) :
    c.sendToWorker env w m = [] ∨
      c.sendToWorker env w m = [.forward w m] ∧ (c.workerConns[w]?).isSome = true := by
  unfold sendToWorker
  split
  · next delivers => exact .inr ⟨rfl, connected_of_delivers delivers⟩
  · exact .inl rfl

theorem provision_spoken {w : WorkerId} {compat : ReplicaCompatibility} {dev : DeviceCapability}
    {cap : UInt64} (kind : m.kind = .provision) :
    Spoken c m (c.provision env m w compat dev cap).1 := by
  have answers (payload : Str) :
      RepliesTo c.epoch m { c.ackFor m with kind := .provisionAck, payload := payload } :=
    ⟨by rw [kind]; rfl, rfl, rfl⟩
  unfold provision
  dsimp only
  split
  · simp only [acknowledge, List.singleton_append]
    rcases sendToWorker_cases _ env w _ with silent | ⟨forwards, connected⟩
    · rw [silent]
      exact .answered (answers _)
    · rw [forwards]
      exact .provisioned kind (answers _) connected
  · exact .answered (answers _)

theorem handleExecute_spoken (kind : m.kind = .execute) :
    Spoken c m (c.handleExecute env m) := by
  have answers (payload : Str) : RepliesTo c.epoch m { c.ackFor m with payload := payload } :=
    ⟨by rw [kind]; rfl, rfl, rfl⟩
  unfold handleExecute
  dsimp only
  split
  · exact .answered (answers _)
  · next rs found =>
      split
      · exact .answered (answers _)
      · next delivers =>
          exact .forwarded kind (answers _) found (connected_of_delivers (by simpa using delivers))

theorem handleControl_spoken (ok : c.handleControl env m = .ok (outputs, next)) :
    Spoken c m outputs := by
  unfold handleControl at ok
  split at ok
  · next kind =>
      obtain ⟨set, -, ok⟩ := exists_of_bind_ok ok
      cases ok
      exact .answered ⟨by rw [kind]; rfl, rfl, rfl⟩
  · next kind =>
      obtain ⟨w, -, ok⟩ := exists_of_bind_ok ok
      obtain ⟨major, -, ok⟩ := exists_of_bind_ok ok
      obtain ⟨devmem, -, ok⟩ := exists_of_bind_ok ok
      obtain ⟨cap, -, ok⟩ := exists_of_bind_ok ok
      have written : _ = outputs := congrArg Prod.fst (Except.ok.inj ok)
      rw [← written]
      exact provision_spoken kind
  · next kind =>
      obtain ⟨v, -, ok⟩ := exists_of_bind_ok ok
      cases ok
      exact .answered ⟨by rw [kind]; rfl, rfl, rfl⟩
  · next kind =>
      cases ok
      exact .answered ⟨by rw [kind]; rfl, rfl, rfl⟩
  · next kind =>
      obtain ⟨failed, -, ok⟩ := exists_of_bind_ok ok
      cases ok
      exact .answered ⟨by rw [kind]; rfl, rfl, rfl⟩
  · next kind =>
      cases ok
      exact handleExecute_spoken kind
  · next kind =>
      cases ok
      exact .answered ⟨by rw [kind]; rfl, rfl, rfl⟩
  · next kind =>
      cases ok
      exact .answered ⟨by rw [kind]; rfl, rfl, rfl⟩
  · cases ok
    refine .answered ⟨?_, rfl, rfl⟩
    unfold MessageKind.replied
    split <;> first | rfl | contradiction

theorem handleControl_lastResults (ok : c.handleControl env m = .ok (outputs, next)) :
    next.lastResults = c.lastResults := by
  unfold handleControl at ok
  split at ok
  · obtain ⟨set, -, ok⟩ := exists_of_bind_ok ok
    cases ok
    rfl
  · obtain ⟨w, -, ok⟩ := exists_of_bind_ok ok
    obtain ⟨major, -, ok⟩ := exists_of_bind_ok ok
    obtain ⟨devmem, -, ok⟩ := exists_of_bind_ok ok
    obtain ⟨cap, -, ok⟩ := exists_of_bind_ok ok
    have written : _ = next := congrArg Prod.snd (Except.ok.inj ok)
    rw [← written]
    unfold Coordinator.provision
    dsimp only
    split <;> rfl
  · obtain ⟨v, -, ok⟩ := exists_of_bind_ok ok
    cases ok
    rfl
  · cases ok
    rfl
  · obtain ⟨failed, -, ok⟩ := exists_of_bind_ok ok
    cases ok
    rfl
  all_goals
    cases ok
    rfl

theorem handleWorker_outputs (ok : c.handleWorker env m = .ok (outputs, next)) :
    outputs = if m.kind = .executeResult ∨ m.kind = .ping then [.reply { kind := .pong }] else [] := by
  unfold handleWorker at ok
  dsimp only at ok
  split at ok
  · next kind =>
      obtain ⟨warm, -, ok⟩ := exists_of_bind_ok ok
      cases ok
      simp [kind]
  · next kind =>
      obtain ⟨v, -, ok⟩ := exists_of_bind_ok ok
      split at ok <;> cases ok <;> simp [kind]
  · next kind =>
      obtain ⟨mask, -, ok⟩ := exists_of_bind_ok ok
      cases ok
      simp [kind]
  · next kind =>
      cases ok
      simp [kind]
  · next kind =>
      cases ok
      simp [kind]
  · next result ping =>
      cases ok
      rw [if_neg]
      rintro (kind | kind)
      · exact result kind
      · exact ping kind

theorem buildWorkerReg_host {reg : WorkerRegistration} (built : buildWorkerReg env m = .ok reg) :
    reg.workerId = m.worker ∧ reg.bootId = m.boot := by
  unfold buildWorkerReg at built
  obtain ⟨nodeId, -, built⟩ := exists_of_bind_ok built
  obtain ⟨backend, -, built⟩ := exists_of_bind_ok built
  obtain ⟨memory, -, built⟩ := exists_of_bind_ok built
  obtain ⟨major, -, built⟩ := exists_of_bind_ok built
  obtain ⟨deviceMemory, -, built⟩ := exists_of_bind_ok built
  cases built
  exact ⟨rfl, rfl⟩

inductive Taken (c : Coordinator) (env : Surroundings) (conn : ConnId) (m : Message) :
    Outcome × Coordinator → Prop
  | failed {e} : Taken c env conn m (.terminated e, { c with terminated := true })
  | registered {reg} (fresh : c.phases[conn]? = none) (kind : m.kind = .register)
      (built : buildWorkerReg env m = .ok reg) :
      Taken c env conn m (.done [],
        { c with
          ctrl := (c.ctrl.registerWorker reg).2
          phases := c.phases.insert conn (.registered reg (c.ctrl.registerWorker reg).1) })
  | opened {sent after} (fresh : c.phases[conn]? = none) (kind : m.kind ≠ .register)
      (ok : c.handleControl env m = .ok (sent, after)) :
      Taken c env conn m (.done sent, { after with phases := after.phases.insert conn .control })
  | commanded {sent after} (control : c.phases[conn]? = some .control)
      (ok : c.handleControl env m = .ok (sent, after)) :
      Taken c env conn m (.done sent, after)
  | reported {reg sent after} (serving : c.phases[conn]? = some (.serving reg))
      (ok : c.handleWorker env m = .ok (sent, after)) :
      Taken c env conn m (.done sent, after)

def reads (c : Coordinator) (conn : ConnId) : Bool :=
  match c.phases[conn]? with
  | none | some (.serving _) | some .control => true
  | _ => false

theorem step_frame (c : Coordinator) (env : Surroundings) (conn : ConnId) (m : Message)
    (running : c.terminated = false) (waits : c.reads conn = true) :
    Taken c env conn m (c.step ⟨.frame conn m, env⟩) := by
  have live : ¬c.terminated = true := by simp [running]
  unfold step act
  rw [if_neg live]
  dsimp only
  unfold reads at waits
  cases found : c.phases[conn]? with
  | none =>
      dsimp only
      rw [firstFrame]
      split
      · next kind =>
          cases built : buildWorkerReg env m with
          | error e => exact .failed
          | ok reg => exact .registered found kind built
      · next kind =>
          cases handled : c.handleControl env m with
          | error e => exact .failed
          | ok result => exact .opened found kind handled
  | some phase =>
      cases phase with
      | serving reg =>
          dsimp only
          cases handled : c.handleWorker env m with
          | error e => exact .failed
          | ok result => exact .reported found handled
      | control =>
          dsimp only
          cases handled : c.handleControl env m with
          | error e => exact .failed
          | ok result => exact .commanded found handled
      | _ => simp [found] at waits

inductive Worked (c : Coordinator) (conn : ConnId) : Turn → Outcome × Coordinator → Prop
  | disabled {turn} : Worked c conn turn (.disabled, c)
  | attached {reg r} (phase : c.phases[conn]? = some (.registered reg r)) :
      Worked c conn .attach
        (.done [.reply { kind := .registerAck, epoch := c.epoch, payload := r.text }],
          { c with
            workerConns := c.workerConns.insert reg.workerId conn
            phases := c.phases.insert conn (.serving reg) })
  | hungUp {reg} (phase : c.phases[conn]? = some (.serving reg)) :
      Worked c conn .hangUp (.done [],
        { c with
          ctrl := (c.ctrl.unregisterWorker reg.workerId).2
          phases := c.phases.insert conn (.unregistered reg) })
  | closed (phase : c.phases[conn]? = none ∨ c.phases[conn]? = some .control) :
      Worked c conn .hangUp (.done [], { c with phases := c.phases.insert conn .finished })
  | detached {reg} (phase : c.phases[conn]? = some (.unregistered reg)) :
      Worked c conn .detach (.done [],
        { c with
          workerConns := c.workerConns.erase reg.workerId
          phases := c.phases.insert conn .finished })

theorem step_turn (c : Coordinator) (env : Surroundings) (conn : ConnId) (turn : Turn) :
    Worked c conn turn (c.step ⟨turn.action conn, env⟩) := by
  unfold step act
  split
  · exact .disabled
  cases turn with
  | attach =>
      dsimp only [Turn.action]
      split
      · next phase => exact .attached phase
      · exact .disabled
  | hangUp =>
      dsimp only [Turn.action]
      split
      · next phase => exact .hungUp phase
      · next phase => exact .closed (.inl phase)
      · next phase => exact .closed (.inr phase)
      · exact .disabled
  | detach =>
      dsimp only [Turn.action]
      split
      · next phase => exact .detached phase
      · exact .disabled

theorem step_phases_ne (c : Coordinator) (input : Input) (elsewhere : input.action.conn ≠ conn) :
    (c.step input).2.phases[conn]? = c.phases[conn]? := by
  have change := c.step_change input
  generalize (c.step input).2 = next at change ⊢
  generalize input.action = action at change elsewhere
  cases change with
  | disabled => rfl
  | terminated => rfl
  | registers fresh => exact Table.get_insert_ne _ _ elsewhere
  | opens fresh handles =>
      exact (Table.get_insert_ne _ _ elsewhere).trans (by rw [handles.phases])
  | handles handles => rw [handles.phases]
  | attaches phase => exact Table.get_insert_ne _ _ elsewhere
  | hangsUp phase => exact Table.get_insert_ne _ _ elsewhere
  | closes phase => exact Table.get_insert_ne _ _ elsewhere
  | detaches phase => exact Table.get_insert_ne _ _ elsewhere

theorem step_epoch (c : Coordinator) (input : Input) : (c.step input).2.epoch = c.epoch := by
  have change := c.step_change input
  generalize (c.step input).2 = next at change ⊢
  generalize input.action = action at change
  cases change with
  | opens fresh handles => exact handles.epoch
  | handles handles => exact handles.epoch
  | _ => rfl

end Coordinator

end ReplicaFabric
