import ReplicaFabric.Distributed.Fleet

/-!
# What reaches the coordinator

Where clients leave `REGISTER` to the worker processes, a connection is registered only for the
process at its other end, and all that the coordinator reads on it is what that process writes. The
commands are what the clients have sent.
-/

namespace ReplicaFabric.Fleet

open Duplex WorkerProcess

variable {Sends : ConnId → Message → Prop} {c : Coordinator} {conn : ConnId} {l : Link} {e : Event}
  {p : WorkerProcess}

def holds (c : Coordinator) (conn : ConnId) : Option WorkerRegistration :=
  c.phases[conn]?.bind Phase.holds

structure OfWorker (c : Coordinator) (conn : ConnId) (p : WorkerProcess) (l : Link) : Prop where
  writes : ∀ m ∈ l.up, Writes p.worker p.boot m
  registered : ∀ reg, holds c conn = some reg → reg.workerId = p.worker ∧ reg.bootId = p.boot
  waiting : c.phases[conn]? = none → l.owed = [] ∧ l.down = [] ∧ p.stage ≠ .serving ∧
    (l.up = [] ∨ ∃ node, l.up = [registration p.worker p.boot node])
  notControl : c.phases[conn]? ≠ some .control

structure OfClient (Sends : ConnId → Message → Prop) (c : Coordinator) (conn : ConnId) (l : Link) :
    Prop where
  sends : ∀ m ∈ l.up, Sends conn m
  unregistered : (∀ m, Sends conn m → m.kind ≠ .register) → holds c conn = none

structure Unused (c : Coordinator) (conn : ConnId) (l : Link) : Prop where
  up : l.up = []
  owed : l.owed = []
  down : l.down = []
  phase : c.phases[conn]? = none ∨ c.phases[conn]? = some .finished

def Orderly (Sends : ConnId → Message → Prop) (c : Coordinator) (conn : ConnId) (l : Link) : Prop :=
  match l.peer with
  | none => Unused c conn l
  | some (.worker p) => OfWorker c conn p l
  | some (.client _ _) => OfClient Sends c conn l

def Commands (c : Coordinator) (conn : ConnId) (m : Message) : Prop :=
  c.phases[conn]? = none ∧ m.kind ≠ .register ∨ c.phases[conn]? = some .control

/-- The coordinator is up, and takes a frame when it waits for one. -/
structure Waited (e : Event) : Prop where
  live : e.before.terminated = false
  reads : ∀ conn m env, e.input = ⟨.frame conn m, env⟩ → e.before.reads conn = true

/-- A `REGISTER` comes only from a worker process, over a worker connection only what the process
that it is registered for writes, and a command only from a client. -/
structure Genuine (Sends : ConnId → Message → Prop) (e : Event) : Prop extends Waited e where
  registers : ∀ conn m env, e.input = ⟨.frame conn m, env⟩ → e.before.phases[conn]? = none →
    m.kind = .register → Writes m.worker m.boot m
  reports : ∀ conn m env reg, e.input = ⟨.frame conn m, env⟩ →
    e.before.phases[conn]? = some (.serving reg) → Writes reg.workerId reg.bootId m
  commands : ∀ conn m env, e.input = ⟨.frame conn m, env⟩ → Commands e.before conn m →
    Sends conn m

theorem Orderly.worker (orderly : Orderly Sends c conn l) (peer : l.peer = some (.worker p)) :
    OfWorker c conn p l := by
  rw [Orderly, peer] at orderly
  exact orderly

theorem Orderly.client {sent received : List Message} (orderly : Orderly Sends c conn l)
    (peer : l.peer = some (.client sent received)) : OfClient Sends c conn l := by
  rw [Orderly, peer] at orderly
  exact orderly

theorem Orderly.unused (orderly : Orderly Sends c conn l) (peer : l.peer = none) :
    Unused c conn l := by
  rw [Orderly, peer] at orderly
  exact orderly

/-! ## Posts -/

theorem mem_posts {c : Coordinator} {outcome : Outcome} {conn : ConnId} {m : Message}
    (posted : (conn, m) ∈ posts (c.effects outcome)) :
    ∃ outputs w, outcome = .done outputs ∧ .forward w m ∈ outputs ∧
      c.workerConns[w]? = some conn := by
  obtain ⟨effect, member, isPost⟩ := List.mem_filterMap.mp posted
  cases outcome with
  | done outputs =>
      obtain ⟨output, outputMember, effectOf⟩ := List.mem_filterMap.mp member
      cases output with
      | reply m' =>
          cases effectOf
          cases isPost
      | forward w m' =>
          obtain ⟨conn', found, rfl⟩ := Option.map_eq_some_iff.mp effectOf
          cases isPost
          exact ⟨outputs, w, rfl, outputMember, found⟩
  | _ => cases member

inductive Forwards (c : Coordinator) (m : Message) (conn : ConnId) : Message → Prop
  | warm {w} (kind : m.kind = .provision) (found : c.workerConns[w]? = some conn) :
      Forwards c m conn (c.warmFor w m)
  | execute {rs} (kind : m.kind = .execute) (host : c.ctrl.findReplica m.replica = some rs)
      (found : c.workerConns[rs.workerId]? = some conn) :
      Forwards c m conn { m with epoch := c.epoch }

theorem forwards_of_spoken {outputs : List Output} {m fwd : Message}
    (spoken : Coordinator.Spoken c m outputs)
    (posted : (conn, fwd) ∈ posts (c.effects (.done outputs))) : Forwards c m conn fwd := by
  obtain ⟨outputs', w, same, member, found⟩ := mem_posts posted
  cases same
  cases spoken with
  | answered answers => simp at member
  | provisioned kind answers connected =>
      obtain ⟨rfl, rfl⟩ : w = _ ∧ fwd = _ := by simpa using member
      exact .warm kind found
  | forwarded kind answers host connected =>
      obtain ⟨rfl, rfl⟩ : w = _ ∧ fwd = _ := by simpa using member
      exact .execute kind host found

theorem exists_forwards {input : Input} {fwd : Message} (running : c.terminated = false)
    (waits : ∀ conn m env, input = ⟨.frame conn m, env⟩ → c.reads conn = true)
    (posted : (conn, fwd) ∈ posts (c.effects (c.step input).1)) :
    ∃ conn' m env, input = ⟨.frame conn' m, env⟩ ∧ Commands c conn' m ∧ Forwards c m conn fwd := by
  obtain ⟨action, env⟩ := input
  have turned (conn' : ConnId) (turn : Turn)
      (posted : (conn, fwd) ∈ posts (c.effects (c.step ⟨turn.action conn', env⟩).1)) : False := by
    have worked := c.step_turn env conn' turn
    generalize c.step ⟨turn.action conn', env⟩ = result at worked posted
    cases worked <;> simp [Coordinator.effects, posts] at posted
  cases action with
  | attach conn' => exact (turned conn' .attach posted).elim
  | hangUp conn' => exact (turned conn' .hangUp posted).elim
  | detach conn' => exact (turned conn' .detach posted).elim
  | frame conn' m =>
      refine ⟨conn', m, env, rfl, ?_⟩
      have taken := c.step_frame env conn' m running (waits conn' m env rfl)
      generalize c.step ⟨.frame conn' m, env⟩ = result at taken posted
      cases taken with
      | failed => simp [Coordinator.effects, posts] at posted
      | registered fresh kind built => simp [Coordinator.effects, posts] at posted
      | opened fresh kind ok =>
          exact ⟨.inl ⟨fresh, kind⟩, forwards_of_spoken (Coordinator.handleControl_spoken ok) posted⟩
      | commanded control ok =>
          exact ⟨.inr control, forwards_of_spoken (Coordinator.handleControl_spoken ok) posted⟩
      | reported serving ok =>
          rw [Coordinator.handleWorker_outputs ok] at posted
          split at posted <;> simp [Coordinator.effects, posts] at posted

theorem mem_postsTo {effects : List (Effect ConnId Message)} {conn : ConnId} {m : Message} :
    m ∈ postsTo effects conn ↔ (conn, m) ∈ posts effects := by
  simp only [postsTo, queue, List.mem_map, List.mem_filter, decide_eq_true_eq]
  constructor
  · rintro ⟨⟨conn', m'⟩, ⟨member, rfl⟩, rfl⟩
    exact member
  · exact fun member => ⟨(conn, m), ⟨member, rfl⟩, rfl⟩

theorem Commands.not_serving {m : Message} {reg : WorkerRegistration}
    (commands : Commands c conn m) : c.phases[conn]? ≠ some (.serving reg) := by
  intro serving
  rcases commands with ⟨fresh, -⟩ | control
  · cases serving.symm.trans fresh
  · cases serving.symm.trans control

theorem event_output {e : Event} (same : e = Machine.event serve e.before e.input) :
    e.output = e.before.effects (e.before.step e.input).1 :=
  congrArg Machine.Event.output same

theorem event_after {e : Event} (same : e = Machine.event serve e.before e.input) :
    e.after = (e.before.step e.input).2 :=
  congrArg Machine.Event.after same

theorem Waited.forwards {e : Event} {fwd : Message} (waited : Waited e)
    (same : e = Machine.event serve e.before e.input) (posted : fwd ∈ postsTo e.output conn) :
    ∃ conn' m env, e.input = ⟨.frame conn' m, env⟩ ∧ Commands e.before conn' m ∧
      Forwards e.before m conn fwd := by
  rw [event_output same, mem_postsTo] at posted
  exact exists_forwards waited.live waited.reads posted

theorem postsTo_eq_nil (agrees : c.TableAgrees) (outcome : Outcome)
    (absent : ∀ reg, c.phases[conn]? ≠ some (.serving reg) ∧
      c.phases[conn]? ≠ some (.unregistered reg)) : postsTo (c.effects outcome) conn = [] := by
  rw [List.eq_nil_iff_forall_not_mem]
  intro m member
  obtain ⟨outputs, w, -, -, found⟩ := mem_posts (mem_postsTo.mp member)
  obtain ⟨reg, phases, -⟩ := agrees w conn found
  exact phases.elim (absent reg).1 (absent reg).2

/-! ## What the actions keep -/

theorem Unused.absent (unused : Unused c conn l) (reg : WorkerRegistration) :
    c.phases[conn]? ≠ some (.serving reg) ∧ c.phases[conn]? ≠ some (.unregistered reg) := by
  rcases unused.phase with fresh | finished
  · simp [fresh]
  · simp [finished]

theorem Unused.holds (unused : Unused c conn l) : holds c conn = none := by
  rcases unused.phase with fresh | finished
  · simp [Fleet.holds, fresh]
  · simp [Fleet.holds, finished, Phase.holds]

theorem mem_fits {ms : List Message} {m : Message} (member : m ∈ ms.filter system.fits) : m ∈ ms :=
  List.mem_of_mem_filter member

theorem orderly_join (unused : Unused c conn l) (hello : Hello) :
    Orderly Sends c conn (system.move l (start hello).2 (start hello).1) := by
  have notControl : c.phases[conn]? ≠ some .control := by
    rcases unused.phase with fresh | finished
    · simp [fresh]
    · simp [finished]
  cases hello with
  | client => exact ⟨by simp [System.move, start, unused.up], fun _ => unused.holds⟩
  | worker argv =>
      have first : (WorkerProcess.start argv).2.stage ≠ .serving ∧
          ((WorkerProcess.start argv).1 = [] ∨ ∃ node, (WorkerProcess.start argv).1 =
            [registration (WorkerProcess.start argv).2.worker (WorkerProcess.start argv).2.boot
              node]) := by
        unfold WorkerProcess.start
        split
        · exact ⟨by simp, .inl rfl⟩
        · split_ifs
          · exact ⟨by simp, .inl rfl⟩
          · exact ⟨by simp, .inr ⟨_, rfl⟩⟩
      have up : (system.move l (start (.worker argv)).2 (start (.worker argv)).1).up =
          (WorkerProcess.start argv).1.filter system.fits := by
        simp [System.move, start, unused.up]
      refine ⟨fun m member => ?_, fun reg held => ?_, fun _ => ?_, notControl⟩
      · rw [up] at member
        exact start_writes argv m (mem_fits member)
      · rw [unused.holds] at held
        cases held
      · refine ⟨unused.owed, unused.down, first.1, ?_⟩
        rw [up]
        rcases first.2 with nothing | ⟨node, only⟩
        · exact .inl (by rw [nothing]; rfl)
        · rw [only, List.filter_cons]
          split_ifs
          · exact .inr ⟨node, rfl⟩
          · exact .inl rfl

theorem orderly_elsewhere (agrees : c.TableAgrees) (orderly : Orderly Sends c conn l) {input : Input}
    (elsewhere : input.action.conn ≠ conn) :
    Orderly Sends (c.step input).2 conn (l.post conn (serve c input).1) := by
  have phases := c.step_phases_ne input elsewhere
  have held : holds (c.step input).2 conn = holds c conn := by rw [holds, phases, holds]
  cases peer : l.peer with
  | none =>
      have unused := orderly.unused peer
      have silent := postsTo_eq_nil agrees (c.step input).1 unused.absent
      have same : Unused (c.step input).2 conn (l.post conn (serve c input).1) :=
        ⟨unused.up, unused.owed, by simp [Link.post, serve, silent, unused.down],
          phases ▸ unused.phase⟩
      simpa [Orderly, Link.post, peer] using same
  | some peer' =>
      cases peer' with
      | worker p =>
          have ofWorker := orderly.worker peer
          have same : OfWorker (c.step input).2 conn p (l.post conn (serve c input).1) := by
            refine ⟨ofWorker.writes, held ▸ ofWorker.registered, fun fresh => ?_,
              phases ▸ ofWorker.notControl⟩
            rw [phases] at fresh
            obtain ⟨owed, down, stage, up⟩ := ofWorker.waiting fresh
            have silent : postsTo (c.effects (c.step input).1) conn = [] :=
              postsTo_eq_nil agrees _ (by simp [fresh])
            exact ⟨owed, by simp [Link.post, serve, silent, down], stage, up⟩
          simpa [Orderly, Link.post, peer] using same
      | client sent received =>
          have ofClient := orderly.client peer
          have same : OfClient Sends (c.step input).2 conn (l.post conn (serve c input).1) :=
            ⟨ofClient.sends, fun leaves => held.trans (ofClient.unregistered leaves)⟩
          simpa [Orderly, Link.post, peer] using same

theorem waited_frame {m : Message} (env : Surroundings) (running : c.terminated = false)
    (waits : c.reads conn = true) : Waited (Machine.event serve c ⟨.frame conn m, env⟩) := by
  refine ⟨running, fun conn' m' env' same => ?_⟩
  cases same
  exact waits

theorem turn_ne_frame (turn : Turn) (env env' : Surroundings) (conn conn' : ConnId) (m : Message) :
    (⟨turn.action conn, env⟩ : Input) ≠ ⟨.frame conn' m, env'⟩ := by
  cases turn <;> rintro ⟨⟩

theorem waited_turn (turn : Turn) (env : Surroundings) (running : c.terminated = false) :
    Waited (Machine.event serve c ⟨turn.action conn, env⟩) :=
  ⟨running, fun _ _ _ same => absurd same (turn_ne_frame turn env _ conn _ _)⟩

theorem genuine_frame (leaves : ∀ conn m, Sends conn m → m.kind ≠ .register)
    (orderly : Orderly Sends c conn l) {m : Message} {up : List Message} (env : Surroundings)
    (first : l.up = m :: up) (running : c.terminated = false)
    (waits : c.reads conn = true) : Genuine Sends (Machine.event serve c ⟨.frame conn m, env⟩) := by
  have member : m ∈ l.up := by simp [first]
  refine ⟨waited_frame env running waits, ?_, ?_, ?_⟩
  · intro conn' m' env' same fresh kind
    cases same
    cases peer : l.peer with
    | none => simp [(orderly.unused peer).up] at member
    | some peer' =>
        cases peer' with
        | worker p =>
            obtain ⟨-, -, -, nothing | ⟨node, only⟩⟩ := (orderly.worker peer).waiting fresh
            · simp [nothing] at member
            · rw [only, List.mem_singleton] at member
              rw [member]
              exact .registers node
        | client sent received =>
            exact absurd kind (leaves conn m ((orderly.client peer).sends m member))
  · intro conn' m' env' reg same serving
    cases same
    have held : holds c conn = some reg := by
      have serving : c.phases[conn]? = some (.serving reg) := serving
      simp [holds, serving, Phase.holds]
    cases peer : l.peer with
    | none => simp [(orderly.unused peer).up] at member
    | some peer' =>
        cases peer' with
        | worker p =>
            obtain ⟨worker, boot⟩ := (orderly.worker peer).registered reg held
            rw [worker, boot]
            exact (orderly.worker peer).writes m member
        | client sent received =>
            rw [(orderly.client peer).unregistered (leaves conn)] at held
            cases held
  · intro conn' m' env' same commands
    cases same
    cases peer : l.peer with
    | none => simp [(orderly.unused peer).up] at member
    | some peer' =>
        cases peer' with
        | worker p =>
            rcases commands with ⟨fresh, kind⟩ | control
            · obtain ⟨-, -, -, nothing | ⟨node, only⟩⟩ := (orderly.worker peer).waiting fresh
              · simp [nothing] at member
              · rw [only, List.mem_singleton] at member
                exact absurd (congrArg Message.kind member) kind
            · exact absurd control (orderly.worker peer).notControl
        | client sent received => exact (orderly.client peer).sends m member

theorem genuine_turn (turn : Turn) (env : Surroundings) (running : c.terminated = false) :
    Genuine Sends (Machine.event serve c ⟨turn.action conn, env⟩) :=
  ⟨waited_turn turn env running, fun _ _ _ same => absurd same (turn_ne_frame turn env _ conn _ _),
    fun _ _ _ _ same => absurd same (turn_ne_frame turn env _ conn _ _),
    fun _ _ _ same => absurd same (turn_ne_frame turn env _ conn _ _)⟩

theorem orderly_frame (orderly : Orderly Sends c conn l) {m : Message} {up : List Message}
    (env : Surroundings) (first : l.up = m :: up) (running : c.terminated = false)
    (waits : c.reads conn = true) :
    Orderly Sends (c.step ⟨.frame conn m, env⟩).2 conn
      (l.serve conn up (serve c ⟨.frame conn m, env⟩).1) := by
  have taken := c.step_frame env conn m running waits
  have effects : (serve c ⟨.frame conn m, env⟩).1 = c.effects (c.step ⟨.frame conn m, env⟩).1 := rfl
  rw [effects]
  generalize c.step ⟨.frame conn m, env⟩ = result at taken ⊢
  have member : m ∈ l.up := by simp [first]
  have later {m' : Message} (inUp : m' ∈ up) : m' ∈ l.up := by simp [first, inUp]
  have inserted (phases : Table ConnId Phase) (phase : Phase) :
      (phases.insert conn phase)[conn]? = some phase := (Table.get_insert ..).trans (if_pos rfl)
  cases peer : l.peer with
  | none => simp [(orderly.unused peer).up] at member
  | some peer' =>
      cases peer' with
      | client sent received =>
          have ofClient := orderly.client peer
          have here (phases : (∀ m, Sends conn m → m.kind ≠ .register) →
                holds result.2 conn = none) :
              Orderly Sends result.2 conn (l.serve conn up (c.effects result.1)) := by
            have same : OfClient Sends result.2 conn (l.serve conn up (c.effects result.1)) :=
              ⟨fun m' inUp => ofClient.sends m' (later inUp), phases⟩
            simpa [Orderly, Link.serve, peer] using same
          refine here fun leaves => ?_
          cases taken with
          | failed => exact ofClient.unregistered leaves
          | registered fresh kind built => exact absurd kind (leaves m (ofClient.sends m member))
          | opened fresh kind ok => simp [holds, Phase.holds]
          | commanded control ok =>
              obtain ⟨calls, handles⟩ := Coordinator.handleControl_handles ok
              exact (congrArg (·.bind Phase.holds) (congrArg (·[conn]?) handles.phases)).trans
                (ofClient.unregistered leaves)
          | @reported reg sent after serving ok =>
              have held := ofClient.unregistered leaves
              simp [holds, serving, Phase.holds] at held
      | worker p =>
          have ofWorker := orderly.worker peer
          have here (registered : ∀ reg, holds result.2 conn = some reg →
                reg.workerId = p.worker ∧ reg.bootId = p.boot)
              (waiting : result.2.phases[conn]? = none → answers (c.effects result.1) = [] ∧
                postsTo (c.effects result.1) conn = [] ∧ c.phases[conn]? = none)
              (notControl : result.2.phases[conn]? ≠ some .control) :
              Orderly Sends result.2 conn (l.serve conn up (c.effects result.1)) := by
            have same : OfWorker result.2 conn p (l.serve conn up (c.effects result.1)) := by
              refine ⟨fun m' inUp => ofWorker.writes m' (later inUp), registered, fun fresh => ?_,
                notControl⟩
              obtain ⟨answered, posted, before⟩ := waiting fresh
              obtain ⟨-, down, stage, only⟩ := ofWorker.waiting before
              refine ⟨answered, by simp [Link.serve, posted, down], stage, .inl ?_⟩
              rcases only with nothing | ⟨node, only⟩
              · simp [nothing] at first
              · exact (List.cons.inj (first.symm.trans only)).2
            simpa [Orderly, Link.serve, peer] using same
          cases taken with
          | failed =>
              exact here ofWorker.registered (fun fresh => ⟨rfl, rfl, fresh⟩) ofWorker.notControl
          | @registered reg fresh kind built =>
              obtain ⟨worker, boot⟩ := Coordinator.buildWorkerReg_host built
              obtain ⟨-, -, -, nothing | ⟨node, only⟩⟩ := ofWorker.waiting fresh
              · simp [nothing] at member
              · rw [only, List.mem_singleton] at member
                refine here (fun reg' held => ?_) (fun absent => ?_) ?_
                · have same : reg = reg' := by simpa [holds, inserted, Phase.holds] using held
                  rw [← same, worker, boot, member]
                  exact ⟨rfl, rfl⟩
                · simp at absent
                · simp
          | opened fresh kind ok =>
              obtain ⟨-, -, -, nothing | ⟨node, only⟩⟩ := ofWorker.waiting fresh
              · simp [nothing] at member
              · rw [only, List.mem_singleton] at member
                exact absurd (congrArg Message.kind member) kind
          | commanded control ok => exact absurd control ofWorker.notControl
          | @reported reg sent after serving ok =>
              obtain ⟨calls, handles⟩ := Coordinator.handleWorker_handles ok
              have phases : after.phases[conn]? = c.phases[conn]? :=
                congrArg (·[conn]?) handles.phases
              refine here ?_ (fun absent => ?_) ?_
              · rw [holds, phases]
                exact ofWorker.registered
              · rw [phases, serving] at absent
                cases absent
              · rw [phases]
                exact ofWorker.notControl

theorem orderly_turn (agrees : c.TableAgrees) (orderly : Orderly Sends c conn l) (turn : Turn)
    (env : Surroundings) :
    Orderly Sends (c.step ⟨turn.action conn, env⟩).2 conn
      (l.serve conn l.up (serve c ⟨turn.action conn, env⟩).1) := by
  have worked := c.step_turn env conn turn
  have effects : (serve c ⟨turn.action conn, env⟩).1 =
      c.effects (c.step ⟨turn.action conn, env⟩).1 := rfl
  rw [effects]
  generalize c.step ⟨turn.action conn, env⟩ = result at worked ⊢
  -- A turn keeps the registration or gives it up, and no turn leaves a connection fresh.
  have uncontrolled : result.2.phases[conn]? ≠ some .control ∨ result = (.disabled, c) := by
    cases worked with
    | disabled => exact .inr rfl
    | _ => exact .inl (by simp)
  have held : holds result.2 conn = holds c conn ∨ holds result.2 conn = none := by
    cases worked with
    | disabled => exact .inl rfl
    | attached found => exact .inl (by simp [holds, found, Phase.holds])
    | hungUp found => exact .inl (by simp [holds, found, Phase.holds])
    | closed found => exact .inr (by simp [holds, Phase.holds])
    | detached found => exact .inr (by simp [holds, Phase.holds])
  have fresh : result.2.phases[conn]? = none → result = (.disabled, c) := by
    cases worked with
    | disabled => exact fun _ => rfl
    | _ => intro absent; simp at absent
  cases peer : l.peer with
  | none =>
      have unused := orderly.unused peer
      have silent := postsTo_eq_nil agrees result.1 unused.absent
      have finished : (result.2.phases[conn]? = none ∨ result.2.phases[conn]? = some .finished) ∧
          answers (c.effects result.1) = [] := by
        cases worked with
        | disabled => exact ⟨unused.phase, rfl⟩
        | closed found => exact ⟨.inr (by simp), rfl⟩
        | attached found => rcases unused.phase with h | h <;> simp [h] at found
        | hungUp found => exact absurd found (unused.absent _).1
        | detached found => exact absurd found (unused.absent _).2
      have same : Unused result.2 conn (l.serve conn l.up (c.effects result.1)) :=
        ⟨unused.up, finished.2, by simp [Link.serve, silent, unused.down], finished.1⟩
      simpa [Orderly, Link.serve, peer] using same
  | some peer' =>
      cases peer' with
      | client sent received =>
          have ofClient := orderly.client peer
          have same : OfClient Sends result.2 conn (l.serve conn l.up (c.effects result.1)) :=
            ⟨ofClient.sends, fun leaves => held.elim (·.trans (ofClient.unregistered leaves)) id⟩
          simpa [Orderly, Link.serve, peer] using same
      | worker p =>
          have ofWorker := orderly.worker peer
          have same : OfWorker result.2 conn p (l.serve conn l.up (c.effects result.1)) := by
            refine ⟨ofWorker.writes, fun reg found => ?_, fun absent => ?_, ?_⟩
            · rcases held with kept | gone
              · exact ofWorker.registered reg (kept ▸ found)
              · rw [gone] at found
                cases found
            · have disabled := fresh absent
              rw [disabled] at absent ⊢
              obtain ⟨-, down, rest⟩ := ofWorker.waiting absent
              exact ⟨rfl, by simp [Link.serve, Coordinator.effects, down, postsTo, posts], rest⟩
            · rcases uncontrolled with other | same
              · exact other
              · rw [same]
                exact ofWorker.notControl
          simpa [Orderly, Link.serve, peer] using same

theorem orderly_write (orderly : Orderly Sends c conn l) {m : Message} {owed : List Message}
    (first : l.owed = m :: owed) (down : List Message) :
    Orderly Sends c conn { l with owed := owed, down := down } := by
  cases peer : l.peer with
  | none => simp [(orderly.unused peer).owed] at first
  | some peer' =>
      cases peer' with
      | client sent received =>
          have ofClient := orderly.client peer
          have same : OfClient Sends c conn { l with owed := owed, down := down } :=
            ⟨ofClient.sends, ofClient.unregistered⟩
          simpa [Orderly, peer] using same
      | worker p =>
          have ofWorker := orderly.worker peer
          have same : OfWorker c conn p { l with owed := owed, down := down } := by
            refine ⟨ofWorker.writes, ofWorker.registered, fun fresh => ?_, ofWorker.notControl⟩
            simp [(ofWorker.waiting fresh).1] at first
          simpa [Orderly, peer] using same

theorem orderly_hear (orderly : Orderly Sends c conn l) {peer : Peer} {m : Message}
    {down : List Message}
    (named : l.peer = some peer) (first : l.down = m :: down) :
    Orderly Sends c conn (system.move { l with down := down } (hear peer m).2 (hear peer m).1) := by
  cases peer with
  | client sent received =>
      have ofClient := orderly.client named
      have up : (system.move { l with down := down } (hear (.client sent received) m).2 []).up =
          l.up := by simp [System.move]
      exact ⟨fun m' member => ofClient.sends m' (up ▸ member), ofClient.unregistered⟩
  | worker p =>
      have ofWorker := orderly.worker named
      have ids := p.hear_ids (m := m)
      have same : OfWorker c conn (p.hear m).2
          (system.move { l with down := down } (.worker (p.hear m).2) (p.hear m).1) := by
        refine ⟨fun m' member => ?_, fun reg held => ?_, fun fresh => ?_, ofWorker.notControl⟩
        · rw [ids.1, ids.2]
          rcases List.mem_append.mp member with before | now
          · exact ofWorker.writes m' before
          · rcases p.hear_writes (m := m) with silent | ⟨-, -, answered⟩
            · simp [silent] at now
            · rw [answered] at now
              exact (answer_writes m' (mem_fits now)).1
        · rw [ids.1, ids.2]
          exact ofWorker.registered reg held
        · simp [(ofWorker.waiting fresh).2.1] at first
      exact same

theorem orderly_cut (orderly : Orderly Sends c conn l) {peer : Peer} (named : l.peer = some peer) :
    Orderly Sends c conn (system.move l (cut peer) []) := by
  cases peer with
  | client sent received =>
      have ofClient := orderly.client named
      have up : (system.move l (cut (.client sent received)) []).up = l.up := by simp [System.move]
      exact ⟨fun m' member => ofClient.sends m' (up ▸ member), ofClient.unregistered⟩
  | worker p =>
      have ofWorker := orderly.worker named
      have ids := p.cut_ids
      have stage : p.cut.stage ≠ .serving := by
        unfold WorkerProcess.cut
        cases stage : p.stage <;> simp [stage]
      have same : OfWorker c conn p.cut (system.move l (.worker p.cut) []) := by
        have up : (system.move l (.worker p.cut) []).up = l.up := by simp [System.move]
        refine ⟨?_, ?_, fun fresh => ?_, ofWorker.notControl⟩
        · rw [up, ids.1, ids.2]
          exact ofWorker.writes
        · rw [ids.1, ids.2]
          exact ofWorker.registered
        · obtain ⟨owed, down, -, only⟩ := ofWorker.waiting fresh
          rw [up, ids.1, ids.2]
          exact ⟨owed, down, stage, only⟩
      exact same

def TableAgrees (c : Coordinator) (_ : ConnId) (_ : Link) : Prop := c.TableAgrees

theorem source_conn {other : ConnId} {input : Input} {up : List Message}
    (source : system.Source c other l input up) : input.action.conn = other := by
  cases source with
  | received m up env first waits => rfl
  | own turn => obtain ⟨turn, env⟩ := turn; cases turn <;> rfl

theorem genuine_source (leaves : ∀ conn m, Sends conn m → m.kind ≠ .register) {input : Input}
    {up : List Message} (orderly : Orderly Sends c conn l) (running : c.terminated = false)
    (source : system.Source c conn l input up) : Genuine Sends (Machine.event serve c input) := by
  cases source with
  | received m up env first waits => exact genuine_frame leaves orderly env first running waits
  | own turn => exact genuine_turn turn.1 turn.2 running

theorem waited_source {input : Input} {up : List Message} (running : c.terminated = false)
    (source : system.Source c conn l input up) : Waited (Machine.event serve c input) := by
  cases source with
  | received m up env first waits => exact waited_frame env running waits
  | own turn => exact waited_turn turn.1 turn.2 running

theorem live_iff : system.live c = true ↔ c.terminated = false := by simp [system]

theorem orderly_keeps : system.Keeps Sends TableAgrees fun _ => Orderly Sends where
  joins past c conn l hello _ now absent := orderly_join (now.unused absent) hello
  sends past c conn l peer peer' m _ now named sent allowed := by
    cases peer with
    | worker p => cases sent
    | client before received =>
        obtain rfl := Option.some.inj sent
        have ofClient := now.client named
        refine ⟨fun m' member => ?_, ofClient.unregistered⟩
        rcases List.mem_append.mp member with earlier | new
        · exact ofClient.sends m' earlier
        · obtain rfl := List.mem_singleton.mp (mem_fits new)
          exact allowed
  serves past c conn l input up agrees now settled live source := by
    cases source with
    | received m up env first waits =>
        exact orderly_frame now env first (live_iff.mp live) waits
    | own turn => exact orderly_turn agrees now turn.1 turn.2
  elsewhere past c conn l other l' input up agrees now _ there mine settled live source :=
    orderly_elsewhere agrees now (source_conn source ▸ mine)
  writes past c conn l m owed _ now first := orderly_write now first _
  hears past c conn l peer m down _ now named hears first := orderly_hear now named first
  cuts past c conn l peer _ now named := orderly_cut now named

/-! ## Runs -/

structure Known (Sends : ConnId → Message → Prop) (c : Coordinator) (conn : ConnId) (l : Link) :
    Prop where
  agrees : c.TableAgrees
  orderly : Orderly Sends c conn l

def Sent (actions : List Action) (conn : ConnId) (m : Message) : Prop := .send conn m ∈ actions

variable {epoch : CoordinatorEpoch} {actions : List Action}

theorem initial_orderly (Sends : ConnId → Message → Prop) (epoch : CoordinatorEpoch) :
    System.Everywhere (Orderly Sends) (initial epoch) :=
  fun _ => (⟨rfl, rfl, rfl, .inl rfl⟩ : Unused _ _ _)

theorem throughout_known (epoch : CoordinatorEpoch) (actions : List Action) :
    Machine.Throughout system.act (System.Everywhere (Known (Sent actions))) (initial epoch)
      actions := by
  have agrees : Machine.Throughout system.act (System.Everywhere TableAgrees) (initial epoch)
      actions :=
    System.throughout_server (I := Coordinator.TableAgrees)
      (fun c input agrees => c.tableAgrees_step agrees input) (fun _ _ found => by
        simp [initial, Duplex.State.alone] at found) actions
  have orderly := orderly_keeps.throughout agrees
    (initial_orderly (Sent actions) epoch) fun _ _ sent => sent
  exact (agrees.and orderly).mono fun s both conn => ⟨both.1 conn, both.2 conn⟩

theorem served_genuine (closed : Closed actions) :
    ∀ e ∈ served epoch actions, Genuine (Sent actions) e :=
  System.served_all (fun _ _ _ _ _ known _ live source =>
    genuine_source closed.sends known.orderly (live_iff.mp live) source)
    (throughout_known epoch actions)

theorem served_waited : ∀ e ∈ served epoch actions, Waited e :=
  System.served_all (fun _ _ _ _ _ _ _ live source => waited_source (live_iff.mp live) source)
    (throughout_known epoch actions)

/-! ## Who was heard -/

def WrittenBy (p : WorkerProcess) (c : Coordinator) (conn : ConnId) (m : Message) : Prop :=
  (c.phases[conn]? = none ∧ m.kind = .register) ∨ ∃ reg, c.phases[conn]? = some (.serving reg) ∧
    reg.workerId = p.worker ∧ reg.bootId = p.boot ∧ Writes p.worker p.boot m

def HeardFrom (Sends : ConnId → Message → Prop) (c : Coordinator) (conn : ConnId) (m : Message) :
    Option Peer → Prop
  | none => False
  | some (.client _ _) => (∀ m, Sends conn m → m.kind ≠ .register) → Commands c conn m
  | some (.worker p) => WrittenBy p c conn m

def Heard (Sends : ConnId → Message → Prop) (past : List Event) (_ : Coordinator) (conn : ConnId)
    (l : Link) : Prop :=
  ∀ e ∈ past, ∀ m env, e.input = ⟨.frame conn m, env⟩ → HeardFrom Sends e.before conn m l.peer

theorem heardFrom_hear {m m' : Message} {peer : Peer}
    (heard : HeardFrom Sends c conn m (some peer)) :
    HeardFrom Sends c conn m (some (hear peer m').2) := by
  cases peer with
  | client sent received => exact heard
  | worker p =>
      simpa [HeardFrom, WrittenBy, hear, p.hear_ids] using heard

theorem heardFrom_cut {m : Message} {peer : Peer} (heard : HeardFrom Sends c conn m (some peer)) :
    HeardFrom Sends c conn m (some (cut peer)) := by
  cases peer with
  | client sent received => exact heard
  | worker p =>
      simpa [HeardFrom, WrittenBy, cut, p.cut_ids] using heard

theorem heardFrom_frame (orderly : Orderly Sends c conn l) {m : Message} {up : List Message}
    (first : l.up = m :: up) (waits : c.reads conn = true) : HeardFrom Sends c conn m l.peer := by
  have member : m ∈ l.up := by simp [first]
  cases peer : l.peer with
  | none => simp [(orderly.unused peer).up] at member
  | some peer' =>
      cases peer' with
      | client sent received =>
          have ofClient := orderly.client peer
          intro leaves
          have kind := leaves m (ofClient.sends m member)
          have held := ofClient.unregistered leaves
          unfold Coordinator.reads at waits
          split at waits
          · next fresh => exact .inl ⟨fresh, kind⟩
          · next reg serving => simp [holds, serving, Phase.holds] at held
          · next control => exact .inr control
          · cases waits
      | worker p =>
          have ofWorker := orderly.worker peer
          unfold Coordinator.reads at waits
          split at waits
          · next fresh =>
              obtain ⟨-, -, -, nothing | ⟨node, only⟩⟩ := ofWorker.waiting fresh
              · simp [nothing] at member
              · rw [only, List.mem_singleton] at member
                exact .inl ⟨fresh, congrArg Message.kind member⟩
          · next reg serving =>
              have held : holds c conn = some reg := by simp [holds, serving, Phase.holds]
              obtain ⟨worker, boot⟩ := ofWorker.registered reg held
              exact .inr ⟨reg, serving, worker, boot, ofWorker.writes m member⟩
          · next control => exact absurd control ofWorker.notControl
          · cases waits

theorem heard_keeps : system.Keeps Sends (Known Sends) (Heard Sends) where
  joins past c conn l hello known now absent e member m env input := by
    have heard := now e member m env input
    rw [absent] at heard
    exact heard.elim
  sends past c conn l peer peer' m known now named sent _ e member m' env input := by
    have heard := now e member m' env input
    cases peer with
    | worker p => cases sent
    | client before received =>
        obtain rfl := Option.some.inj sent
        rw [named] at heard
        exact heard
  serves past c conn l input up known now settled live source e member m env same := by
    rcases List.mem_append.mp member with earlier | this
    · exact now e earlier m env same
    · obtain rfl := List.mem_singleton.mp this
      have same : input = ⟨.frame conn m, env⟩ := same
      cases source with
      | received m' up env' first waits =>
          cases same
          exact heardFrom_frame known.orderly first waits
      | own turn => obtain ⟨turn, env'⟩ := turn; cases turn <;> cases same
  elsewhere past c conn l other l' input up known now _ _ mine settled live source e member m env
      same := by
    rcases List.mem_append.mp member with earlier | this
    · exact now e earlier m env same
    · obtain rfl := List.mem_singleton.mp this
      have same : input = ⟨.frame conn m, env⟩ := same
      have here := source_conn source
      rw [same] at here
      exact absurd here.symm mine
  writes past c conn l m owed known now first := now
  hears past c conn l peer m down known now named hears first e member m' env input := by
    have heard := now e member m' env input
    rw [named] at heard
    exact heardFrom_hear heard
  cuts past c conn l peer known now named e member m env input := by
    have heard := now e member m env input
    rw [named] at heard
    exact heardFrom_cut heard

theorem heard_run (epoch : CoordinatorEpoch) (actions : List Action) (conn : ConnId) :
    Heard (Sent actions) (served epoch actions) (run epoch actions).server conn
      ((run epoch actions).link conn) :=
  heard_keeps.run (throughout_known epoch actions) (fun _ _ => nofun) (fun _ _ sent => sent) conn

theorem writtenBy_of_served {e : Event} {m : Message} {env : Surroundings}
    (peer : (run epoch actions).peers conn = some (.worker p)) (member : e ∈ served epoch actions)
    (input : e.input = ⟨.frame conn m, env⟩) : WrittenBy p e.before conn m := by
  have heard := heard_run epoch actions conn e member m env input
  rwa [show ((run epoch actions).link conn).peer = some (.worker p) from peer] at heard

theorem served_eq {e : Event} (member : e ∈ served epoch actions) :
    e = Machine.event serve e.before e.input := by
  obtain ⟨inputs, trace, -⟩ := System.served_eq_trace system (initial epoch) actions
  rw [served, trace] at member
  obtain ⟨front, input, back, -, rfl⟩ := Machine.mem_trace.mp member
  rfl

def attends (conn : ConnId) (e : Event) : Bool :=
  match e.input.action, e.before.phases[conn]? with
  | .frame conn' _, some (.serving _) => conn' = conn
  | _, _ => false

theorem attends_iff {e : Event} : attends conn e = true ↔
    ∃ m env reg, e.input = ⟨.frame conn m, env⟩ ∧ e.before.phases[conn]? = some (.serving reg) := by
  obtain ⟨before, ⟨action, env⟩, output, after⟩ := e
  constructor
  · intro taken
    rw [attends] at taken
    dsimp only at taken
    split at taken
    · next conn' m reg phase =>
        obtain rfl := of_decide_eq_true taken
        exact ⟨m, env, reg, rfl, phase⟩
    · cases taken
  · rintro ⟨m, env', reg, input, phase⟩
    cases input
    have phase : before.phases[conn]? = some (.serving reg) := phase
    simp [attends, phase]

end ReplicaFabric.Fleet
