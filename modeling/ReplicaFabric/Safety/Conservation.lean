import ReplicaFabric.Distributed.Genuine

/-!
# What comes back from a worker process

A worker process reports on what is forwarded to it, in order and once for each frame. What it has
been sent and has not reported on yet is still on its way to it.
-/

namespace ReplicaFabric

open Duplex

namespace WorkerProcess

def reports (p : WorkerProcess) (m : Message) : List Message := (p.answer m).filter Message.fits

variable {p q : WorkerProcess} {m : Message}

theorem reports_congr (worker : p.worker = q.worker) (boot : p.boot = q.boot) :
    p.reports = q.reports := by
  funext m
  simp only [reports, answer, worker, boot]

@[simp] theorem reports_hear : (p.hear m).2.reports = p.reports :=
  reports_congr p.hear_ids.1 p.hear_ids.2

@[simp] theorem reports_cut : p.cut.reports = p.reports := reports_congr p.cut_ids.1 p.cut_ids.2

theorem reports_eq_nil (warm : m.kind ≠ .warm) (execute : m.kind ≠ .execute)
    (ping : m.kind ≠ .ping) : p.reports m = [] := by
  rw [reports, answer]
  split
  · contradiction
  · contradiction
  · contradiction
  · rfl

theorem mem_reports {m' : Message} (member : m' ∈ p.reports m) : m' ∈ p.answer m := by
  rw [reports] at member
  exact List.mem_of_mem_filter member

end WorkerProcess

namespace Coordinator

variable {c : Coordinator} {m reply : Message}

def Unasking (m : Message) : Prop := m.kind ≠ .warm ∧ m.kind ≠ .execute ∧ m.kind ≠ .ping

theorem Unasking.reports (unasking : Unasking m) (p : WorkerProcess) : p.reports m = [] :=
  WorkerProcess.reports_eq_nil unasking.1 unasking.2.1 unasking.2.2

theorem RepliesTo.unasking {epoch : CoordinatorEpoch} (answers : RepliesTo epoch m reply) :
    Unasking reply := by
  rw [Unasking, answers.kind]
  unfold MessageKind.replied
  split <;> exact ⟨nofun, nofun, nofun⟩

theorem Spoken.answers {outputs : List Output} (spoken : Spoken c m outputs) :
    ∃ reply, RepliesTo c.epoch m reply ∧ answers (c.effects (.done outputs)) = [reply] := by
  cases spoken with
  | answered answers => exact ⟨_, answers, rfl⟩
  | @provisioned reply w kind answers connected =>
      refine ⟨reply, answers, ?_⟩
      obtain ⟨conn, found⟩ := Option.isSome_iff_exists.mp connected
      simp [effects, found, Duplex.answers]
  | @forwarded reply rs kind answers found connected =>
      refine ⟨reply, answers, ?_⟩
      obtain ⟨conn, there⟩ := Option.isSome_iff_exists.mp connected
      simp [effects, there, Duplex.answers]

theorem unasking_frame (c : Coordinator) (env : Surroundings) (conn : ConnId) (m : Message)
    (running : c.terminated = false) (waits : c.reads conn = true) :
    ∀ reply ∈ answers (c.effects (c.step ⟨.frame conn m, env⟩).1), Unasking reply := by
  have taken := c.step_frame env conn m running waits
  generalize c.step ⟨.frame conn m, env⟩ = result at taken ⊢
  have spoken {outputs : List Output} (spoken : Spoken c m outputs) :
      ∀ reply ∈ answers (c.effects (.done outputs)), Unasking reply := by
    obtain ⟨reply, answers, only⟩ := spoken.answers
    rw [only, List.forall_mem_singleton]
    exact answers.unasking
  cases taken with
  | failed => exact fun _ member => absurd member List.not_mem_nil
  | registered fresh kind built => exact fun _ member => absurd member List.not_mem_nil
  | opened fresh kind ok => exact spoken (handleControl_spoken ok)
  | commanded control ok => exact spoken (handleControl_spoken ok)
  | reported serving ok =>
      rw [handleWorker_outputs ok]
      split
      · rintro reply member
        obtain rfl := List.mem_singleton.mp member
        exact ⟨nofun, nofun, nofun⟩
      · exact fun _ member => absurd member List.not_mem_nil

theorem unasking_turn (c : Coordinator) (env : Surroundings) (conn : ConnId) (turn : Turn) :
    ∀ reply ∈ answers (c.effects (c.step ⟨turn.action conn, env⟩).1), Unasking reply := by
  have worked := c.step_turn env conn turn
  generalize c.step ⟨turn.action conn, env⟩ = result at worked ⊢
  cases worked with
  | attached phase =>
      rintro reply member
      obtain rfl := List.mem_singleton.mp member
      exact ⟨nofun, nofun, nofun⟩
  | _ => exact fun _ member => absurd member List.not_mem_nil

end Coordinator

namespace Fleet

open WorkerProcess

variable {Sends : ConnId → Message → Prop} {past : List Event} {c : Coordinator} {conn : ConnId}
  {l : Link} {p : WorkerProcess} {input : Input} {m : Message} {epoch : CoordinatorEpoch}
  {actions : List Action}

def frameOver (conn : ConnId) (input : Input) : List Message :=
  match input.action with
  | .frame conn' m => if conn' = conn ∧ m.kind ≠ .register then [m] else []
  | _ => []

/-- What the coordinator has taken on the connection, but for the registration. -/
def heardOver (conn : ConnId) (past : List Event) : List Message :=
  past.flatMap fun e => frameOver conn e.input

def forwardedTo (conn : ConnId) (past : List Event) : List Message :=
  past.flatMap fun e => postsTo e.output conn

def reported (ms : List Message) : List Message := ms.filter fun m => m.kind ≠ .register

@[simp] theorem heardOver_concat (conn : ConnId) (past : List Event) (e : Event) :
    heardOver conn (past ++ [e]) = heardOver conn past ++ frameOver conn e.input := by
  simp [heardOver]

@[simp] theorem forwardedTo_concat (conn : ConnId) (past : List Event) (e : Event) :
    forwardedTo conn (past ++ [e]) = forwardedTo conn past ++ postsTo e.output conn := by
  simp [forwardedTo]

/-- The account of a worker connection. -/
structure Balanced (past : List Event) (conn : ConnId) (p : WorkerProcess) (l : Link) : Prop where
  owed : ∀ m ∈ l.owed, p.reports m = []
  part : heardOver conn past ++ reported l.up <+: (forwardedTo conn past).flatMap p.reports
  rest : p.hears = true → heardOver conn past ++ reported l.up ++ l.down.flatMap p.reports =
    (forwardedTo conn past).flatMap p.reports

structure Silent (past : List Event) (conn : ConnId) : Prop where
  heard : heardOver conn past = []
  forwarded : forwardedTo conn past = []

def Account (past : List Event) (_ : Coordinator) (conn : ConnId) (l : Link) : Prop :=
  match l.peer with
  | none => Silent past conn
  | some (.worker p) => Balanced past conn p l
  | some (.client _ _) => True

theorem Account.worker (account : Account past c conn l) (peer : l.peer = some (.worker p)) :
    Balanced past conn p l := by
  rw [Account, peer] at account
  exact account

theorem Account.silent (account : Account past c conn l) (peer : l.peer = none) :
    Silent past conn := by
  rw [Account, peer] at account
  exact account

theorem Account.of_worker (peer : l.peer = some (.worker p)) (balanced : Balanced past conn p l) :
    Account past c conn l := by
  rw [Account, peer]
  exact balanced

theorem Account.of_none (peer : l.peer = none) (silent : Silent past conn) :
    Account past c conn l := by
  rw [Account, peer]
  exact silent

theorem reported_append (ms ms' : List Message) :
    reported (ms ++ ms') = reported ms ++ reported ms' := List.filter_append ..

theorem reported_reports (p : WorkerProcess) (m : Message) :
    reported (p.reports m) = p.reports m := by
  refine List.filter_eq_self.mpr fun m' member => ?_
  exact decide_eq_true (answer_writes m' (mem_reports member)).2

theorem balanced_joins (silent : Silent past conn) (unused : Unused c conn l) (argv : List Str) :
    Balanced past conn (WorkerProcess.start argv).2
      (system.move l (.worker (WorkerProcess.start argv).2) (WorkerProcess.start argv).1) := by
  have registers : reported ((WorkerProcess.start argv).1.filter Message.fits) = [] := by
    refine List.filter_eq_nil_iff.mpr fun m member => ?_
    have written := List.mem_of_mem_filter member
    unfold WorkerProcess.start at written
    split at written
    · cases written
    · split_ifs at written
      · cases written
      · obtain rfl := List.mem_singleton.mp written
        simp [registration]
  have up : reported (system.move l (.worker (WorkerProcess.start argv).2)
      (WorkerProcess.start argv).1).up = [] := by
    rw [move_up, unused.up]
    exact registers
  refine ⟨?_, ?_, fun _ => ?_⟩
  · simp [System.move, unused.owed]
  · simp [up, silent.heard]
  · rw [up, silent.heard, silent.forwarded]
    simp [System.move, unused.down]

theorem Balanced.forwards (balanced : Balanced past conn p l) {e : Event} {up owed : List Message}
    (taken : frameOver conn e.input ++ reported up = reported l.up)
    (unreported : ∀ m ∈ owed, p.reports m = []) :
    Balanced (past ++ [e]) conn p
      { l with up := up, owed := owed, down := l.down ++ postsTo e.output conn } := by
  have same : heardOver conn (past ++ [e]) ++ reported up =
      heardOver conn past ++ reported l.up := by
    rw [heardOver_concat, List.append_assoc, taken]
  refine ⟨unreported, ?_, fun hears => ?_⟩
  · rw [same, forwardedTo_concat, List.flatMap_append]
    exact balanced.part.trans (List.prefix_append _ _)
  · rw [same, forwardedTo_concat, List.flatMap_append, List.flatMap_append, ← balanced.rest hears]
    simp only [List.append_assoc]

theorem frameOver_frame (env : Surroundings) (m : Message) :
    frameOver conn ⟨.frame conn m, env⟩ = reported [m] := by
  by_cases kind : m.kind = .register <;> simp [frameOver, reported, kind]

theorem frameOver_turn (turn : Turn) (env : Surroundings) (conn' : ConnId) :
    frameOver conn ⟨turn.action conn', env⟩ = [] := by
  cases turn <;> rfl

theorem frameOver_elsewhere (elsewhere : input.action.conn ≠ conn) : frameOver conn input = [] := by
  obtain ⟨action, env⟩ := input
  cases action with
  | frame conn' m =>
      have other : conn' ≠ conn := elsewhere
      simp [frameOver, other]
  | _ => rfl

theorem balanced_serves (balanced : Balanced past conn p l) (running : c.terminated = false)
    {up : List Message} (source : system.Source c conn l input up) :
    Balanced (past ++ [Machine.event serve c input]) conn p
      (l.serve conn up (Machine.event serve c input).output) := by
  cases source with
  | received m up env first waits =>
      refine balanced.forwards ?_ fun m' member =>
        (c.unasking_frame env conn m running waits m' member).reports p
      rw [first]
      exact (congrArg (· ++ reported up) (frameOver_frame env m)).trans
        (reported_append [m] up).symm
  | own turn =>
      refine balanced.forwards ?_ fun m' member =>
        (c.unasking_turn turn.2 conn turn.1 m' member).reports p
      exact congrArg (· ++ reported l.up) (frameOver_turn turn.1 turn.2 conn)

theorem balanced_hears (balanced : Balanced past conn p l) (hears : p.hears = true)
    {down : List Message} (first : l.down = m :: down) :
    Balanced past conn (p.hear m).2
      (system.move { l with down := down } (.worker (p.hear m).2) (p.hear m).1) := by
  have rest := balanced.rest hears
  rw [first, List.flatMap_cons] at rest
  cases stage : p.stage with
  | registering =>
      have silent : (p.hear m).1 = [] := (p.hear_writes).resolve_right fun serves => by
        rw [stage] at serves
        cases serves.1
      have same : (system.move { l with down := down } (.worker (p.hear m).2) (p.hear m).1).up =
          l.up := by simp [System.move, silent]
      refine ⟨by simpa [System.move] using balanced.owed, ?_, fun goesOn => ?_⟩
      · rw [same, reports_hear]
        exact balanced.part
      · -- Only the acknowledgement lets the process go on, and it is not reported on.
        have ack : p.reports m = [] := by
          refine reports_eq_nil ?_ ?_ ?_ <;>
            · intro kind
              simp [WorkerProcess.hear, WorkerProcess.hears, stage, kind] at goesOn
        rw [ack, List.nil_append] at rest
        rw [same, reports_hear]
        exact rest
  | serving =>
      have answered : (p.hear m).1 = p.answer m := by simp [WorkerProcess.hear, stage]
      have up : reported (system.move { l with down := down } (.worker (p.hear m).2)
          (p.hear m).1).up = reported l.up ++ p.reports m := by
        rw [answered, move_up, reported_append]
        exact congrArg (reported l.up ++ ·) (reported_reports p m)
      refine ⟨by simpa [System.move] using balanced.owed, ?_, fun _ => ?_⟩
      · rw [up, reports_hear, ← rest]
        simp only [List.append_assoc]
        exact List.prefix_append_right_inj _ |>.mpr <| List.prefix_append_right_inj _ |>.mpr <|
          List.prefix_append _ _
      · rw [up, reports_hear, ← rest]
        simp only [List.append_assoc]
        rfl
  | _ => simp [WorkerProcess.hears, stage] at hears

theorem balanced_writes (balanced : Balanced past conn p l) {owed : List Message}
    (first : l.owed = m :: owed) :
    Balanced past conn p { l with owed := owed, down := l.down ++ [m].filter system.fits } := by
  have unreported : ∀ m' ∈ m :: owed, p.reports m' = [] := first ▸ balanced.owed
  refine ⟨fun m' member => unreported m' (List.mem_cons_of_mem m member), balanced.part,
    fun hears => ?_⟩
  have nothing : ([m].filter system.fits).flatMap p.reports = [] := by
    rw [List.flatMap_eq_nil_iff]
    intro m' member
    obtain rfl := List.mem_singleton.mp (mem_fits member)
    exact unreported m' List.mem_cons_self
  rw [List.flatMap_append, nothing, List.append_nil]
  exact balanced.rest hears

theorem balanced_cuts (balanced : Balanced past conn p l) :
    Balanced past conn p.cut (system.move l (.worker p.cut) []) := by
  have up : (system.move l (.worker p.cut) []).up = l.up := by simp [System.move]
  refine ⟨?_, ?_, fun goesOn => ?_⟩
  · rw [reports_cut]
    exact balanced.owed
  · rw [up, reports_cut]
    exact balanced.part
  · cases stage : p.stage <;> simp [WorkerProcess.cut, WorkerProcess.hears, stage] at goesOn

theorem Silent.serves (silent : Silent past conn) {e : Event} (heard : frameOver conn e.input = [])
    (forwarded : postsTo e.output conn = []) : Silent (past ++ [e]) conn :=
  ⟨by rw [heardOver_concat, silent.heard, heard]; rfl,
    by rw [forwardedTo_concat, silent.forwarded, forwarded]; rfl⟩

theorem account_keeps (Sends : ConnId → Message → Prop) :
    system.Keeps Sends (Known Sends) Account where
  joins past c conn l hello known now absent := by
    cases hello with
    | client => exact trivial
    | worker argv => exact balanced_joins (now.silent absent) (known.orderly.unused absent) argv
  sends past c conn l peer peer' m known now named sent _ := by
    cases peer with
    | worker p => cases sent
    | client before received =>
        obtain rfl := Option.some.inj sent
        exact trivial
  serves past c conn l input up known now settled live source := by
    have running := live_iff.mp live
    cases peer : l.peer with
    | none =>
        have unused := known.orderly.unused peer
        have silent : Silent (past ++ [Machine.event serve c input]) conn := by
          refine (now.silent peer).serves ?_ (postsTo_eq_nil known.agrees _ unused.absent)
          cases source with
          | received m up env first waits => simp [unused.up] at first
          | own turn => exact frameOver_turn turn.1 turn.2 conn
        exact .of_none peer silent
    | some peer' =>
        cases peer' with
        | client sent received => simp [Account, Link.serve, peer]
        | worker p =>
            exact .of_worker peer (balanced_serves (now.worker peer) running source)
  elsewhere past c conn l other l' input up known now _ _ mine settled live source := by
    have heard : frameOver conn input = [] := frameOver_elsewhere (source_conn source ▸ mine)
    cases peer : l.peer with
    | none =>
        have unused := known.orderly.unused peer
        have silent : Silent (past ++ [Machine.event serve c input]) conn :=
          (now.silent peer).serves heard (postsTo_eq_nil known.agrees _ unused.absent)
        exact .of_none peer silent
    | some peer' =>
        cases peer' with
        | client sent received => simp [Account, Link.post, peer]
        | worker p =>
            have balanced := now.worker peer
            refine .of_worker peer (balanced.forwards ?_ balanced.owed)
            exact congrArg (· ++ reported l.up) heard
  writes past c conn l m owed known now first := by
    cases peer : l.peer with
    | none => simpa [Account, peer] using now.silent peer
    | some peer' =>
        cases peer' with
        | client sent received => exact trivial
        | worker p => simpa [Account, peer] using balanced_writes (now.worker peer) first
  hears past c conn l peer m down known now named hears first := by
    cases peer with
    | client before received => exact trivial
    | worker p => exact balanced_hears (now.worker named) hears first
  cuts past c conn l peer known now named := by
    cases peer with
    | client before received => exact trivial
    | worker p => exact balanced_cuts (now.worker named)

theorem account_run (epoch : CoordinatorEpoch) (actions : List Action) (conn : ConnId) :
    Account (served epoch actions) (run epoch actions).server conn
      ((run epoch actions).link conn) :=
  (account_keeps (Sent actions)).run (throughout_known epoch actions)
    (fun _ => (⟨rfl, rfl⟩ : Silent [] _)) (fun _ _ sent => sent) conn

theorem reports_conserved (epoch : CoordinatorEpoch) (actions : List Action) (conn : ConnId)
    (p : WorkerProcess)
    (peer : (run epoch actions).peers conn = some (.worker p)) :
    Balanced (served epoch actions) conn p ((run epoch actions).link conn) :=
  (account_run epoch actions conn).worker peer

theorem reports_conserved_warming :
    Balanced (served ⟨0, 1⟩ (Sample.provisioning ++ Sample.warming)) 0
      ⟨⟨0, 1⟩, ⟨0, 1⟩, .serving⟩ ((run ⟨0, 1⟩ (Sample.provisioning ++ Sample.warming)).link 0) :=
  reports_conserved ⟨0, 1⟩ (Sample.provisioning ++ Sample.warming) 0 _ (by decide +kernel)

end Fleet

end ReplicaFabric
