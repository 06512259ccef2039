import ReplicaFabric.Distributed.Handlers
import ReplicaFabric.Distributed.Worker
import ReplicaFabric.Library.Duplex

/-!
# The coordinator and its workers

The coordinator, worker processes and clients. Frames on different connections overtake each other
freely; three things are taken as given. A frame goes out whole, although `write_frame` sends its
header and its payload apart and no lock keeps a `PONG` or a `REGISTER_ACK` out of what
`send_to_worker` writes. A frame decodes: a client may send any message, but no bytes that are none.
The coordinator handles a message in one step. Where a result also needs a client to leave `REGISTER`
to the worker processes, it says so of that client, or of all of them (`Closed`).
-/

namespace ReplicaFabric

open Duplex

inductive Peer
  | worker (p : WorkerProcess)
  | client (sent received : List Message)
  deriving DecidableEq

inductive Hello
  | worker (argv : List Str)
  | client

def Message.fits (m : Message) : Bool := (encodeMessage m).length ≤ kMaxFrame

/-- A forwarded frame goes out on the connection that the table has for the worker. -/
def Coordinator.effects (c : Coordinator) : Outcome → List (Effect ConnId Message)
  | .done outputs => outputs.filterMap fun
      | .reply m => some (.answer m)
      | .forward w m => (c.workerConns[w]?).map fun conn => .post conn m
  | _ => []

abbrev Fleet := Duplex.State Coordinator Peer ConnId Message

namespace Fleet

abbrev Event := Duplex.Served Coordinator ConnId Message Input

def serve (c : Coordinator) (input : Input) : List (Effect ConnId Message) × Coordinator :=
  (c.effects (c.step input).1, (c.step input).2)

def start : Hello → List Message × Peer
  | .worker argv => ((WorkerProcess.start argv).1, .worker (WorkerProcess.start argv).2)
  | .client => ([], .client [] [])

def send : Peer → Message → Option Peer
  | .worker _, _ => none
  | .client sent received, m => some (.client (sent ++ [m]) received)

def hear : Peer → Message → List Message × Peer
  | .worker p, m => ((p.hear m).1, .worker (p.hear m).2)
  | .client sent received, m => ([], .client sent (received ++ [m]))

def hears : Peer → Bool
  | .worker p => p.hears
  | .client .. => true

def cut : Peer → Peer
  | .worker p => .worker p.cut
  | p => p

def system : Duplex.System Coordinator Peer ConnId Message Input Surroundings
    (Turn × Surroundings) Hello where
  serve := serve
  receive conn m env := ⟨.frame conn m, env⟩
  own conn turn := ⟨turn.1.action conn, turn.2⟩
  reads := Coordinator.reads
  live c := !c.terminated
  fits := Message.fits
  start := start
  send := send
  hear := hear
  hears := hears
  cut := cut

abbrev Link := Duplex.Link Peer Message

theorem system_fits : system.fits = Message.fits := rfl

theorem move_up (l : Link) (peer : Peer) (ms : List Message) :
    (system.move l peer ms).up = l.up ++ ms.filter Message.fits := rfl

abbrev Action := Duplex.Action ConnId Message Surroundings (Turn × Surroundings) Hello

def initial (epoch : CoordinatorEpoch) : Fleet := .alone { epoch := epoch }

def run (epoch : CoordinatorEpoch) (actions : List Action) : Fleet :=
  Machine.run system.act (initial epoch) actions

def served (epoch : CoordinatorEpoch) (actions : List Action) : List Event :=
  system.served (initial epoch) actions

def registers : Action → Bool
  | .send _ m => m.kind = .register
  | _ => false

/-- `REGISTER` is left to the worker processes. -/
def Closed (actions : List Action) : Prop := ∀ action ∈ actions, registers action = false

instance (actions : List Action) : Decidable (Closed actions) :=
  inferInstanceAs (Decidable (∀ action ∈ actions, _ = _))

theorem Closed.sends {actions : List Action} (closed : Closed actions) (conn : ConnId) (m : Message)
    (member : .send conn m ∈ actions) : m.kind ≠ .register := by
  simpa [registers] using closed _ member

end Fleet

def Peer.host : Peer → Option (WorkerId × WorkerBootId)
  | .worker p => some (p.worker, p.boot)
  | .client .. => none

def Fleet.Stay (s t : Fleet) : Prop :=
  ∀ conn peer, s.peers conn = some peer → ∃ peer', t.peers conn = some peer' ∧ peer'.host = peer.host

namespace Fleet

variable {s t : Fleet}

theorem stay_act (s : Fleet) (action : Action) : Stay s (system.act s action).2 := by
  intro conn peer now
  have moved {other : ConnId} {t : Fleet} {next : Peer} {ms : List Message} (peers : t.peers = s.peers)
      (same : other = conn → next.host = peer.host) :
      ∃ peer', (system.moveTo t other next ms).peers conn = some peer' ∧ peer'.host = peer.host := by
    by_cases here : other = conn
    · exact ⟨next, by simp [System.moveTo, here], same here⟩
    · exact ⟨peer, by simp [System.moveTo, peers, Function.update, Ne.symm here, now], rfl⟩
  have change := system.act_change s action
  generalize (system.act s action).1 = output at change
  generalize (system.act s action).2 = next at change ⊢
  cases change with
  | @joins other hello fresh =>
      refine moved rfl fun here => ?_
      rw [here, now] at fresh
      cases fresh
  | @sends other m p p' found sent =>
      refine moved rfl fun here => ?_
      rw [here, now] at found
      obtain rfl := Option.some.inj found
      cases peer with
      | worker p => cases sent
      | client before received =>
          obtain rfl := Option.some.inj sent
          rfl
  | @hears other p m down found hears taken =>
      refine moved rfl fun here => ?_
      rw [here, now] at found
      obtain rfl := Option.some.inj found
      cases peer with
      | worker p => exact congrArg some (Prod.ext p.hear_ids.1 p.hear_ids.2)
      | client before received => rfl
  | @cuts other p found =>
      refine moved rfl fun here => ?_
      rw [here, now] at found
      obtain rfl := Option.some.inj found
      cases peer with
      | worker p => exact congrArg some (Prod.ext p.cut_ids.1 p.cut_ids.2)
      | client before received => rfl
  | _ => exact ⟨peer, now, rfl⟩

theorem throughout_stay (s : Fleet) (actions : List Action) :
    Machine.Throughout system.act (Stay · (Machine.run system.act s actions)) s actions := by
  have refl (s : Fleet) : Stay s s := fun conn peer now => ⟨peer, now, rfl⟩
  refine Machine.throughout_toward (fun s action t later => ?_) refl actions
  intro conn peer now
  obtain ⟨next, there, host⟩ := stay_act s action conn peer now
  obtain ⟨last, found, same⟩ := later conn next there
  exact ⟨last, found, same.trans host⟩

end Fleet

def Phase.holds : Phase → Option WorkerRegistration
  | registered reg _ | serving reg | unregistered reg => some reg
  | _ => none

namespace Coordinator

variable {c next : Coordinator} {conn : ConnId} {w : WorkerId}

def TableAgrees (c : Coordinator) : Prop :=
  ∀ (w : WorkerId) (conn : ConnId), c.workerConns[w]? = some conn →
    ∃ reg, (c.phases[conn]? = some (.serving reg) ∨ c.phases[conn]? = some (.unregistered reg)) ∧
      reg.workerId = w

theorem TableAgrees.insert (agrees : TableAgrees c) (other : ConnId) (phase : Phase)
    (idle : ∀ reg, c.phases[other]? ≠ some (.serving reg) ∧
      c.phases[other]? ≠ some (.unregistered reg)) (found : c.workerConns[w]? = some conn) :
    ∃ reg, ((c.phases.insert other phase)[conn]? = some (.serving reg) ∨
      (c.phases.insert other phase)[conn]? = some (.unregistered reg)) ∧ reg.workerId = w := by
  obtain ⟨reg, phases, named⟩ := agrees w conn found
  refine ⟨reg, ?_, named⟩
  have elsewhere : other ≠ conn := by
    rintro rfl
    exact phases.elim (idle reg).1 (idle reg).2
  rw [Table.get_insert_ne _ _ elsewhere]
  exact phases

theorem Change.tableAgrees {action : Action} (change : Change c action next)
    (agrees : TableAgrees c) : TableAgrees next := by
  cases change with
  | disabled => exact agrees
  | terminated => exact agrees
  | @registers other m reg fresh =>
      exact fun w conn found => agrees.insert other _ (by simp [fresh]) found
  | @opens other m next calls fresh handles =>
      intro w conn found
      have found : c.workerConns[w]? = some conn := handles.workerConns ▸ found
      have inserted := agrees.insert other .control (by simp [fresh]) found
      rw [← handles.phases] at inserted
      exact inserted
  | handles handles =>
      intro w conn found
      rw [handles.phases]
      exact agrees w conn (handles.workerConns ▸ found)
  | @attaches other reg r phase =>
      intro w conn found
      have found : (c.workerConns.insert reg.workerId other)[w]? = some conn := found
      rw [Table.get_insert] at found
      split_ifs at found with named
      · cases found
        exact ⟨reg, .inl ((Table.get_insert ..).trans (if_pos rfl)), named⟩
      · exact agrees.insert other _ (by simp [phase]) found
  | @hangsUp other reg phase =>
      intro w conn found
      obtain ⟨reg', phases, named⟩ := agrees w conn found
      by_cases here : other = conn
      · subst here
        rw [phase] at phases
        obtain rfl : reg = reg' := by simpa using phases
        exact ⟨reg, .inr ((Table.get_insert ..).trans (if_pos rfl)), named⟩
      · refine ⟨reg', ?_, named⟩
        have same := Table.get_insert_ne c.phases (Phase.unregistered reg) here
        exact phases.imp same.trans same.trans
  | @closes other phase =>
      exact fun w conn found => agrees.insert other _ (by rcases phase with h | h <;> simp [h]) found
  | @detaches other reg phase =>
      intro w conn found
      have found : (c.workerConns.erase reg.workerId)[w]? = some conn := found
      rw [Table.get_erase] at found
      split_ifs at found with named
      obtain ⟨reg', phases, named'⟩ := agrees w conn found
      refine ⟨reg', ?_, named'⟩
      have elsewhere : other ≠ conn := by
        rintro rfl
        rw [phase] at phases
        obtain rfl : reg = reg' := by simpa using phases
        exact named named'
      have same := Table.get_insert_ne c.phases Phase.finished elsewhere
      exact phases.imp same.trans same.trans

theorem tableAgrees_step (agrees : TableAgrees c) (input : Input) : TableAgrees (c.step input).2 :=
  (c.step_change input).tableAgrees agrees

end Coordinator

namespace Sample

def argv (w b : UInt64) : List Str :=
  ["--port", "9000", "--worker", (⟨0, w⟩ : WorkerId).str, "--boot", (⟨0, b⟩ : WorkerBootId).str,
    "--node", (⟨0, w⟩ : NodeId).str]

def took (conn : ConnId) : Fleet.Action := .deliver conn surroundings

def registering (conn : ConnId) (w b : UInt64) : List Fleet.Action :=
  [.join conn (.worker (argv w b)), took conn, .own conn (.attach, surroundings), .write conn,
    .hear conn]

def commanding (conn : ConnId) (m : Message) : List Fleet.Action :=
  [.send conn m, took conn, .write conn]

def createSet : Message where
  kind := .createSet
  set := setId
  payload := idPayload ⟨0, 1⟩ ["model", "workload", "tenant", "artifact", "agen", "sgen", "pgen"]

def provision : Message where
  kind := .provision
  seq := 7
  replica := ⟨0, 1⟩
  set := setId
  payload := idPayload ⟨0, 1⟩ ["worker"]

def provisioning : List Fleet.Action :=
  registering 0 1 1 ++ .join 1 .client :: commanding 1 createSet ++ commanding 1 provision

def warming : List Fleet.Action := [.hear 0, took 0, took 0, took 0]

def executing : List Fleet.Action :=
  commanding 1 { execute with payload := "req=a" } ++ [.hear 0, took 0, .write 0, .hear 0]

end Sample

end ReplicaFabric
