import ReplicaFabric.Safety.Conservation

namespace ReplicaFabric

open Duplex WorkerProcess Coordinator

def Message.bears (kind : MessageKind) (id : ReplicaId) (attempt : AttemptId) (m : Message) :
    Bool :=
  m.kind = kind && m.replica = id && m.attempt = attempt

namespace Fleet

variable {id : ReplicaId} {attempt : AttemptId} {c : Coordinator} {conn : ConnId} {m : Message}
  {kind : MessageKind} {epoch : CoordinatorEpoch} {s t : Fleet}

def takes (id : ReplicaId) (attempt : AttemptId) (e : Event) : Bool :=
  match e.input.action with
  | .frame conn m =>
      match e.before.phases[conn]? with
      | some (.serving _) => m.bears .executeResult id attempt
      | _ => false
  | _ => false

def asks (id : ReplicaId) (attempt : AttemptId) : Action → Bool
  | .send _ m => m.bears .execute id attempt
  | _ => false

def ofWorker (t : Fleet) (conn : ConnId) : Bool :=
  match t.peers conn with
  | some (.worker _) => true
  | _ => false

/-- A request on its way, and a result on its way from a worker process, may still be taken as a
result. -/
def requests (id : ReplicaId) (attempt : AttemptId) (t : Fleet) : Weights ConnId Message where
  up conn m := (m.bears .execute id attempt).toNat +
    (ofWorker t conn && m.bears .executeResult id attempt).toNat
  owed _ m := (m.bears .execute id attempt).toNat
  down _ m := (m.bears .execute id attempt).toNat

theorem bears_eq_false (other : m.kind ≠ kind) : m.bears kind id attempt = false := by
  simp [Message.bears, other]

theorem answers_bear (id : ReplicaId) (attempt : AttemptId) (t : Fleet) (conn : ConnId)
    {effects : List (Effect ConnId Message)}
    (unasking : ∀ reply ∈ answers effects, Unasking reply) :
    total (requests id attempt t).owed (put conn (answers effects)) = 0 := by
  refine total_eq_zero fun x member => ?_
  obtain ⟨reply, inside, rfl⟩ := List.mem_map.mp member
  simp [requests, bears_eq_false (unasking reply inside).2.1]

theorem spoken_bears {outputs : List Output} (spoken : Spoken c m outputs) :
    total (requests id attempt t).down (posts (c.effects (.done outputs))) ≤
      (m.bears .execute id attempt).toNat := by
  cases spoken with
  | answered answers => exact Nat.zero_le _
  | @provisioned reply w kind answers connected =>
      obtain ⟨conn', found⟩ := Option.isSome_iff_exists.mp connected
      simp [effects, posts, found, requests, warmFor, Message.bears]
  | @forwarded reply rs kind answers found connected =>
      obtain ⟨conn', there⟩ := Option.isSome_iff_exists.mp connected
      simp [effects, posts, there, requests, Message.bears]

def Before (Sends : ConnId → Message → Prop) (t s : Fleet) : Prop :=
  System.Everywhere (Known Sends) s ∧ Stay s t

variable {Sends : ConnId → Message → Prop}

theorem ofWorker_of_serving {reg : WorkerRegistration}
    (leaves : ∀ conn m, Sends conn m → m.kind ≠ .register) (known : Before Sends t s)
    (serving : s.server.phases[conn]? = some (.serving reg)) : ofWorker t conn = true := by
  have held : holds s.server conn = some reg := by simp [holds, serving, Phase.holds]
  have orderly := (known.1 conn).orderly
  cases peer : (s.link conn).peer with
  | none =>
      rw [(orderly.unused peer).holds] at held
      cases held
  | some peer' =>
      cases peer' with
      | client sent received =>
          rw [(orderly.client peer).unregistered (leaves conn)] at held
          cases held
      | worker p =>
          obtain ⟨last, there, host⟩ := known.2 conn _ peer
          cases last with
          | worker q => simp [ofWorker, there]
          | client sent received => cases host

theorem ofWorker_of_client {sent received : List Message} (known : Before Sends t s)
    (peer : s.peers conn = some (.client sent received)) : ofWorker t conn = false := by
  obtain ⟨last, there, host⟩ := known.2 conn _ peer
  cases last with
  | worker q => cases host
  | client sent received => simp [ofWorker, there]

theorem takes_le (leaves : ∀ conn m, Sends conn m → m.kind ≠ .register) (id : ReplicaId)
    (attempt : AttemptId) (conn : ConnId) (m : Message) (known : Before Sends t s)
    (env : Surroundings) :
    (takes id attempt (Machine.event serve s.server ⟨.frame conn m, env⟩)).toNat ≤
      (requests id attempt t).up conn m := by
  cases taken : takes id attempt (Machine.event serve s.server ⟨.frame conn m, env⟩) with
  | false => exact Nat.zero_le _
  | true =>
      simp only [takes, Machine.event] at taken
      split at taken
      · next reg serving =>
          simp [requests, ofWorker_of_serving leaves known serving, taken]
      · cases taken

theorem frame_requests (leaves : ∀ conn m, Sends conn m → m.kind ≠ .register) (id : ReplicaId)
    (attempt : AttemptId) (conn : ConnId) (m : Message) (known : Before Sends t s)
    (env : Surroundings) (running : s.server.terminated = false)
    (waits : s.server.reads conn = true) :
    total (requests id attempt t).down (posts (serve s.server ⟨.frame conn m, env⟩).1) +
        (takes id attempt (Machine.event serve s.server ⟨.frame conn m, env⟩)).toNat ≤
      (requests id attempt t).up conn m := by
  have most := takes_le leaves id attempt conn m known env
  have control (other : ∀ reg, s.server.phases[conn]? ≠ some (.serving reg)) :
      takes id attempt (Machine.event serve s.server ⟨.frame conn m, env⟩) = false := by
    simp only [takes, Machine.event]
  have taken := s.server.step_frame env conn m running waits
  have output : (serve s.server ⟨.frame conn m, env⟩).1 =
      s.server.effects (s.server.step ⟨.frame conn m, env⟩).1 := rfl
  rw [output]
  generalize s.server.step ⟨.frame conn m, env⟩ = result at taken ⊢
  cases taken with
  | failed => exact (Nat.zero_add _).trans_le most
  | registered fresh kind built => exact (Nat.zero_add _).trans_le most
  | opened fresh kind ok =>
      rw [control (by simp [fresh])]
      exact Nat.le_trans (spoken_bears (handleControl_spoken ok)) (Nat.le_add_right _ _)
  | commanded phase ok =>
      rw [control (by simp [phase])]
      exact Nat.le_trans (spoken_bears (handleControl_spoken ok)) (Nat.le_add_right _ _)
  | @reported reg outputs after serving ok =>
      have nothing : posts (s.server.effects (.done outputs)) = [] := by
        rw [handleWorker_outputs ok]
        split <;> rfl
      rw [nothing]
      exact (Nat.zero_add _).trans_le most

theorem reports_request (p : WorkerProcess) (there : ofWorker t conn = true) :
    total (requests id attempt t).up (put conn (p.reports m)) ≤
      (m.bears .execute id attempt).toNat := by
  refine Nat.le_trans (total_put_filter_le _ _ _ _) ?_
  rw [total_put]
  unfold WorkerProcess.answer
  split
  · simp [requests, Message.bears, about]
  · next kind => simp [requests, Message.bears, result, about, there, kind]
  · simp [requests, Message.bears]
  · exact Nat.zero_le _

theorem hear_requests (known : Before Sends t s) {peer : Peer} (named : s.peers conn = some peer) :
    total (requests id attempt t).up (put conn ((hear peer m).1.filter system.fits)) ≤
      (m.bears .execute id attempt).toNat := by
  rw [system_fits]
  cases peer with
  | client sent received => simp [hear, put]
  | worker p =>
      have there : ofWorker t conn = true := by
        obtain ⟨last, there, host⟩ := known.2 conn _ named
        cases last with
        | worker q => simp [ofWorker, there]
        | client sent received => cases host
      rcases p.hear_writes (m := m) with silent | ⟨-, -, answered⟩
      · simp [hear, silent, put]
      · simp only [hear, answered]
        exact reports_request p there

theorem start_requests (hello : Hello) :
    total (requests id attempt t).up (put conn ((start hello).1.filter system.fits)) = 0 := by
  refine Nat.le_zero.mp (Nat.le_trans (total_put_filter_le _ _ _ _) ?_)
  cases hello with
  | client => exact Nat.zero_le _
  | worker argv =>
      simp only [start, WorkerProcess.start]
      split
      · simp [put]
      · split_ifs <;> simp [put, total, requests, Message.bears, registration]

def taken (id : ReplicaId) (attempt : AttemptId) (_ : Fleet) (_ : Action) (output : Option Event) :
    Nat :=
  (output.any (takes id attempt)).toNat

def asked (id : ReplicaId) (attempt : AttemptId) (_ : Fleet) (action : Action)
    (_ : Option Event) : Nat :=
  (asks id attempt action).toNat

theorem requests_pay (leaves : ∀ conn m, Sends conn m → m.kind ≠ .register) (t : Fleet)
    (id : ReplicaId) (attempt : AttemptId) :
    system.Pays (requests id attempt t) (Before Sends t) (taken id attempt) (asked id attempt) where
  nothing s action still := Nat.zero_le _
  joins s conn hello _ fresh := (start_requests hello).trans_le (Nat.zero_le _)
  sends s conn m p known sent := by
    obtain ⟨peer, named, sent⟩ := Option.bind_eq_some_iff.mp sent
    cases peer with
    | worker p => cases sent
    | client before received =>
        refine Nat.le_trans (total_put_filter_le _ _ _ _) ?_
        simp [total_put, requests, ofWorker_of_client known named, asked, asks]
  delivers s conn env m up known waits moves _ := by
    have ready : system.idle s conn = true := by
      simp only [System.moves, Bool.and_eq_true] at moves
      exact moves.1.1
    have running := live_iff.mp (System.idle_iff.mp ready).1
    have silent := answers_bear id attempt t conn
      (s.server.unasking_frame env conn m running waits)
    have enough := frame_requests leaves id attempt conn m known env running waits
    exact Nat.le_trans (Nat.add_le_add_right (Nat.add_le_add_right silent.le _) _)
      (by rw [Nat.zero_add]; exact enough)
  works s conn turn known live := by
    obtain ⟨turn, env⟩ := turn
    have silent := answers_bear id attempt t conn (s.server.unasking_turn env conn turn)
    have nothing : posts (s.server.effects (s.server.step ⟨turn.action conn, env⟩).1) = [] := by
      have worked := s.server.step_turn env conn turn
      generalize s.server.step ⟨turn.action conn, env⟩ = result at worked ⊢
      cases worked <;> rfl
    have untaken : takes id attempt (Machine.event serve s.server ⟨turn.action conn, env⟩) = false := by
      cases turn <;> rfl
    have none : total (requests id attempt t).owed (put conn
          (answers (s.server.effects (s.server.step ⟨turn.action conn, env⟩).1))) +
        total (requests id attempt t).down
          (posts (s.server.effects (s.server.step ⟨turn.action conn, env⟩).1)) +
        (takes id attempt (Machine.event serve s.server ⟨turn.action conn, env⟩)).toNat = 0 := by
      rw [silent, nothing, untaken]
      rfl
    exact none.trans_le (Nat.zero_le _)
  writes s conn m owed _ moves _ := by
    have least := total_put_filter_le (requests id attempt t).down conn system.fits [m]
    rw [total_put _ _ [m]] at least
    exact least
  hears s conn p m down known named hears _ _ := hear_requests known named
  cuts s conn := Nat.zero_le _

theorem sumOver_taken (s : Fleet) (actions : List Action) :
    system.sumOver (taken id attempt) s actions =
      (system.served s actions).countP (takes id attempt) := by
  induction actions generalizing s with
  | nil => rfl
  | cons action actions ih =>
      have rest := ih (system.act s action).2
      rw [System.served_cons, List.countP_append, ← rest]
      simp only [System.sumOver, Machine.trace, List.map_cons, List.sum_cons, Machine.event]
      congr 1
      cases output : (system.act s action).1 with
      | none => rfl
      | some e =>
          rw [taken, Option.any_some, Option.toList_some, List.countP_singleton]
          cases takes id attempt e <;> rfl

theorem sumOver_asked (s : Fleet) (actions : List Action) :
    system.sumOver (asked id attempt) s actions = actions.countP (asks id attempt) := by
  induction actions generalizing s with
  | nil => rfl
  | cons action actions ih =>
      have rest := ih (system.act s action).2
      rw [List.countP_cons, ← rest]
      simp only [System.sumOver, Machine.trace, List.map_cons, List.sum_cons, Machine.event, asked]
      cases asks id attempt action <;> simp [Nat.add_comm]

theorem results_at_most_once (epoch : CoordinatorEpoch) (actions : List Action)
    (closed : Closed actions) (id : ReplicaId) (attempt : AttemptId) :
    (served epoch actions).countP (takes id attempt) ≤ actions.countP (asks id attempt) := by
  have stays := throughout_stay (initial epoch) actions
  have known := (throughout_known epoch actions).and stays
  have paid := (requests_pay closed.sends (run epoch actions) id attempt).run known
  rw [sumOver_taken, sumOver_asked] at paid
  have nothing : (initial epoch).weight (requests id attempt (run epoch actions)) = 0 := rfl
  rw [nothing, Nat.zero_add] at paid
  exact Nat.le_trans (Nat.le_add_left _ _) paid

theorem results_at_most_once_executing :
    (served ⟨0, 1⟩ (Sample.provisioning ++ Sample.warming ++ Sample.executing)).countP
        (takes ⟨0, 1⟩ .null) ≤
      (Sample.provisioning ++ Sample.warming ++ Sample.executing).countP (asks ⟨0, 1⟩ .null) :=
  results_at_most_once ⟨0, 1⟩ (Sample.provisioning ++ Sample.warming ++ Sample.executing) (by decide)
    ⟨0, 1⟩ .null

end Fleet

end ReplicaFabric
