import ReplicaFabric.Distributed.Reports
import ReplicaFabric.Safety.LateDisconnect

/-!
# Results of work

A result belongs to work that was forwarded to the host of a replica and is not answered yet.
The message loop records every result it receives, whoever sends it, and answers with a `PONG`.
-/

namespace ReplicaFabric.Coordinator

def Forwards (id : ReplicaId) (attempt : AttemptId) (e : Event) : Prop :=
  ∃ outputs worker m, e.output = .done outputs ∧ .forward worker m ∈ outputs ∧
    m.kind = .execute ∧ m.replica = id ∧ m.attempt = attempt

structure ReceivesResult (c : Coordinator) (conn : ConnId) (m : Message) : Prop where
  running : c.terminated = false
  serving : ∃ reg, c.phases[conn]? = some (.serving reg)
  result : m.kind = .executeResult

def Answers (id : ReplicaId) (attempt : AttemptId) (e : Event) : Prop :=
  ∃ conn m, e.input.action = .frame conn m ∧ e.before.ReceivesResult conn m ∧
    m.replica = id ∧ m.attempt = attempt

def Outstanding (id : ReplicaId) (attempt : AttemptId) : List Event → Prop :=
  History.Since (Forwards id attempt) fun e => ¬Answers id attempt e

structure FromCurrentHost (past : List Event) (c : Coordinator) (m : Message) : Prop where
  host : ∃ r : ReplicaState, c.ctrl.replicas[m.replica]? = some r ∧ m.worker = r.workerId ∧
    ∃ reg, c.ctrl.workers[r.workerId]? = some reg ∧ reg.bootId = m.boot
  attempt : Outstanding m.replica m.attempt past

def ResultFenced (past : List Event) (e : Event) (m : Message) : Prop :=
  e.after.lastResults[m.replica]? ≠ e.before.lastResults[m.replica]? →
    FromCurrentHost past e.before m

def NoReply (e : Event) : Prop :=
  ∀ outputs, e.output = .done outputs → ∀ m, .reply m ∉ outputs

variable {c : Coordinator} {env : Surroundings} {conn : ConnId} {m : Message}

def received (c : Coordinator) (env : Surroundings) (conn : ConnId) (m : Message) : Event :=
  Machine.event step c ⟨.frame conn m, env⟩

theorem ReceivesResult.step_eq (received : c.ReceivesResult conn m) :
    c.step ⟨.frame conn m, env⟩ =
      (.done [.reply { kind := .pong }],
        { c with lastResults := c.lastResults.insert m.replica (resultOf m) }) := by
  obtain ⟨running, ⟨reg, serving⟩, result⟩ := received
  have live : ¬c.terminated = true := by simp [running]
  unfold step act
  rw [if_neg live]
  simp only [serving]
  unfold settle handleWorker
  simp only [result]
  rfl

theorem ReceivesResult.replies (receives : c.ReceivesResult conn m) :
    ¬NoReply (c.received env conn m) := by
  intro quiet
  have output : (c.received env conn m).output = .done [.reply { kind := .pong }] :=
    congrArg Prod.fst receives.step_eq
  exact quiet _ output { kind := .pong } List.mem_cons_self

theorem ReceivesResult.fenced_iff (receives : c.ReceivesResult conn m) (past : List Event) :
    ResultFenced past (c.received env conn m) m ↔
      FromCurrentHost past c m ∨ c.lastResults[m.replica]? = some (resultOf m) := by
  have recorded : (c.received env conn m).after.lastResults[m.replica]? = some (resultOf m) := by
    change (c.step _).2.lastResults[m.replica]? = _
    rw [receives.step_eq]
    simp
  unfold ResultFenced
  rw [recorded]
  change (some (resultOf m) ≠ c.lastResults[m.replica]? → FromCurrentHost past c m) ↔ _
  by_cases same : c.lastResults[m.replica]? = some (resultOf m)
  · simp [same]
  · have changes : some (resultOf m) ≠ c.lastResults[m.replica]? := fun eq => same eq.symm
    simp [same, changes]

/-- No result is handled as it should be, since each is answered. Whether it is recorded as it
should be depends on who sends it; the loop does not look. -/
theorem result_never_fenced_and_silent (start : Coordinator) (inputs : List Input)
    (env : Surroundings) (conn : ConnId) (m : Message)
    (receives : (Machine.run step start inputs).ReceivesResult conn m) :
    let past := Machine.trace step start inputs
    let now := Machine.run step start inputs
    ¬(ResultFenced past (now.received env conn m) m ∧ NoReply (now.received env conn m)) ∧
      ¬NoReply (now.received env conn m) ∧
      (ResultFenced past (now.received env conn m) m ↔
        FromCurrentHost past now m ∨ now.lastResults[m.replica]? = some (resultOf m)) :=
  ⟨fun handled => receives.replies handled.2, receives.replies, receives.fenced_iff _⟩

def strayResult : Message := {
  kind := .executeResult
  worker := ⟨0, 9⟩
  boot := ⟨0, 9⟩
  replica := ⟨0, 1⟩
  attempt := ⟨0, 9⟩
  payload := "req=1\noutcome=ok\nresult=forged" }

theorem strayResult_received :
    (Machine.run step Sample.coordinator (Sample.connect 0 ⟨0, 7⟩)).ReceivesResult 0
      strayResult where
  running := by decide +kernel
  serving := by
    have phase : ((Machine.run step Sample.coordinator (Sample.connect 0 ⟨0, 7⟩)).phases[0]?.bind
        Phase.servingFor) = some (⟨0, 1⟩, ⟨0, 7⟩) := by decide +kernel
    obtain ⟨reg, serving, -⟩ := Phase.serving_of_servingFor phase
    exact ⟨reg, serving⟩
  result := rfl

theorem strayResult_recorded :
    let past := Machine.trace step Sample.coordinator (Sample.connect 0 ⟨0, 7⟩)
    let now := Machine.run step Sample.coordinator (Sample.connect 0 ⟨0, 7⟩)
    let e := now.received Sample.surroundings 0 strayResult
    now.ReceivesResult 0 strayResult ∧ ¬ResultFenced past e strayResult ∧ ¬NoReply e := by
  intro past now e
  have unhosted : now.ctrl.replicas[strayResult.replica]? = none := by decide +kernel
  have unrecorded : now.lastResults[strayResult.replica]? = none := by decide +kernel
  refine ⟨strayResult_received, ?_, strayResult_received.replies⟩
  rw [strayResult_received.fenced_iff]
  rintro (⟨⟨r, found, -⟩, -⟩ | same)
  · rw [unhosted] at found
    cases found
  · rw [unrecorded] at same
    cases same

theorem strayResult_never_fenced_and_silent :
    let past := Machine.trace step Sample.coordinator (Sample.connect 0 ⟨0, 7⟩)
    let now := Machine.run step Sample.coordinator (Sample.connect 0 ⟨0, 7⟩)
    let e := now.received Sample.surroundings 0 strayResult
    ¬(ResultFenced past e strayResult ∧ NoReply e) :=
  (result_never_fenced_and_silent _ _ Sample.surroundings 0 strayResult strayResult_received).1

end ReplicaFabric.Coordinator
