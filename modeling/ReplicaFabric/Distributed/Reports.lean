import ReplicaFabric.Controller.Reports
import ReplicaFabric.Distributed.Connections

/-!
# The reports over a worker connection

A message of the worker loop makes at most one report, on the replica it names, with the ids that
its own header carries. Later files reason about the report and do not unfold the loop.
-/

namespace ReplicaFabric.Coordinator

variable {c : Coordinator} {env : Surroundings} {m : Message}

def evidenceOf (c : Coordinator) (env : Surroundings) (m : Message) (hs : HealthState) :
    HealthEvidence where
  state := hs
  kind := .reported
  source := getPayload m.payload "source" "worker"
  confidence := ⟨0x3FEFAE147AE147AE⟩
  generation :=
    match c.ctrl.findReplica m.replica with
    | none => .null
    | some rs => rs.healthGeneration
  observedAtWall := env.wall 0

/-- The report that the message makes, if any; it fails when a parser throws. -/
def reportOf (c : Coordinator) (env : Surroundings) (m : Message) :
    Except Exception (Option Operation) :=
  match m.kind with
  | .warmDone => do
      let warm ← warmingFrom m.payload
      return some (.warmReplica m.replica warm m.worker m.boot (env.mono 0))
  | .health => do
      let v ← hexi (getPayload m.payload "state" "2")
      return (enumFromInt HealthState v.toInt).map fun hs =>
        .reportHealth m.replica (c.evidenceOf env m hs) m.worker m.boot (env.mono 0)
  | .readiness => do
      let mask ← hexu (getPayload m.payload "mask" "0")
      return some (.reportReadiness m.replica (readinessOf mask) m.worker m.boot)
  | _ => .ok none

def resultOf (m : Message) : Str :=
  "req=" ++ getPayload m.payload "req" "?" ++
  "\noutcome=" ++ getPayload m.payload "outcome" "?" ++
  "\nresult=" ++ getPayload m.payload "result" "?"

def afterReport (c : Coordinator) (env : Surroundings) (m : Message)
    (report : Option Operation) : Coordinator :=
  { c with
    ctrl :=
      match report with
      | none => c.ctrl
      | some op => (op.apply env.fresh c.ctrl).2
    lastResults :=
      if m.kind = .executeResult then c.lastResults.insert m.replica (resultOf m)
      else c.lastResults }

theorem handleWorker_report (c : Coordinator) (env : Surroundings) (m : Message) :
    (c.handleWorker env m).map Prod.snd = (c.reportOf env m).map (c.afterReport env m) := by
  obtain ⟨kind, seq, epoch, worker, boot, replica, set, attempt, payload⟩ := m
  cases kind with
  | warmDone =>
      unfold handleWorker reportOf
      dsimp only
      cases warmingFrom payload <;> rfl
  | health =>
      unfold handleWorker handleHealth reportOf
      dsimp only
      cases hexi (getPayload payload "state" "2") with
      | error e => rfl
      | ok v =>
          dsimp only [bind, Except.bind]
          cases enumFromInt HealthState v.toInt <;> rfl
  | readiness =>
      unfold handleWorker reportOf
      dsimp only
      cases hexu (getPayload payload "mask" "0") <;> rfl
  | _ => rfl

def afterFrame (c : Coordinator) (env : Surroundings) (m : Message) : Coordinator :=
  match c.reportOf env m with
  | .error _ => { c with terminated := true }
  | .ok report => c.afterReport env m report

theorem step_serving {conn : ConnId} {reg : WorkerRegistration} (running : c.terminated = false)
    (serving : c.phases[conn]? = some (.serving reg)) :
    (c.step ⟨.frame conn m, env⟩).2 = c.afterFrame env m := by
  have reported := c.handleWorker_report env m
  unfold step act settle afterFrame
  simp only [running, Bool.false_eq_true, if_false, serving]
  cases handled : c.handleWorker env m with
  | error e =>
      rw [handled] at reported
      cases report : c.reportOf env m with
      | error e' => rfl
      | ok report' =>
          rw [report] at reported
          cases reported
  | ok handled' =>
      rw [handled] at reported
      cases report : c.reportOf env m with
      | error e' =>
          rw [report] at reported
          cases reported
      | ok report' =>
          rw [report] at reported
          exact Except.ok.inj reported

def Ineffective (c : Coordinator) (env : Surroundings) (m : Message) : Prop :=
  ∀ op, c.reportOf env m = .ok (some op) → ∀ r : ReplicaState,
    c.ctrl.replicas[m.replica]? = some r → op.ReportGuard c.ctrl r → op.AlreadyReported r

theorem reportOf_cases {op : Operation} (report : c.reportOf env m = .ok (some op)) :
    (∃ warm, m.kind = .warmDone ∧
      op = .warmReplica m.replica warm m.worker m.boot (env.mono 0)) ∨
    (∃ hs, m.kind = .health ∧
      op = .reportHealth m.replica (c.evidenceOf env m hs) m.worker m.boot (env.mono 0)) ∨
    (∃ rr, m.kind = .readiness ∧ op = .reportReadiness m.replica rr m.worker m.boot) := by
  unfold reportOf at report
  split at report
  · next kind =>
      obtain ⟨warm, -, ok⟩ := exists_of_bind_ok report
      cases ok
      exact Or.inl ⟨warm, kind, rfl⟩
  · next kind =>
      obtain ⟨v, -, ok⟩ := exists_of_bind_ok report
      obtain ⟨hs, -, rfl⟩ := Option.map_eq_some_iff.mp (Except.ok.inj ok)
      exact Or.inr (Or.inl ⟨hs, kind, rfl⟩)
  · next kind =>
      obtain ⟨mask, -, ok⟩ := exists_of_bind_ok report
      cases ok
      exact Or.inr (Or.inr ⟨_, kind, rfl⟩)
  · cases report

theorem reportOf_target {op : Operation} (report : c.reportOf env m = .ok (some op)) :
    op.reportTarget = some m.replica := by
  rcases reportOf_cases report with ⟨warm, -, rfl⟩ | ⟨hs, -, rfl⟩ | ⟨rr, -, rfl⟩ <;> rfl

theorem reportOf_host {op : Operation} {r : ReplicaState}
    (report : c.reportOf env m = .ok (some op)) (passes : op.ReportGuard c.ctrl r) :
    r.workerId = m.worker ∧ r.bootId = m.boot := by
  rcases reportOf_cases report with ⟨warm, -, rfl⟩ | ⟨hs, -, rfl⟩ | ⟨rr, -, rfl⟩ <;>
    exact passes.1

theorem afterFrame_ctrl_iff : (c.afterFrame env m).ctrl = c.ctrl ↔ c.Ineffective env m := by
  unfold afterFrame Ineffective
  cases report : c.reportOf env m with
  | error e => simp
  | ok report' =>
      cases report' with
      | none => simp [afterReport]
      | some op =>
          have exactly := c.ctrl.report_editsWhen env.fresh (reportOf_target report)
          simp only [afterReport, exactly.unchanged_iff, op.reported_eq_iff, Except.ok.injEq,
            Option.some.injEq, forall_eq']

theorem afterFrame_lastResults_iff :
    (c.afterFrame env m).lastResults = c.lastResults ↔
      (m.kind = .executeResult → c.lastResults[m.replica]? = some (resultOf m)) := by
  unfold afterFrame
  by_cases kind : m.kind = .executeResult
  · have silent : c.reportOf env m = .ok none := by simp [reportOf, kind]
    simp only [silent, afterReport, kind, if_true, Table.insert_eq_iff, true_implies]
  · cases c.reportOf env m with
    | error e => simp [kind]
    | ok report => simp [afterReport, kind]

end ReplicaFabric.Coordinator
