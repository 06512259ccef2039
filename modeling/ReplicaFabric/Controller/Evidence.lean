import ReplicaFabric.Controller.Authority

/-!
# Evidence

The warmth, health and readiness that the gate asks for are written by the reports of the worker
that hosts the replica, and only carried over or reset by the other calls.
-/

namespace ReplicaFabric

namespace Operation

def Warms (id : ReplicaId) : Operation → Prop
  | warmReplica r .. => r = id
  | _ => False

def ReportsHealth (id : ReplicaId) (p : HealthState → Prop) : Operation → Prop
  | reportHealth r ev .. => r = id ∧ p ev.state
  | _ => False

def ReportsReadiness (id : ReplicaId) (p : ReadinessFactors → Prop) : Operation → Prop
  | reportReadiness r rr .. => r = id ∧ p rr.factors
  | _ => False

theorem ReportsHealth.touches {id : ReplicaId} {p : HealthState → Prop} {op : Operation}
    (report : op.ReportsHealth id p) : op.Touches id := by
  cases op <;> simp_all [Touches, ReportsHealth]

theorem ReportsReadiness.touches {id : ReplicaId} {p : ReadinessFactors → Prop}
    {op : Operation} (report : op.ReportsReadiness id p) : op.Touches id := by
  cases op <;> simp_all [Touches, ReportsReadiness]

theorem ReportsHealth.any {id : ReplicaId} {p : HealthState → Prop} {op : Operation}
    (report : op.ReportsHealth id p) : op.ReportsHealth id fun _ => True := by
  cases op <;> simp_all [ReportsHealth]

theorem ReportsReadiness.any {id : ReplicaId} {p : ReadinessFactors → Prop} {op : Operation}
    (report : op.ReportsReadiness id p) : op.ReportsReadiness id fun _ => True := by
  cases op <;> simp_all [ReportsReadiness]

end Operation

def HealthState.Serves : HealthState → Prop
  | .healthy | .degraded => True
  | _ => False

theorem HealthState.serves_iff {h : HealthState} : h.Serves ↔ h = .healthy ∨ h = .degraded := by
  cases h <;> simp [Serves]

namespace ReplicaSetController.ReplicaStep

variable {ctrl next : ReplicaSetController} {fresh : FreshIds} {id : ReplicaId} {op : Operation}
  {accepted : Bool} {r' : ReplicaState} {prior : Option ReplicaState}

theorem warm (change : ReplicaStep ctrl fresh next id op accepted prior (some r'))
    (warm : r'.warmth = .warm) :
    (accepted = true ∧ op.Warms id ∧ op.credentials = some r'.host) ∨
      ∃ r, prior = some r ∧ r.warmth = .warm := by
  cases change with
  | provisioned gate => cases warm
  | @registered wr r =>
      refine Or.inr ⟨r, rfl, ?_⟩
      unfold ReplicaState.afterRestart at warm
      split_ifs at warm <;> exact warm
  | @unregistered worker r =>
      refine Or.inr ⟨r, rfl, ?_⟩
      unfold ReplicaState.afterDisconnect at warm
      split_ifs at warm <;> exact warm
  | @warmed record worker boot mono r host accepts =>
      refine Or.inl ⟨rfl, rfl, ?_⟩
      rw [← host.1, ← host.2]
      rfl
  | @healthReported ev worker boot mono r host alive =>
      refine Or.inr ⟨r, rfl, ?_⟩
      unfold ReplicaState.healthReported at warm
      dsimp only at warm
      split_ifs at warm <;> exact warm
  | @promoted target worker boot mono wall r set granted gate grant =>
      refine Or.inr ⟨r, rfl, ?_⟩
      rcases promoted_ok.mp grant with ⟨-, -, rfl⟩ | ⟨-, rfl⟩
      · unfold grantedPrimary at warm
        split_ifs at warm <;> exact warm
      · exact warm
  | retired edge => cases warm
  | _ => exact Or.inr ⟨_, rfl, warm⟩

theorem ready (change : ReplicaStep ctrl fresh next id op accepted prior (some r'))
    (ready : r'.readiness = .ready) :
    (accepted = true ∧ op.ReportsReadiness id (·.allSet = true) ∧
        op.credentials = some r'.host) ∨
      (¬(accepted = true ∧ op.ReportsReadiness id fun _ => True) ∧
        ∃ r, prior = some r ∧ r.readiness = .ready) := by
  cases change with
  | kept untouched =>
      refine Or.inr ⟨fun report => ?_, _, rfl, ready⟩
      exact untouched report.1 report.2.touches
  | provisioned gate => cases ready
  | @registered wr r =>
      refine Or.inr ⟨fun report => report.2, r, rfl, ?_⟩
      unfold ReplicaState.afterRestart at ready
      split_ifs at ready <;> exact ready
  | @unregistered worker r =>
      refine Or.inr ⟨fun report => report.2, r, rfl, ?_⟩
      unfold ReplicaState.afterDisconnect at ready
      split_ifs at ready <;> exact ready
  | @healthReported ev worker boot mono r host alive =>
      refine Or.inr ⟨fun report => report.2, r, rfl, ?_⟩
      unfold ReplicaState.healthReported at ready
      dsimp only at ready
      split_ifs at ready <;> exact ready
  | @readinessReported rr worker boot r host alive =>
      left
      have all : rr.factors.allSet = true := by
        by_contra missing
        simp [ReplicaState.readinessReported, missing] at ready
      refine ⟨rfl, ⟨rfl, all⟩, ?_⟩
      rw [← host.1, ← host.2]
      rfl
  | @promoted target worker boot mono wall r set granted gate grant =>
      exact Or.inr ⟨fun report => report.2, r, rfl, gate.readiness⟩
  | _ => exact Or.inr ⟨fun report => report.2, _, rfl, ready⟩

theorem granted (change : ReplicaStep ctrl fresh next id op accepted prior (some r'))
    (accepts : accepted = true) (grants : op.Grants next id) (host : WorkerId × WorkerBootId)
    (presented : op.credentials = some host) : host = r'.host := by
  cases change with
  | kept untouched =>
      cases op with
      | promoteReplica => exact absurd grants.1 (untouched accepts)
      | triggerFailover => cases presented
      | _ => exact grants.elim
  | promoted gate grant =>
      cases presented
      rw [ReplicaState.host_eq_of_incarnation (promoted_incarnation grant), ReplicaState.host,
        gate.host.1, gate.host.2]
  | failedOver inSet => cases presented
  | chosen selected recorded => cases presented
  | _ => exact grants.elim

theorem renewed (change : ReplicaStep ctrl fresh next id op accepted prior (some r'))
    (accepts : accepted = true) (provisions : op.provisions id = true) :
    r'.warmth = .cold ∧ r'.health = .unknown ∧ r'.readiness = .unknown ∧
      r'.servingEligible = false ∧ ∃ set, ctrl.sets[r'.setId]? = some set := by
  obtain ⟨setId, worker, compat, device, capacity, mono, wall, set, reg, gate, rfl⟩ :=
    change.of_provisions accepts provisions
  exact ⟨rfl, rfl, rfl, rfl, set, (provisionGate_ok.mp gate).1⟩

theorem healthy (change : ReplicaStep ctrl fresh next id op accepted prior (some r'))
    (strict : ∀ r set, prior = some r → ctrl.sets[r.setId]? = some set →
      set.policies.promotion.requireHealthy = true)
    (healthy : r'.health.Serves) :
    (accepted = true ∧ op.ReportsHealth id HealthState.Serves ∧
        op.credentials = some r'.host) ∨
      (¬(accepted = true ∧ op.ReportsHealth id fun _ => True) ∧
        ∃ r, prior = some r ∧ r.health.Serves) := by
  cases change with
  | kept untouched =>
      refine Or.inr ⟨fun report => ?_, _, rfl, healthy⟩
      exact untouched report.1 report.2.touches
  | provisioned gate => exact healthy.elim
  | @registered wr r =>
      refine Or.inr ⟨fun report => report.2, r, rfl, ?_⟩
      unfold ReplicaState.afterRestart at healthy
      split_ifs at healthy
      · exact healthy.elim
      · exact healthy
      · exact healthy
  | @unregistered worker r =>
      refine Or.inr ⟨fun report => report.2, r, rfl, ?_⟩
      unfold ReplicaState.afterDisconnect at healthy
      split_ifs at healthy
      · exact healthy.elim
      · exact healthy
  | started edge => exact healthy.elim
  | @healthReported ev worker boot mono r host alive =>
      left
      rw [ReplicaState.healthReported_health] at healthy
      refine ⟨rfl, ⟨rfl, healthy⟩, ?_⟩
      rw [ReplicaState.host_eq_of_incarnation (ReplicaState.healthReported_incarnation ev mono),
        ReplicaState.host, host.1, host.2]
      rfl
  | @promoted target worker boot mono wall r set granted gate grant =>
      refine Or.inr ⟨fun report => report.2, r, rfl, ?_⟩
      -- The set requires health, so the promotion found it validated and left it alone.
      have validated := (gate.healthValidated (strict r set rfl gate.known)).1
      rcases promoted_ok.mp grant with ⟨-, -, rfl⟩ | ⟨-, rfl⟩
      · rw [grantedPrimary, if_neg validated] at healthy
        exact healthy
      · exact healthy
  | failed host => exact healthy.elim
  | failRefused host edge => exact healthy.elim
  | failedOver inSet => exact healthy.elim
  | _ => exact Or.inr ⟨fun report => report.2, _, rfl, healthy⟩

end ReplicaSetController.ReplicaStep

end ReplicaFabric
