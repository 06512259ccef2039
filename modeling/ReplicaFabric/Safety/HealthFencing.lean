import ReplicaFabric.Controller.Authority

/-!
# Health generation fencing

A provision, a promotion to `PRIMARY` and a selection by failover draw a new health generation, and
nothing brings an old one back.
-/

namespace ReplicaFabric

def Operation.drawsHealth : Operation → Bool
  | provisionReplica .. | triggerFailover .. => true
  | promoteReplica _ target .. => target = .primary
  | _ => false

/-- The operation, once accepted with the state `next` after it, starts a new health generation of
the replica. -/
def Operation.Renews (next : ReplicaSetController) (id : ReplicaId) (op : Operation) : Prop :=
  op.provisions id = true ∨ op.Grants next id

theorem Operation.Renews.drawsHealth {next : ReplicaSetController} {id : ReplicaId}
    {op : Operation} (renews : op.Renews next id) : op.drawsHealth = true := by
  cases op <;> simp_all [Renews, Grants, provisions, Operation.drawsHealth]

namespace ReplicaSetController

variable {ctrl next : ReplicaSetController} {fresh : FreshIds} {id : ReplicaId} {op : Operation}
  {accepted : Bool} {prior : Option ReplicaState} {r' : ReplicaState}

theorem ReplicaStep.healthGeneration
    (change : ReplicaStep ctrl fresh next id op accepted prior (some r')) :
    (accepted = true ∧ op.drawsHealth = true ∧
        r'.healthGeneration = fresh.healthGeneration) ∨
      ∃ r, prior = some r ∧ r'.healthGeneration = r.healthGeneration := by
  cases change with
  | provisioned gate => exact Or.inl ⟨rfl, rfl, rfl⟩
  | @registered wr r =>
      refine Or.inr ⟨r, rfl, ?_⟩
      unfold ReplicaState.afterRestart
      split_ifs <;> rfl
  | @unregistered worker r =>
      refine Or.inr ⟨r, rfl, ?_⟩
      unfold ReplicaState.afterDisconnect
      split_ifs <;> rfl
  | @healthReported ev worker boot mono r host alive =>
      refine Or.inr ⟨r, rfl, ?_⟩
      unfold ReplicaState.healthReported
      dsimp only
      split_ifs <;> rfl
  | @promoted target worker boot mono wall r set granted gate grant =>
      rcases promoted_ok.mp grant with ⟨primary, -, rfl⟩ | ⟨-, rfl⟩
      · refine Or.inl ⟨rfl, decide_eq_true primary, ?_⟩
        unfold grantedPrimary
        split_ifs <;> rfl
      · exact Or.inr ⟨r, rfl, rfl⟩
  | chosen selected recorded => exact Or.inl ⟨rfl, rfl, rfl⟩
  | _ => exact Or.inr ⟨_, rfl, rfl⟩

theorem renewed_healthGeneration (accepts : (op.apply fresh ctrl).1.isOk = true)
    (renews : op.Renews (op.apply fresh ctrl).2 id)
    (post : (op.apply fresh ctrl).2.replicas[id]? = some r') :
    r'.healthGeneration = fresh.healthGeneration := by
  rcases renews with provisions | grants
  · have change := ctrl.replicaStep op fresh id
    rw [post] at change
    obtain ⟨setId, worker, compat, device, capacity, mono, wall, set, reg, -, rfl⟩ :=
      change.of_provisions accepts provisions
    rfl
  · obtain ⟨r, s, granted, -, -, -, entry, rfl | rfl⟩ := grant_cases accepts grants
    · obtain rfl : r' = _ := Option.some.inj (post.symm.trans entry)
      unfold grantedPrimary
      split_ifs <;> rfl
    · obtain rfl : r' = _ := Option.some.inj (post.symm.trans entry)
      rfl

def drawnHealth (e : Machine.Event ReplicaSetController Call OpResult) :
    Option HealthGeneration :=
  if e.output.isOk && e.input.op.drawsHealth then some e.input.fresh.healthGeneration else none

def healthDraws (start : ReplicaSetController) (calls : List Call) : List HealthGeneration :=
  (Machine.trace step start calls).filterMap drawnHealth

theorem healthDraws_append (start : ReplicaSetController) (calls later : List Call) :
    healthDraws start (calls ++ later) =
      healthDraws start calls ++ healthDraws (Machine.run step start calls) later := by
  simp [healthDraws, Machine.trace_append]

def HasHealth (id : ReplicaId) (ctrl : ReplicaSetController) (generation : HealthGeneration) :
    Prop :=
  ∃ r, ctrl.replicas[id]? = some r ∧ r.healthGeneration = generation

theorem hasHealth_step {call : Call} {generation : HealthGeneration}
    (now : HasHealth id (ctrl.step call).2 generation) :
    HasHealth id ctrl generation ∨
      drawnHealth (Machine.event step ctrl call) = some generation := by
  obtain ⟨op, fresh⟩ := call
  obtain ⟨r', post, rfl⟩ := now
  have change := ctrl.replicaStep op fresh id
  rw [show (op.apply fresh ctrl).2.replicas[id]? = some r' from post] at change
  rcases change.healthGeneration with ⟨accepted, draws, new⟩ | ⟨r, before, same⟩
  · right
    simp [drawnHealth, Machine.event, step, accepted, draws, new]
  · exact Or.inl ⟨r, before, same.symm⟩

theorem hasHealth_run {start : ReplicaSetController} {calls : List Call}
    {generation : HealthGeneration}
    (now : HasHealth id (Machine.run step start calls) generation) :
    HasHealth id start generation ∨ generation ∈ healthDraws start calls :=
  Machine.held_of_drawn (fun _ _ _ => hasHealth_step) now

theorem hasHealth_renewed {call : Call} {later : List Call} {generation : HealthGeneration}
    (accepts : (ctrl.step call).1.isOk = true) (renews : call.op.Renews (ctrl.step call).2 id)
    (now : HasHealth id (Machine.run step ctrl (call :: later)) generation) :
    generation ∈ healthDraws ctrl (call :: later) := by
  have drawn : drawnHealth (Machine.event step ctrl call) = some call.fresh.healthGeneration := by
    simp [drawnHealth, Machine.event, accepts, renews.drawsHealth]
  rw [healthDraws, Machine.trace, List.filterMap_cons_some drawn, List.mem_cons]
  rw [Machine.run_cons] at now
  refine (hasHealth_run now).imp_left ?_
  rintro ⟨r', post, rfl⟩
  exact renewed_healthGeneration accepts renews post

theorem reportHealth_stale {ev : HealthEvidence} (worker : WorkerId) (boot : WorkerBootId)
    (mono : MonotonicNs) (stale : ¬HasHealth id ctrl ev.generation) :
    ∃ message, ctrl.reportHealth id ev worker boot mono = (.rejected message, ctrl) := by
  unfold reportHealth
  cases found : ctrl.replicas[id]? with
  | none => exact ⟨_, rfl⟩
  | some r =>
      have other : ev.generation ≠ r.healthGeneration := fun same => stale ⟨r, found, same.symm⟩
      dsimp only
      rw [if_pos other]
      split_ifs <;> exact ⟨_, rfl⟩

theorem superseded_health_rejected (earlier between later : List Call) (renewal : Call)
    (id : ReplicaId) (r : ReplicaState) (ev : HealthEvidence) (worker : WorkerId)
    (boot : WorkerBootId) (mono : MonotonicNs)
    (distinct : (healthDraws empty (earlier ++ (between ++ renewal :: later))).Nodup)
    (had : (Machine.run step empty earlier).replicas[id]? = some r)
    (carries : ev.generation = r.healthGeneration)
    (accepted :
      ((Machine.run step empty (earlier ++ between)).step renewal).1.isOk = true)
    (renews : renewal.op.Renews ((Machine.run step empty (earlier ++ between)).step renewal).2 id) :
    let now := Machine.run step empty (earlier ++ (between ++ renewal :: later))
    ∃ message, now.reportHealth id ev worker boot mono = (.rejected message, now) := by
  intro now
  refine reportHealth_stale worker boot mono fun current => ?_
  rw [healthDraws_append, healthDraws_append, ← Machine.run_append] at distinct
  have drawnBefore : ev.generation ∈ healthDraws empty earlier := by
    refine (hasHealth_run ⟨r, had, carries.symm⟩).resolve_left ?_
    rintro ⟨none, found, -⟩
    simp [empty] at found
  have drawnAgain : ev.generation ∈
      healthDraws (Machine.run step empty (earlier ++ between)) (renewal :: later) := by
    refine hasHealth_renewed accepted renews ?_
    rw [← Machine.run_append, List.append_assoc]
    exact current
  exact List.disjoint_of_nodup_append distinct drawnBefore (List.mem_append_right _ drawnAgain)

/-- Evidence of the replica's first generation, after the promotion that put it in service. -/
theorem superseded_health_rejected_serving :
    ∃ message, (Machine.run step empty Sample.serving).reportHealth ⟨0, 1⟩
        { state := .failed, generation := ⟨1, 1⟩ } ⟨0, 1⟩ ⟨0, 1⟩ 0 =
      (.rejected message, Machine.run step empty Sample.serving) := by
  have generation : (Machine.run step empty
      (Sample.setUp ++ Sample.bringUp ⟨0, 1⟩)).replicas[(⟨0, 1⟩ : ReplicaId)]?.map
        (·.healthGeneration) = some ⟨1, 1⟩ := by decide
  obtain ⟨r, had, first⟩ := Option.map_eq_some_iff.mp generation
  exact superseded_health_rejected (Sample.setUp ++ Sample.bringUp ⟨0, 1⟩) [] []
    (Sample.promote ⟨0, 1⟩) ⟨0, 1⟩ r { state := .failed, generation := ⟨1, 1⟩ } ⟨0, 1⟩ ⟨0, 1⟩ 0
    (by decide) had first.symm (by decide) (Or.inr ⟨rfl, rfl⟩)

end ReplicaSetController

end ReplicaFabric
