import ReplicaFabric.Safety.Stale

/-!
# Boot fencing

A worker call is checked against the boot id recorded in the replica, while a restart or a
disconnect changes only the worker table. The two agree exactly while no worker that hosts a
replica restarts or disconnects.
-/

namespace ReplicaFabric

namespace ReplicaSetController

variable {ctrl : ReplicaSetController}

def Registered (ctrl : ReplicaSetController) (worker : WorkerId) (boot : WorkerBootId) : Prop :=
  ∃ reg, ctrl.workers[worker]? = some reg ∧ reg.bootId = boot

theorem Registered.workerBoot {worker : WorkerId} {boot : WorkerBootId}
    (registered : ctrl.Registered worker boot) : ctrl.workerBoot worker = boot := by
  obtain ⟨reg, found, rfl⟩ := registered
  rw [ReplicaSetController.workerBoot, found]

def BootFenced (ctrl : ReplicaSetController) : Prop :=
  ∀ (op : Operation) (fresh : FreshIds) (worker : WorkerId) (boot : WorkerBootId),
    op.credentials = some (worker, boot) →
    ¬ctrl.Registered worker boot → Refused (op.apply fresh ctrl) ctrl

def HostsCurrent (ctrl : ReplicaSetController) : Prop :=
  ∀ (id : ReplicaId) (r : ReplicaState), ctrl.replicas[id]? = some r →
    ctrl.Registered r.workerId r.bootId

theorem refused_of_other_host {op : Operation} {fresh : FreshIds} {worker : WorkerId}
    {boot : WorkerBootId} (presented : op.credentials = some (worker, boot))
    (other : ∀ (id : ReplicaId) (r : ReplicaState), ctrl.replicas[id]? = some r →
      ¬(r.workerId = worker ∧ r.bootId = boot)) :
    Refused (op.apply fresh ctrl) ctrl := by
  cases op with
  | warmReplica id warm _ _ mono =>
      cases presented
      refine (ctrl.warmReplica_cases id warm worker boot mono).resolve_right ?_
      rintro ⟨r, found, ⟨host, -⟩, -⟩
      exact other id r found host
  | reportHealth id ev _ _ mono =>
      cases presented
      refine (ctrl.reportHealth_cases id ev worker boot mono).resolve_right ?_
      rintro ⟨r, found, ⟨host, -⟩, -⟩
      exact other id r found host
  | reportReadiness id rr _ _ =>
      cases presented
      refine (ctrl.reportReadiness_cases id rr worker boot).resolve_right ?_
      rintro ⟨r, found, ⟨host, -⟩, -⟩
      exact other id r found host
  | promoteReplica id target _ _ mono wall =>
      cases presented
      refine (ctrl.promoteReplica_cases fresh id target worker boot mono wall).resolve_right ?_
      rintro ⟨r, set, granted, record, found, gate, -⟩
      exact other id r found gate.host
  | drainReplica id _ _ mono =>
      cases presented
      refine (ctrl.drainReplica_cases fresh id worker boot mono).resolve_right ?_
      rintro ⟨r, record, found, host, -⟩
      exact other id r found host
  | failReplica id _ _ reason mono =>
      cases presented
      refine (ctrl.failReplica_cases id worker boot reason mono).resolve_right ?_
      rintro ⟨r, found, host, -⟩
      exact other id r found host
  | _ => cases presented

theorem failReplica_writes {fresh : FreshIds} {id : ReplicaId} {r : ReplicaState}
    (found : ctrl.replicas[id]? = some r) {reason : Str} (other : r.healthRecord.reason ≠ reason) :
    ((Operation.failReplica id r.workerId r.bootId reason 0).apply fresh ctrl).2 ≠ ctrl := by
  intro unchanged
  have post : ((Operation.failReplica id r.workerId r.bootId reason 0).apply fresh
      ctrl).2.replicas[id]?.map (·.healthRecord.reason) = some reason := by
    have host : r.workerBootMatches r.workerId r.bootId = true :=
      workerBootMatches_iff.mpr ⟨rfl, rfl⟩
    simp only [Operation.apply, failReplica, found, host, Bool.not_true, Bool.false_eq_true,
      if_false]
    split_ifs <;> rw [putReplica_here] <;> rfl
  rw [unchanged, found] at post
  exact other (Option.some.inj post)

theorem bootFenced_iff : ctrl.BootFenced ↔ ctrl.HostsCurrent := by
  constructor
  · intro fenced id r found
    by_contra stale
    -- A reason the replica does not have yet.
    let reason : Str := r.healthRecord.reason ++ [0]
    have refused := fenced (.failReplica id r.workerId r.bootId reason 0) (Sample.freshAt 0)
      r.workerId r.bootId rfl stale
    exact failReplica_writes found (by simp [reason]) refused.2
  · intro current op fresh worker boot presented stale
    refine refused_of_other_host presented fun id r found ⟨sameWorker, sameBoot⟩ => stale ?_
    rw [← sameWorker, ← sameBoot]
    exact current id r found

/-- No restart or disconnect hits a worker that hosts a replica. -/
def keepsHosts (ctrl : ReplicaSetController) : Operation → Bool
  | .registerWorker wr =>
      ctrl.replicas.toList.all fun e => e.2.workerId ≠ wr.workerId || e.2.bootId = wr.bootId
  | .unregisterWorker worker => ctrl.replicas.toList.all fun e => e.2.workerId ≠ worker
  | _ => true

theorem hostsCurrent_iff :
    ctrl.HostsCurrent ↔ ∀ (id : ReplicaId) (life : Incarnation),
      ctrl.replicas[id]?.map ReplicaState.incarnation = some life →
        ctrl.Registered life.workerId life.bootId := by
  constructor
  · intro current id life lives
    obtain ⟨r, found, rfl⟩ := Option.map_eq_some_iff.mp lives
    exact current id r found
  · intro current id r found
    exact current id r.incarnation (by rw [found]; rfl)

theorem hostsCurrent_carried {op : Operation} {fresh : FreshIds}
    (carried : ∀ id, (op.apply fresh ctrl).1.isOk = true → op.provisions id = false) :
    (op.apply fresh ctrl).2.HostsCurrent ↔
      ∀ (id : ReplicaId) (r : ReplicaState), ctrl.replicas[id]? = some r →
        (op.apply fresh ctrl).2.Registered r.workerId r.bootId := by
  rw [hostsCurrent_iff]
  constructor
  · intro current id r found
    exact current id r.incarnation (by rw [incarnations_step (carried id), found]; rfl)
  · intro current id life lives
    rw [incarnations_step (carried id)] at lives
    obtain ⟨r, found, rfl⟩ := Option.map_eq_some_iff.mp lives
    exact current id r found

theorem registered_step (op : Operation) (fresh : FreshIds) (worker : WorkerId)
    (boot : WorkerBootId) :
    (op.apply fresh ctrl).2.Registered worker boot ↔
      match op with
      | .registerWorker wr =>
          if wr.workerId = worker then wr.bootId = boot else ctrl.Registered worker boot
      | .unregisterWorker w => w ≠ worker ∧ ctrl.Registered worker boot
      | _ => ctrl.Registered worker boot := by
  unfold Registered
  rw [workers_step]
  cases op with
  | registerWorker wr =>
      simp only [Operation.workersAfter, Table.get_insert]
      split_ifs <;> simp
  | unregisterWorker w =>
      simp only [Operation.workersAfter, Table.get_erase]
      by_cases same : w = worker <;> simp [same]
  | _ => rfl

theorem hostsCurrent_provision {x : ReplicaId} {setId : ReplicaSetId} {worker : WorkerId}
    {compat : ReplicaCompatibility} {device : DeviceCapability} {capacity : UInt64}
    {mono : MonotonicNs} {wall : WallNs} {fresh : FreshIds} (current : ctrl.HostsCurrent) :
    ((Operation.provisionReplica x setId worker compat device capacity mono wall).apply fresh
      ctrl).2.HostsCurrent := by
  rcases ctrl.provisionReplica_cases fresh x setId worker compat device capacity mono wall with
    ⟨-, -, unchanged⟩ | ⟨set, reg, lifecycle, gate, -, -, written⟩
  · rw [Operation.apply, unchanged]
    exact current
  · intro id r post
    rw [registered_step]
    rw [Operation.apply, written, putReplica_get] at post
    split_ifs at post
    · cases post
      exact ⟨reg, (provisionGate_ok.mp gate).2.2.1, rfl⟩
    · exact current id r post

theorem hostsCurrent_step (current : ctrl.HostsCurrent) (call : Call) :
    (ctrl.step call).2.HostsCurrent ↔ ctrl.keepsHosts call.op = true := by
  obtain ⟨op, fresh⟩ := call
  cases op with
  | registerWorker wr =>
      rw [step, hostsCurrent_carried fun _ _ => rfl]
      simp only [keepsHosts, List.all_eq_true, Prod.forall, Table.mem_entries, Bool.or_eq_true,
        decide_eq_true_eq, registered_step]
      refine forall₂_congr fun id r => forall_congr' fun found => ?_
      by_cases here : wr.workerId = r.workerId
      · simp [here, eq_comm]
      · simp [here, Ne.symm here, current id r found]
  | unregisterWorker worker =>
      rw [step, hostsCurrent_carried fun _ _ => rfl]
      simp only [keepsHosts, List.all_eq_true, Prod.forall, Table.mem_entries, decide_eq_true_eq,
        registered_step]
      refine forall₂_congr fun id r => forall_congr' fun found => ?_
      rw [and_iff_left (current id r found)]
      exact ne_comm
  | provisionReplica x setId worker compat device capacity mono wall =>
      exact iff_of_true (hostsCurrent_provision current) rfl
  | _ =>
      rw [step, hostsCurrent_carried fun _ _ => rfl]
      simp only [registered_step]
      exact iff_of_true current rfl

theorem bootFenced_iff_keepsHosts (calls : List Call) :
    Machine.Throughout step BootFenced empty calls ↔
      Machine.Admissible step (fun ctrl call => ctrl.keepsHosts call.op = true) empty calls := by
  have start : empty.HostsCurrent := by
    intro id r found
    simp [empty] at found
  have exactly := Machine.throughout_iff_of_step calls
    (fun ctrl call (current : ctrl.HostsCurrent) => hostsCurrent_step current call) start
  rw [← exactly]
  exact ⟨fun always => always.mono fun _ => bootFenced_iff.mp,
    fun always => always.mono fun _ => bootFenced_iff.mpr⟩

def restartWhileWarming : List Call :=
  Sample.setUp ++ (Sample.bringUp ⟨0, 1⟩).take 4 ++ [Sample.register 1 2]

theorem restartWhileWarming_unfenced :
    ¬∀ calls, Machine.Throughout step BootFenced empty calls := by
  intro always
  have fenced := (always restartWhileWarming).last
  have refused := fenced (.warmReplica ⟨0, 1⟩ {} ⟨0, 1⟩ ⟨0, 1⟩ 0) (Sample.freshAt 0) ⟨0, 1⟩ ⟨0, 1⟩
    rfl
  have unregistered :
      ¬(Machine.run step empty restartWhileWarming).Registered ⟨0, 1⟩ ⟨0, 1⟩ := by
    intro registered
    have current : (Machine.run step empty restartWhileWarming).workerBoot ⟨0, 1⟩ ≠ ⟨0, 1⟩ := by
      decide
    exact current registered.workerBoot
  have accepted : ((Operation.warmReplica ⟨0, 1⟩ {} ⟨0, 1⟩ ⟨0, 1⟩ 0).apply (Sample.freshAt 0)
      (Machine.run step empty restartWhileWarming)).1.isOk = true := by decide
  rw [(refused unregistered).1] at accepted
  cases accepted

end ReplicaSetController

end ReplicaFabric
