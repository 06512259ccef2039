import ReplicaFabric.Controller.Contract
import ReplicaFabric.Safety.Restorability

namespace ReplicaFabric.ReplicaSetController

variable {ctrl : ReplicaSetController}

structure StoreInvariant (ctrl : ReplicaSetController) : Prop where
  keyed : ctrl.Keyed
  counts : ∀ (id : ReplicaSetId) (s : ReplicaSetState), ctrl.sets[id]? = some s →
    (0 < s.minHealthy ∧ s.minHealthy ≤ s.maxReplicas) ∧
      (0 < s.desiredCount ∧ s.desiredCount ≤ s.maxReplicas)
  room : ∀ (id : ReplicaSetId) (s : ReplicaSetState), ctrl.sets[id]? = some s →
    ctrl.members id ≤ s.maxReplicas.toNat
  agrees : ∀ (id : ReplicaId) (r : ReplicaState), ctrl.replicas[id]? = some r →
    ∃ s, ctrl.sets[r.setId]? = some s ∧ AgreesWith r s

theorem storeInvariant_empty : empty.StoreInvariant := by
  constructor
  · exact wellFormed_empty.keyed
  all_goals
    intro id x found
    simp [empty] at found

theorem counts_of_valid {s : ReplicaSetState} (valid : countsInvalid s = false) :
    (0 < s.minHealthy ∧ s.minHealthy ≤ s.maxReplicas) ∧
      (0 < s.desiredCount ∧ s.desiredCount ≤ s.maxReplicas) := by
  simp only [countsInvalid, Bool.or_eq_false_iff, decide_eq_false_iff_not, UInt32.not_lt] at valid
  obtain ⟨⟨⟨⟨-, desired⟩, healthy⟩, healthyFits⟩, desiredFits⟩ := valid
  exact ⟨⟨UInt32.pos_iff_ne_zero.mpr healthy, healthyFits⟩,
    UInt32.pos_iff_ne_zero.mpr desired, desiredFits⟩

namespace StoreInvariant

theorem members_eq_zero (store : ctrl.StoreInvariant) {setId : ReplicaSetId}
    (absent : ctrl.sets[setId]? = none) : ctrl.members setId = 0 := by
  refine List.countP_eq_zero.mpr fun e member => ?_
  obtain ⟨s, found, -⟩ := store.agrees e.1 e.2 ((Table.mem_entries _).mp member)
  rw [decide_eq_true_eq]
  rintro rfl
  rw [absent] at found
  cases found

/-- The 32-bit count does not wrap: the set has no more members than its limit allows. -/
theorem room_of_gate (store : ctrl.StoreInvariant) {setId : ReplicaSetId} {worker : WorkerId}
    {set s : ReplicaSetState} {reg : WorkerRegistration} (found : ctrl.sets[setId]? = some s)
    (gate : ctrl.provisionGate setId worker = .ok (set, reg)) :
    ctrl.members setId + 1 ≤ s.maxReplicas.toNat := by
  obtain ⟨known, -, -, below⟩ := provisionGate_ok.mp gate
  obtain rfl : s = set := Option.some.inj (found.symm.trans known)
  have fits : ctrl.members setId < 2 ^ 32 :=
    (store.room setId s found).trans_lt s.maxReplicas.toNat_lt
  rw [countReplicas_all, UInt32.lt_iff_toNat_lt, UInt32.toNat_ofNat_of_lt' fits] at below
  exact below

theorem room_step (store : ctrl.StoreInvariant) (op : Operation) (fresh : FreshIds)
    {id : ReplicaSetId} {s' : ReplicaSetState}
    (found : (op.apply fresh ctrl).2.sets[id]? = some s') :
    (op.apply fresh ctrl).2.members id ≤ s'.maxReplicas.toNat := by
  have bound (s : ReplicaSetState) (before : ctrl.sets[id]? = some s) :
      (op.apply fresh ctrl).2.members id ≤ s.maxReplicas.toNat := by
    rcases ctrl.members_step op fresh id with same | ⟨more, worker, set, reg, gate⟩
    · exact same.trans (store.room id s before)
    · exact more.trans (store.room_of_gate before gate)
  have none_of_new (before : ctrl.sets[id]? = none) : (op.apply fresh ctrl).2.members id = 0 := by
    rcases ctrl.members_step op fresh id with same | ⟨-, worker, set, reg, gate⟩
    · exact Nat.le_zero.mp (same.trans (store.members_eq_zero before).le)
    · cases before.symm.trans (provisionGate_ok.mp gate).1
  have change := ctrl.setStep op fresh id
  rw [found] at change
  generalize ctrl.sets[id]? = prior, (op.apply fresh ctrl).1.isOk = accepted
    at change bound none_of_new
  cases change with
  | kept => exact bound s' rfl
  | created named counts =>
      rw [none_of_new rfl]
      exact Nat.zero_le _
  | @moved _ _ s lifecycle => exact bound s rfl

theorem step (store : ctrl.StoreInvariant) (call : Call) :
    (ctrl.step call).2.StoreInvariant where
  keyed := keyed_step store.keyed call
  counts id s' found := by
    rcases set_origin found with ⟨s, before, lifecycle, rfl⟩ | ⟨-, valid, -⟩
    · exact store.counts id s before
    · exact counts_of_valid valid
  room id s' found := store.room_step call.op call.fresh found
  agrees id r' found := by
    rcases contract_origin found with ⟨r, before, same⟩ | ⟨s, before, agrees, -⟩
    · obtain ⟨s, member, agrees⟩ := store.agrees id r before
      rw [← show r'.setId = r.setId from congrArg Contract.setId same] at member
      obtain ⟨lifecycle, persists⟩ := sets_persist call.op call.fresh member
      exact ⟨_, persists, agrees.of_contract same lifecycle⟩
    · obtain ⟨lifecycle, persists⟩ := sets_persist call.op call.fresh before
      exact ⟨_, persists, agrees.of_contract rfl lifecycle⟩

end StoreInvariant

theorem store_throughout (calls : List Call) :
    Machine.Throughout step StoreInvariant empty calls :=
  Machine.throughout_of_step calls (fun _ call store => store.step call) storeInvariant_empty

end ReplicaFabric.ReplicaSetController
