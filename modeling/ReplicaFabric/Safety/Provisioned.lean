import ReplicaFabric.Controller.Contract
import ReplicaFabric.Distributed.Connections

/-!
# Replicas that the coordinator provisions

The coordinator copies what the set asks for into what the replica offers, all but the compute
capability. That one it makes of the major version in the request and the minor version 0.
-/

namespace ReplicaFabric

@[simp] theorem CompatibilityResult.clause_compatible (res : CompatibilityResult) (holds : Bool)
    (issue : CompatibilityIssue) :
    (res.clause holds issue).compatible = (res.compatible && holds) := by
  cases holds <;> simp [clause]

@[simp] theorem CompatibilityResult.foldl_clause_compatible {α : Type} (res : CompatibilityResult)
    (l : List α) (holds : α → Bool) (issue : CompatibilityIssue) :
    (l.foldl (fun res a => res.clause (holds a) issue) res).compatible =
      (res.compatible && l.all holds) := by
  induction l generalizing res with
  | nil => simp
  | cons a l ih => simp [ih, Bool.and_assoc]

theorem checkCompatibility_copied (req : CompatibilityRequirements) (k : ComputeCapability) :
    (checkCompatibility req { req.copied with compute := k }).compatible =
      !k.below req.minCompute := by
  simp [checkCompatibility, CompatibilityRequirements.copied]

namespace ReplicaSetController

variable {ctrl : ReplicaSetController}

theorem contract_persists (op : Operation) (fresh : FreshIds) {id : ReplicaId} {r : ReplicaState}
    (found : ctrl.replicas[id]? = some r) (carried : op.provisions id = false) :
    ∃ r', (op.apply fresh ctrl).2.replicas[id]? = some r' ∧ r'.contract = r.contract := by
  have change := ctrl.replicaStep op fresh id
  rw [found] at change
  generalize (op.apply fresh ctrl).1.isOk = accepted at change
  cases after : (op.apply fresh ctrl).2.replicas[id]? with
  | none =>
      rw [after] at change
      cases change
  | some r' =>
      rw [after] at change
      exact ⟨r', rfl, change.contract fun _ => carried⟩

end ReplicaSetController

namespace Coordinator

open ReplicaSetController (provisionGate_ok sets_persist contract_persists)

variable {c next : Coordinator} {env : Surroundings} {m : Message} {outputs : List Output}

structure ProvisionAckedOk (c : Coordinator) (env : Surroundings) (m : Message)
    (outputs : List Output) (next : Coordinator) : Prop where
  kind : m.kind = .provision
  handled : c.handleControl env m = .ok (outputs, next)
  acked : ∃ ack, .reply ack ∈ outputs ∧ ack.kind = .provisionAck ∧ ascii "ok" <+: ack.payload

def CompatiblyProvisioned (next : Coordinator) (m : Message) : Prop :=
  ∃ (r : ReplicaState) (s : ReplicaSetState), next.ctrl.replicas[m.replica]? = some r ∧
    r.setId = m.set ∧ next.ctrl.sets[m.set]? = some s ∧
    (checkCompatibility s.compatibility r.compatibility).compatible = true

def MeetsMinimum (c : Coordinator) (m : Message) : Prop :=
  ∀ (major : Int32) (s : ReplicaSetState), hexi (getPayload m.payload "ccmaj" "c") = .ok major →
    c.ctrl.sets[m.set]? = some s →
    ({ major := major, minor := 0 } : ComputeCapability).below s.compatibility.minCompute = false

theorem OpResult.isOk_of_text {r : OpResult} (ok : ascii "ok" <+: r.text) : r.isOk = true := by
  unfold OpResult.text at ok
  cases result : r.isOk with
  | true => rfl
  | false =>
      rw [result] at ok
      obtain ⟨rest, same⟩ := ok
      cases same

theorem provision_acked {w : WorkerId} {compat : ReplicaCompatibility} {dev : DeviceCapability}
    {cap : UInt64} {ack : Message}
    (written : .reply ack ∈ (c.provision env m w compat dev cap).1)
    (ok : ascii "ok" <+: ack.payload) :
    (c.ctrl.provisionReplica env.fresh m.replica m.set w compat dev cap (env.mono 0)
      (env.wall 0)).1.isOk = true := by
  unfold Coordinator.provision acknowledge at written
  dsimp only at written
  split at written
  · assumption
  · obtain rfl : ack = _ := Output.reply.inj (List.mem_singleton.mp written)
    exact OpResult.isOk_of_text ok

theorem provision_terms {w : WorkerId} {compat : ReplicaCompatibility} {dev : DeviceCapability}
    {cap : UInt64}
    (accepted : (c.ctrl.provisionReplica env.fresh m.replica m.set w compat dev cap (env.mono 0)
      (env.wall 0)).1.isOk = true) :
    ∃ (s : ReplicaSetState) (lifecycle : ReplicaSetLifecycle) (r : ReplicaState),
      c.ctrl.sets[m.set]? = some s ∧
      (c.provision env m w compat dev cap).2.ctrl.sets[m.set]? =
        some { s with lifecycle := lifecycle } ∧
      (c.provision env m w compat dev cap).2.ctrl.replicas[m.replica]? = some r ∧
      r.setId = m.set ∧ r.compatibility = compat := by
  rcases c.ctrl.provisionReplica_cases env.fresh m.replica m.set w compat dev cap (env.mono 0)
    (env.wall 0) with ⟨-, refused⟩ | ⟨s, reg, lifecycle, gate, -, -, written⟩
  · cases refused.1.symm.trans accepted
  have provisioned := congrArg (fun ctrl => ctrl.replicas[m.replica]?) written
  simp only [ReplicaSetController.putReplica, Table.get_insert, if_true] at provisioned
  have known := (provisionGate_ok.mp gate).1
  let provision : Operation := .provisionReplica m.replica m.set w compat dev cap (env.mono 0)
    (env.wall 0)
  let allocate : Operation := .setAllocating m.replica env.placementId
  let start : Operation := .setStarting m.replica (env.mono 2) (env.wall 1)
  obtain ⟨first, known⟩ := sets_persist provision env.fresh known
  obtain ⟨second, known⟩ := sets_persist allocate env.fresh known
  obtain ⟨third, known⟩ := sets_persist start env.fresh known
  obtain ⟨allocated, found, same⟩ := contract_persists allocate env.fresh provisioned rfl
  obtain ⟨started, found, same'⟩ := contract_persists start env.fresh found rfl
  have terms := same'.trans same
  unfold Coordinator.provision
  simp only [accepted, if_true]
  exact ⟨s, third, started, (provisionGate_ok.mp gate).1, known, found,
    congrArg Contract.setId terms, congrArg Contract.compatibility terms⟩

theorem ProvisionAckedOk.provisioned (acked : ProvisionAckedOk c env m outputs next) :
    ∃ (major : Int32) (s : ReplicaSetState) (lifecycle : ReplicaSetLifecycle) (r : ReplicaState),
      hexi (getPayload m.payload "ccmaj" "c") = .ok major ∧ c.ctrl.sets[m.set]? = some s ∧
      next.ctrl.sets[m.set]? = some { s with lifecycle := lifecycle } ∧
      next.ctrl.replicas[m.replica]? = some r ∧ r.setId = m.set ∧
      r.compatibility = { s.compatibility.copied with compute := ⟨major, 0⟩ } := by
  obtain ⟨kind, handled, ack, written, -, ok⟩ := acked
  unfold handleControl handleProvision at handled
  simp only [kind] at handled
  obtain ⟨w, -, handled⟩ := exists_of_bind_ok handled
  obtain ⟨major, version, handled⟩ := exists_of_bind_ok handled
  obtain ⟨devmem, -, handled⟩ := exists_of_bind_ok handled
  obtain ⟨cap, -, handled⟩ := exists_of_bind_ok handled
  have result := Except.ok.inj handled
  obtain rfl := congrArg Prod.fst result
  obtain rfl := congrArg Prod.snd result
  obtain ⟨s, lifecycle, r, known, known', found, member, same⟩ :=
    provision_terms (provision_acked written ok)
  refine ⟨major, s, lifecycle, r, version, known, known', found, member, ?_⟩
  have proto : c.ctrl.findSet m.set = some s := known
  rw [same, compatFor, proto]

theorem provisioned_compatible_iff (c : Coordinator) (env : Surroundings) (m : Message)
    (outputs : List Output) (next : Coordinator) (acked : ProvisionAckedOk c env m outputs next) :
    CompatiblyProvisioned next m ↔ MeetsMinimum c m := by
  obtain ⟨major, s, lifecycle, r, version, known, known', found, member, terms⟩ :=
    acked.provisioned
  have checked : (checkCompatibility s.compatibility r.compatibility).compatible =
      !({ major := major, minor := 0 } : ComputeCapability).below s.compatibility.minCompute := by
    rw [terms]
    exact checkCompatibility_copied ..
  constructor
  · rintro ⟨r', s', found', -, known'', compatible⟩ major' s'' version' known'''
    obtain rfl := Option.some.inj (found.symm.trans found')
    obtain rfl := Option.some.inj (known'.symm.trans known'')
    obtain rfl := Except.ok.inj (version.symm.trans version')
    obtain rfl := Option.some.inj (known.symm.trans known''')
    simpa using checked.symm.trans compatible
  · intro meets
    refine ⟨r, _, found, member, known', ?_⟩
    rw [checked, meets major s version known]
    rfl

/-- The set asks for 8.6; the request offers `ccmaj` 8, which becomes 8.0. -/
def minorMinimum : List Input :=
  Sample.connect 0 ⟨0, 7⟩ ++
  [Sample.input (.frame 1 {
    kind := .createSet
    set := Sample.setId
    payload := setPayload (Sample.idPayload ⟨0, 1⟩
      ["model", "workload", "tenant", "artifact", "agen", "sgen", "pgen"]) "ccmin" "6" })]

def minorRequest (major : Str) : Message := {
  kind := .provision
  replica := ⟨0, 1⟩
  set := Sample.setId
  payload := setPayload (Sample.idPayload ⟨0, 1⟩ ["worker"]) "ccmaj" major }

def minorCoordinator : Coordinator := Machine.run step Sample.coordinator minorMinimum

theorem minorRequest_acked (major : Str) (answered :
    ((minorCoordinator.handleControl Sample.surroundings (minorRequest major)).toOption.map
      fun result => result.1.head?) = some (some (.reply {
        minorCoordinator.ackFor (minorRequest major) with
        kind := .provisionAck
        payload := "ok replica provisioned" }))) :
    ∃ outputs next,
      ProvisionAckedOk minorCoordinator Sample.surroundings (minorRequest major) outputs next := by
  cases handled : minorCoordinator.handleControl Sample.surroundings (minorRequest major) with
  | error e =>
      rw [handled] at answered
      cases answered
  | ok result =>
      rw [handled] at answered
      have first := List.mem_of_mem_head? (Option.some.inj answered)
      exact ⟨result.1, result.2, rfl, handled, _, first, rfl, _, rfl⟩

theorem minorRequest_provisions_incompatible :
    ∃ outputs next,
      ProvisionAckedOk minorCoordinator Sample.surroundings (minorRequest "8") outputs next ∧
        ¬CompatiblyProvisioned next (minorRequest "8") := by
  obtain ⟨outputs, next, acked⟩ := minorRequest_acked "8" (by decide +kernel)
  refine ⟨outputs, next, acked, ?_⟩
  rintro ⟨r, s, found, -, known, compatible⟩
  let answer := minorCoordinator.handleControl Sample.surroundings (minorRequest "8")
  have checked : (answer.toOption.bind fun result =>
      (result.2.ctrl.replicas[(minorRequest "8").replica]?).bind fun r =>
        (result.2.ctrl.sets[(minorRequest "8").set]?).map fun s =>
          (checkCompatibility s.compatibility r.compatibility).compatible) = some false := by
    decide +kernel
  rw [show answer = .ok (outputs, next) from acked.handled] at checked
  simp [Except.toOption, found, known, compatible] at checked

theorem minorRequest_provisioned :
    ∃ outputs next,
      ProvisionAckedOk minorCoordinator Sample.surroundings (minorRequest "9") outputs next ∧
        (CompatiblyProvisioned next (minorRequest "9") ↔
          MeetsMinimum minorCoordinator (minorRequest "9")) := by
  obtain ⟨outputs, next, acked⟩ := minorRequest_acked "9" (by decide +kernel)
  exact ⟨outputs, next, acked, provisioned_compatible_iff _ _ _ _ _ acked⟩

end Coordinator

end ReplicaFabric
