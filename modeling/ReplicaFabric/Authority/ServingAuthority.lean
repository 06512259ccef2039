import ReplicaFabric.Model.Replica
import ReplicaFabric.Model.ReplicaSet

namespace ReplicaFabric

structure AuthorityFactor where
  name : Str
  satisfied : Bool
  detail : Str

structure ServingAuthorityContext where
  epoch : CoordinatorEpoch := .null
  setGeneration : ReplicaSetGeneration := .null
  policyGeneration : PolicyGeneration := .null
  artifactGeneration : ArtifactGeneration := .null
  healthGeneration : HealthGeneration := .null
  workerBoot : WorkerBootId := .null
  policyFingerprint : Str := []

structure ServingAuthorityDecision where
  eligible : Bool := false
  factors : List AuthorityFactor := []
  rejection : Str := []

def ServingAuthorityDecision.add (d : ServingAuthorityDecision) (f : AuthorityFactor) :
    ServingAuthorityDecision :=
  let d := { d with factors := d.factors ++ [f] }
  if f.satisfied then d
  else
    { d with
      eligible := false
      rejection := if d.rejection.isEmpty
        then "authority factor '" ++ f.name ++ "' not satisfied" else d.rejection }

def authorityFactors (r : ReplicaState) (set : ReplicaSetState) (cur : ServingAuthorityContext) :
    List AuthorityFactor :=
  let setCanServe : Bool := set.lifecycle = .available || set.lifecycle = .degraded
  let healthOk : Bool := r.health = .healthy || r.health = .degraded
  [ ⟨"SET_LIFECYCLE", setCanServe,
      if setCanServe then "replica set lifecycle permits serving"
      else "replica set lifecycle is " ++ enumString set.lifecycle ++
        " and does not permit serving"⟩,
    ⟨"COORDINATOR_EPOCH", r.coordinatorEpoch = cur.epoch,
      if r.coordinatorEpoch = cur.epoch then "epoch matches" else "replica epoch stale"⟩,
    ⟨"SET_GENERATION", r.setGeneration = cur.setGeneration,
      if r.setGeneration = cur.setGeneration then "replica-set generation matches"
      else "replica-set generation stale"⟩,
    ⟨"REPLICA_GENERATION", !r.generation.isNull,
      "replica is a real incarnation (generation " ++ r.generation.str ++ ")"⟩,
    ⟨"ARTIFACT_GENERATION",
      r.artifactGeneration = cur.artifactGeneration &&
        r.artifactGeneration = set.artifactGeneration,
      "artifact generation matches"⟩,
    ⟨"HEALTH_GENERATION", r.healthGeneration = cur.healthGeneration,
      "health generation current"⟩,
    ⟨"POLICY_GENERATION", r.policyGeneration = cur.policyGeneration,
      "policy generation current"⟩,
    ⟨"POLICY_FINGERPRINT",
      r.policyFingerprint = cur.policyFingerprint &&
        cur.policyFingerprint = set.compatibility.policyFingerprint,
      "policy fingerprint matches"⟩,
    ⟨"WORKER_BOOT", r.bootId = cur.workerBoot,
      if r.bootId = cur.workerBoot then "worker boot identity current"
      else "worker boot identity stale (process restarted)"⟩,
    ⟨"LIFECYCLE", r.lifecycle = .serving, "replica lifecycle is " ++ enumString r.lifecycle⟩,
    ⟨"HEALTH", healthOk, "health is " ++ enumString r.health⟩,
    ⟨"READINESS", r.readiness = .ready, "readiness is " ++ enumString r.readiness⟩,
    ⟨"WARMTH", r.warmth = .warm, "warmth is " ++ enumString r.warmth⟩,
    ⟨"PROMOTION", r.promotion ≠ .notPromoted, "promotion state is " ++ enumString r.promotion⟩,
    ⟨"SERVING_FLAG", r.servingEligible, "serving_eligible flag set"⟩,
    ⟨"PLACEMENT", r.placement = .assigned, "placement assigned"⟩ ]

def evaluateServingAuthority (r : ReplicaState) (set : ReplicaSetState)
    (cur : ServingAuthorityContext) : ServingAuthorityDecision :=
  (authorityFactors r set cur).foldl .add { eligible := true }

structure ServingAuthority (r : ReplicaState) (set : ReplicaSetState)
    (cur : ServingAuthorityContext) : Prop where
  setLifecycle : set.lifecycle = .available ∨ set.lifecycle = .degraded
  coordinatorEpoch : r.coordinatorEpoch = cur.epoch
  setGeneration : r.setGeneration = cur.setGeneration
  replicaGeneration : r.generation ≠ .null
  artifactGeneration : r.artifactGeneration = cur.artifactGeneration
  artifactOfSet : r.artifactGeneration = set.artifactGeneration
  healthGeneration : r.healthGeneration = cur.healthGeneration
  policyGeneration : r.policyGeneration = cur.policyGeneration
  policyFingerprint : r.policyFingerprint = cur.policyFingerprint
  fingerprintOfSet : cur.policyFingerprint = set.compatibility.policyFingerprint
  workerBoot : r.bootId = cur.workerBoot
  lifecycle : r.lifecycle = .serving
  health : r.health = .healthy ∨ r.health = .degraded
  readiness : r.readiness = .ready
  warmth : r.warmth = .warm
  promotion : r.promotion ≠ .notPromoted
  servingFlag : r.servingEligible = true
  placement : r.placement = .assigned

theorem foldl_add_eligible (fs : List AuthorityFactor) (d : ServingAuthorityDecision) :
    (fs.foldl .add d).eligible = true ↔ d.eligible = true ∧ ∀ f ∈ fs, f.satisfied = true := by
  induction fs generalizing d with
  | nil => simp
  | cons f fs ih =>
      rw [List.foldl_cons, ih]
      cases ok : f.satisfied <;> simp [ServingAuthorityDecision.add, ok]

theorem evaluateServingAuthority_eligible {r : ReplicaState} {set : ReplicaSetState}
    {cur : ServingAuthorityContext} :
    (evaluateServingAuthority r set cur).eligible = true ↔ ServingAuthority r set cur := by
  simp only [evaluateServingAuthority, foldl_add_eligible, authorityFactors, List.forall_mem_cons,
    true_and, decide_eq_true_eq, Bool.and_eq_true, Bool.or_eq_true, Bool.not_eq_true',
    List.not_mem_nil, false_implies, implies_true, and_true]
  constructor
  · rintro ⟨h1, h2, h3, h4, ⟨h5, h6⟩, h7, h8, ⟨h9, h10⟩, h11, h12, h13, h14, h15, h16, h17, h18⟩
    exact ⟨h1, h2, h3, fun h => by simp [h, Id.isNull, Id.null] at h4, h5, h6, h7, h8, h9, h10,
      h11, h12, h13, h14, h15, h16, h17, h18⟩
  · rintro ⟨h1, h2, h3, h4, h5, h6, h7, h8, h9, h10, h11, h12, h13, h14, h15, h16, h17, h18⟩
    exact ⟨h1, h2, h3, by simpa [← Bool.not_eq_true] using h4, ⟨h5, h6⟩, h7, h8, ⟨h9, h10⟩,
      h11, h12, h13, h14, h15, h16, h17, h18⟩

end ReplicaFabric
