import ReplicaFabric.Library.Best
import ReplicaFabric.Model.ReplicaSet

/-!
# The placement engine

Scores are in any linear order with the operations of `double`, of which no laws are used.
-/

namespace ReplicaFabric

structure PlacementHost where
  workerId : WorkerId := .null
  bootId : WorkerBootId := .null
  nodeId : NodeId := .null
  host : Str := []
  numa : Str := []
  rack : Str := []
  failureDomainLabels : List Str := []
  device : DeviceCapability := {}
  inventory : ResourceInventory := {}
  artifactDistance : UInt64 := 0
  hasWarmModel : Bool := false
  deriving DecidableEq, Repr

structure PlacedReplica where
  id : ReplicaId := .null
  host : Str := []
  numa : Str := []
  deviceId : Str := []
  failureDomainLabels : List Str := []

structure PlacementFactor (R : Type) where
  name : Str
  weight : R
  score : R
  contribution : R
  detail : Str

structure PlacementCandidate (R : Type) where
  host : PlacementHost
  eligible : Bool
  rejection : Str
  factors : List (PlacementFactor R)
  total : R
  summary : Str

structure PlacementDecision (R : Type) where
  placed : Bool
  chosen : PlacementHost
  candidates : List (PlacementCandidate R)
  note : Str

/-- What the hosts are sorted by, and what breaks ties. -/
def PlacementHost.key (h : PlacementHost) : Str := h.workerId.str ++ "|" ++ h.device.deviceId

namespace PlacementEngine

def hasBackend (h : PlacementHost) (kind : BackendKind) : Bool :=
  if kind = .none then true else h.inventory.backends.any fun b => b.kind = kind

def occupied (existing : List PlacedReplica) (h : PlacementHost) (domain : Str) : Bool :=
  existing.any fun e =>
    (domain = ascii "host" && e.host = h.host && e.host ≠ []) ||
    (domain = ascii "numa" && e.numa = h.numa && e.numa ≠ []) ||
    (domain = ascii "device" && e.deviceId = h.device.deviceId && e.deviceId ≠ []) ||
    (domain = ascii "rack" &&
      e.failureDomainLabels.any fun lbl => h.failureDomainLabels.any fun hl => lbl = hl) ||
    h.failureDomainLabels.any fun dom =>
      e.failureDomainLabels.any fun edm => domain = edm && dom = edm

/-- The empty text when the host passes. -/
def hardReject (set : ReplicaSetState) (host : PlacementHost) : Str :=
  if !hasBackend host set.backend then
    "missing required backend " ++ enumString set.backend
  else if host.device.compute.below set.minCompute then "compute capability too low"
  else if host.inventory.freeMemoryBytes < set.memoryRequirementBytes then
    "insufficient free memory"
  else if host.inventory.acceleratorCount < set.acceleratorRequirement.toInt32 then
    "insufficient accelerators"
  else []

section scores

variable {R : Type} [LinearOrder R] [Add R] [Mul R] [Div R] [NatCast R] [IntCast R]
  [OfScientific R]

def normalizeMem (free total : UInt64) : R :=
  if total = 0 then 0.0 else (free.toNat : R) / (total.toNat : R)

def addFactor (name : Str) (weight score : R) (detail : Str) : PlacementFactor R where
  name := name
  weight := weight
  score := score
  contribution := weight * score
  detail := detail

def preference (pol : PlacementPolicy) (host : PlacementHost) : R :=
  let pref : R := 0.0
  let pref := if pol.preferredHost ≠ [] ∧ host.host = pol.preferredHost then pref + 0.5 else pref
  let pref :=
    if pol.preferredDevice ≠ [] ∧ host.device.deviceId = pol.preferredDevice then pref + 0.5
    else pref
  if pol.preferredFailureDomain ≠ [] ∧ pol.preferredFailureDomain ∈ host.failureDomainLabels then
    pref + 0.5
  else pref

def factors (set : ReplicaSetState) (existing : List PlacedReplica) (host : PlacementHost) :
    List (PlacementFactor R) :=
  let inv := host.inventory
  let cc := host.device.compute
  let mem : R := normalizeMem inv.freeMemoryBytes inv.totalMemoryBytes
  let compute : R := ((cc.major.toInt : R) * 10.0 + (cc.minor.toInt : R)) / 200.0
  let warm : R := if host.hasWarmModel then 1.0 else 0.0
  let locality : R :=
    if host.artifactDistance = 0 then 1.0 else 1.0 / (1.0 + (host.artifactDistance.toNat : R))
  let (diversity, diversityDetail) : R × Str :=
    match set.placementPolicy.antiAffinityDomains.find? (occupied existing host) with
    | none => (1.0, "unique across affinity domains")
    | some dom => (0.0, "shares " ++ dom ++ " domain with an existing replica")
  [ addFactor "free_memory" 3.0 mem
      (ascii (toString inv.freeMemoryBytes.toNat) ++ " free bytes"),
    addFactor "accelerator_capability" 2.0 (min 1.0 compute)
      ("compute " ++ ascii (toString cc.major.toInt) ++ "." ++ ascii (toString cc.minor.toInt)),
    addFactor "warm_state" 2.5 warm
      (if host.hasWarmModel then "warm model resident" else "cold model"),
    addFactor "artifact_locality" 1.5 locality
      ("artifact distance " ++ ascii (toString host.artifactDistance.toNat)),
    addFactor "failure_domain_diversity" 4.0 diversity diversityDetail,
    addFactor "preference" 1.0 (min 1.0 (preference set.placementPolicy host))
      "placement preference bonus" ]

def total (fs : List (PlacementFactor R)) : R := fs.foldl (fun t f => t + f.contribution) 0.0

def candidate (set : ReplicaSetState) (existing : List PlacedReplica) (host : PlacementHost) :
    PlacementCandidate R :=
  let rejection := hardReject set host
  if rejection ≠ [] then
    { host, eligible := false, rejection, factors := [], total := 0.0, summary := [] }
  else
    { host, eligible := true, rejection, factors := factors set existing host,
      total := total (factors set existing host), summary := host.key }

def better (c best : PlacementCandidate R) : Prop :=
  c.total > best.total ∨ (c.total = best.total ∧ compare c.summary best.summary = .lt)

instance (c best : PlacementCandidate R) : Decidable (better c best) :=
  inferInstanceAs (Decidable (_ ∨ _))

/-- `const PlacementCandidate* best` -/
def select (candidates : List (PlacementCandidate R)) : Option (PlacementCandidate R) :=
  Best.ofList (·.eligible) better candidates

/-- The seed of the engine is not used. -/
def place (set : ReplicaSetState) (hosts : List PlacementHost) (existing : List PlacedReplica) :
    PlacementDecision R :=
  let sorted := Table.sortedBy PlacementHost.key hosts
  let candidates := sorted.map (candidate set existing)
  match select candidates with
  | none =>
      { placed := false, chosen := {}, candidates,
        note := "no eligible placement: all candidates failed hard constraints" }
  | some best =>
      { placed := true, chosen := best.host, candidates,
        note := "chosen host " ++ best.host.workerId.str }

end scores

end PlacementEngine

end ReplicaFabric
