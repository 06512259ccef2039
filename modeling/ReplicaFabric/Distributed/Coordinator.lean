import ReplicaFabric.Controller.Operations
import ReplicaFabric.Core.Numerals
import ReplicaFabric.Distributed.Protocol
import ReplicaFabric.Persistence.Snapshot

/-!
# The message handlers of the coordinator

Each handler takes the coordinator and a message to the frames it writes and the next state. It
fails when a parser throws; every handler parses before it writes.
-/

namespace ReplicaFabric

abbrev ConnId := Nat

/-- What a handler reads that is neither the message nor the coordinator's state: the clocks,
the random identities, the sockets, and what an enumeration left uninitialized happens to hold.
-/
structure Surroundings where
  fresh : FreshIds
  placementId : PlacementId
  mono : Nat → MonotonicNs
  wall : Nat → WallNs
  /-- Whether the socket takes all bytes of a frame. -/
  sends : ConnId → Str → Bool
  indeterminateBackend : BackendKind
  indeterminatePromotion : PromotionState

/-- A frame that a handler writes: back on the connection it serves, or to a worker. -/
inductive Output
  | reply (m : Message)
  | forward (worker : WorkerId) (m : Message)
  deriving DecidableEq

inductive Phase
  | registered (reg : WorkerRegistration) (result : OpResult)
  | serving (reg : WorkerRegistration)
  | unregistered (reg : WorkerRegistration)
  | control
  | finished
  deriving DecidableEq

structure Coordinator where
  ctrl : ReplicaSetController := .empty
  epoch : CoordinatorEpoch
  workerConns : Table WorkerId ConnId := ∅
  lastResults : Table ReplicaId Str := ∅
  phases : Table ConnId Phase := ∅
  /-- An exception that no handler catches ends the process. -/
  terminated : Bool := false

def Surroundings.writeFrame (env : Surroundings) (conn : ConnId) (payload : Str) : Bool :=
  payload.length ≤ kMaxFrame && env.sends conn payload

def hexu (s : Str) : Except Exception UInt64 := stoull 16 s

def hexi (s : Str) : Except Exception Int32 := (stoul 16 s).map UInt32.toInt32

def parseId {tag : IdTag} (s : Str) : Except Exception (Id tag) := Id.fromString s

/-- `from_int` into a variable that holds `indeterminate`. -/
def fromInt {E : Type} [DecidableEq E] [EnumTable E] (indeterminate : E) (v : Int32) : E :=
  (enumFromInt E v.toInt).getD indeterminate

def buildSet (env : Surroundings) (m : Message) : Except Exception ReplicaSetState := do
  let modelId ← parseId (getPayload m.payload "model" "")
  let workloadId ← parseId (getPayload m.payload "workload" "")
  let tenantId ← parseId (getPayload m.payload "tenant" "")
  let desiredCount ← stoul 10 (getPayload m.payload "desired" "2")
  let minHealthy ← stoul 10 (getPayload m.payload "min" "1")
  let maxReplicas ← stoul 10 (getPayload m.payload "max" "2")
  let artifactId ← parseId (getPayload m.payload "artifact" "")
  let artifactGeneration ← parseId (getPayload m.payload "agen" "")
  let generation ← parseId (getPayload m.payload "sgen" "")
  let policyGeneration ← parseId (getPayload m.payload "pgen" "")
  let backend := fromInt env.indeterminateBackend (← hexi (getPayload m.payload "backend" "2"))
  let runtimeName := getPayload m.payload "runtime" "triton-3"
  let major ← hexi (getPayload m.payload "ccmaj" "8")
  let minor ← hexi (getPayload m.payload "ccmin" "0")
  let memoryRequirementBytes ← hexu (getPayload m.payload "mem" "0x1000000")
  let acceleratorRequirement ← stoul 10 (getPayload m.payload "accel" "1")
  return {
    id := m.set
    modelId := modelId
    workloadId := workloadId
    tenantId := tenantId
    desiredCount := desiredCount
    minHealthy := minHealthy
    maxReplicas := maxReplicas
    artifactId := artifactId
    artifactGeneration := artifactGeneration
    generation := generation
    policyGeneration := policyGeneration
    lifecycle := .created
    compatibility := {
      modelId := modelId
      backend := backend
      runtimeName := runtimeName
      architecture := getPayload m.payload "arch" "llama"
      minCompute := ⟨major, minor⟩
      numericMode := .fp16
      artifactGeneration := artifactGeneration
      policyFingerprint := "fp-1" }
    backend := backend
    runtimeName := runtimeName
    minCompute := ⟨major, minor⟩
    memoryRequirementBytes := memoryRequirementBytes
    acceleratorRequirement := acceleratorRequirement }

def buildWorkerReg (env : Surroundings) (m : Message) : Except Exception WorkerRegistration := do
  let nodeId ← parseId (getPayload m.payload "node_hex" "")
  let backend := fromInt env.indeterminateBackend (← hexi (getPayload m.payload "backend" "2"))
  let memory ← hexu (getPayload m.payload "mem" "0x800000000")
  let major ← hexi (getPayload m.payload "ccmaj" "c")
  let deviceMemory ← hexu (getPayload m.payload "devmem" "0x800000000")
  let device : DeviceCapability := {
    kind := .cuda
    deviceId := getPayload m.payload "device" "cuda:0"
    compute := ⟨major, 0⟩
    memoryBytes := deviceMemory }
  return {
    workerId := m.worker
    bootId := m.boot
    nodeId := nodeId
    protocolVersion := 1
    inventory := {
      totalMemoryBytes := memory
      freeMemoryBytes := memory
      acceleratorCount := 1
      devices := [device]
      backends := [⟨backend, "triton-3", device.compute, .fp16⟩] } }

def warmingFrom (payload : Str) : Except Exception WarmingRecord := do
  let steps ← hexu (getPayload payload "steps" "0")
  return {
    state := .warm
    stepsCompleted := steps
    stepsRequired := 4
    artifactLoadingDone := true
    weightsResident := true
    adaptersActive := true
    kernelInitDone := true
    graphInitDone := true
    allocatorInitDone := true
    deviceContextDone := true
    warmupExecutionDone := true
    endpointRegistered := true }

def readinessOf (mask : UInt64) : ReadinessRecord where
  state := .ready
  factors := {
    modelLoaded := (mask &&& 1) ≠ 0
    artifactValidated := (mask &&& 2) ≠ 0
    adaptersPresent := (mask &&& 4) ≠ 0
    kernelPrepared := (mask &&& 8) ≠ 0
    graphPrepared := (mask &&& 16) ≠ 0
    memoryAvailable := (mask &&& 32) ≠ 0
    deviceContextInitialized := (mask &&& 64) ≠ 0
    warmupComplete := (mask &&& 128) ≠ 0
    dependenciesReady := (mask &&& 256) ≠ 0
    endpointRegistered := (mask &&& 512) ≠ 0
    policyCurrent := (mask &&& 1024) ≠ 0 }

def CompatibilityRequirements.copied (req : CompatibilityRequirements) : ReplicaCompatibility where
  modelId := req.modelId
  modelRevision := req.modelRevision
  tokenizerVocab := req.tokenizerVocab
  adapters := req.requiredAdapters
  backend := req.backend
  runtimeName := req.runtimeName
  architecture := req.architecture
  numericMode := req.numericMode
  artifactGeneration := req.artifactGeneration
  kernelAbi := req.kernelAbi
  policyFingerprint := req.policyFingerprint

def OpResult.text (r : OpResult) : Str := (if r.isOk then "ok" else "err") ++ ascii " " ++ r.message

namespace Coordinator

def delivers (c : Coordinator) (env : Surroundings) (worker : WorkerId) (m : Message) : Bool :=
  match c.workerConns[worker]? with
  | none => false
  | some conn => env.writeFrame conn (encodeMessage m)

def sendToWorker (c : Coordinator) (env : Surroundings) (worker : WorkerId) (m : Message) :
    List Output :=
  if c.delivers env worker m then [.forward worker m] else []

def ackFor (c : Coordinator) (m : Message) : Message :=
  { kind := .msgError, epoch := c.epoch, seq := m.seq }

def acknowledge (c : Coordinator) (m : Message) (kind : MessageKind)
    (result : OpResult × ReplicaSetController) : List Output × Coordinator :=
  ([.reply { c.ackFor m with kind := kind, payload := result.1.text }], { c with ctrl := result.2 })

def hostOf (c : Coordinator) (m : Message) : WorkerId × WorkerBootId :=
  match c.ctrl.findReplica m.replica with
  | none => (m.worker, m.boot)
  | some rs => (rs.workerId, c.ctrl.currentBootFor m.replica)

def compatFor (c : Coordinator) (m : Message) (major : Int32) : ReplicaCompatibility :=
  let compat : ReplicaCompatibility :=
    match c.ctrl.findSet m.set with
    | none => {}
    | some proto => proto.compatibility.copied
  { compat with compute := ⟨major, 0⟩ }

def provision (c : Coordinator) (env : Surroundings) (m : Message) (w : WorkerId)
    (compat : ReplicaCompatibility) (dev : DeviceCapability) (cap : UInt64) :
    List Output × Coordinator :=
  let (r, ctrl) := c.ctrl.provisionReplica env.fresh m.replica m.set w compat dev cap (env.mono 0)
    (env.wall 0)
  let (acks, c) := c.acknowledge m .provisionAck (r, ctrl)
  if r.isOk then
    let ctrl := (ctrl.setAllocating m.replica env.placementId).2
    let ctrl := (ctrl.setStarting m.replica (env.mono 2) (env.wall 1)).2
    let warm : Message := {
      kind := .warm
      epoch := c.epoch
      worker := w
      replica := m.replica
      set := m.set
      payload := "steps=4" }
    (acks ++ c.sendToWorker env w warm, { c with ctrl := ctrl })
  else (acks, c)

def handleProvision (c : Coordinator) (env : Surroundings) (m : Message) :
    Except Exception (List Output × Coordinator) := do
  let w ← parseId (getPayload m.payload "worker" "")
  let major ← hexi (getPayload m.payload "ccmaj" "c")
  let devmem ← hexu (getPayload m.payload "devmem" "0x800000000")
  let dev : DeviceCapability := {
    kind := .cuda
    deviceId := getPayload m.payload "device" "cuda:0"
    compute := ⟨major, 0⟩
    memoryBytes := devmem }
  let cap ← hexu (getPayload m.payload "capacity" "0x1000000")
  return c.provision env m w (c.compatFor m major) dev cap

def handleExecute (c : Coordinator) (env : Surroundings) (m : Message) : List Output :=
  let ack := c.ackFor m
  match c.ctrl.findReplica m.replica with
  | none => [.reply { ack with payload := "err unknown replica" }]
  | some rs =>
      let fwd := { m with epoch := c.epoch }
      if !c.delivers env rs.workerId fwd then
        [.reply { ack with payload := "err worker unreachable" }]
      else [.forward rs.workerId fwd, .reply { ack with payload := "ok forwarded" }]

def handleQuery (c : Coordinator) (m : Message) : List Output :=
  let q := getPayload m.payload "q" "?"
  let payload : Str :=
    if q = "result" then "result=" ++ (c.lastResults[m.replica]?).getD []
    else if q = "state" then
      match c.ctrl.findReplica m.replica with
      | none => "err unknown replica"
      | some rs =>
          "lifecycle=" ++ enumString rs.lifecycle ++
          " serving=" ++ (if rs.servingEligible then "1" else "0") ++
          " role=" ++ enumString rs.role ++
          " boot=" ++ rs.bootId.str
    else "err unknown query"
  [.reply { c.ackFor m with kind := .query, payload := payload }]

def handleSnapshot (c : Coordinator) (m : Message) : List Output :=
  let bytes := makeSnapshot c.ctrl
  let digit (d : UInt8) : UInt8 := (ascii "0123456789abcdef").getD d.toNat 0
  let hex : Str := bytes.flatMap fun (b : UInt8) => [digit (b >>> 4), digit (b &&& 0xF)]
  let payload : Str := "len=" ++ ascii (toString bytes.length) ++ "\nhex=" ++ hex
  [.reply { c.ackFor m with kind := .snapshot, payload := payload }]

def handleControl (c : Coordinator) (env : Surroundings) (m : Message) :
    Except Exception (List Output × Coordinator) :=
  match m.kind with
  | .createSet => do
      let s ← buildSet env m
      return c.acknowledge m .createSetAck (c.ctrl.createReplicaSet s c.epoch)
  | .provision => c.handleProvision env m
  | .promote => do
      let v ← hexi (getPayload m.payload "target" "5")
      let target := fromInt env.indeterminatePromotion v
      let (wkr, bkt) := c.hostOf m
      return c.acknowledge m .promoteAck
        (c.ctrl.promoteReplica env.fresh m.replica target wkr bkt (env.mono 0) (env.wall 0))
  | .drain =>
      let (wkr, bkt) := c.hostOf m
      return c.acknowledge m .drainAck
        (c.ctrl.drainReplica env.fresh m.replica wkr bkt (env.mono 0))
  | .failover => do
      let failed ← parseId (getPayload m.payload "failed" "")
      return c.acknowledge m .failoverAck
        (c.ctrl.triggerFailover env.fresh m.set failed (getPayload m.payload "reason" "failover")
          (env.mono 0) (env.wall 0))
  | .execute => .ok (c.handleExecute env m, c)
  | .query => .ok (c.handleQuery m, c)
  | .snapshot => .ok (c.handleSnapshot m, c)
  | _ => .ok ([.reply { c.ackFor m with payload := "err unknown control command" }], c)

def handleHealth (c : Coordinator) (env : Surroundings) (m : Message) :
    Except Exception (List Output × Coordinator) := do
  let v ← hexi (getPayload m.payload "state" "2")
  match enumFromInt HealthState v.toInt with
  | none => return ([], c)
  | some hs =>
      let ev : HealthEvidence := {
        state := hs
        kind := .reported
        source := getPayload m.payload "source" "worker"
        -- 0.99
        confidence := ⟨0x3FEFAE147AE147AE⟩
        generation :=
          match c.ctrl.findReplica m.replica with
          | none => .null
          | some rs => rs.healthGeneration
        observedAtWall := env.wall 0 }
      return ([], { c with
        ctrl := (c.ctrl.reportHealth m.replica ev m.worker m.boot (env.mono 0)).2 })

def handleWorker (c : Coordinator) (env : Surroundings) (m : Message) :
    Except Exception (List Output × Coordinator) :=
  let pong : List Output := [.reply { kind := .pong }]
  match m.kind with
  | .warmDone => do
      let warm ← warmingFrom m.payload
      return ([], { c with
        ctrl := (c.ctrl.warmReplica m.replica warm m.worker m.boot (env.mono 0)).2 })
  | .health => c.handleHealth env m
  | .readiness => do
      let mask ← hexu (getPayload m.payload "mask" "0")
      return ([], { c with
        ctrl := (c.ctrl.reportReadiness m.replica (readinessOf mask) m.worker m.boot).2 })
  | .executeResult =>
      let result : Str :=
        "req=" ++ getPayload m.payload "req" "?" ++
        "\noutcome=" ++ getPayload m.payload "outcome" "?" ++
        "\nresult=" ++ getPayload m.payload "result" "?"
      -- The case has no `break`: it falls through to `PING`.
      .ok (pong, { c with lastResults := c.lastResults.insert m.replica result })
  | .ping => .ok (pong, c)
  | _ => .ok ([], c)

end Coordinator

end ReplicaFabric
