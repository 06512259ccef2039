import Mathlib.Algebra.Order.Ring.Unbundled.Rat
import ReplicaFabric.Controller.Operations
import ReplicaFabric.Core.Numerals
import ReplicaFabric.Persistence.Snapshot
import ReplicaFabric.Placement.Engine

namespace ReplicaFabric

/-- `std::stoi` -/
def stoi (s : Str) : Except Exception Int32 :=
  let (negative, s) := Numeral.sign (s.dropWhile Numeral.isSpace)
  let digits := s.takeWhile (Numeral.isDigit 10)
  if digits = [] then .error .invalidArgument
  else
    let v : Int := Numeral.valueOf 10 digits
    let v := if negative then -v else v
    if v < -2 ^ 31 ∨ v ≥ 2 ^ 31 then .error .outOfRange else .ok (Int32.ofInt v)

namespace ReplicaSetController

def listReplicas (ctrl : ReplicaSetController) (setId : ReplicaSetId) : List ReplicaId :=
  (ctrl.replicas.toList.filter fun e => e.2.setId = setId).map Prod.fst

def listSets (ctrl : ReplicaSetController) : List ReplicaSetId := ctrl.sets.toList.map Prod.fst

end ReplicaSetController

namespace Cli

inductive Abort
  | exception (e : Exception)
  /-- An argument that was not given is read past the end of the vector. -/
  | pastArguments
  deriving DecidableEq

structure Options where
  json : Bool := false
  stateIn : Str := []
  stateOut : Str := []
  args : List Str := []

/-- The loop over `argv`; `--state` and `--save` without a value are arguments. -/
def Options.parse : List Str → Options → Options
  | [], opts => opts
  | [a], opts =>
      if a = "--json" then { opts with json := true } else { opts with args := opts.args ++ [a] }
  | a :: value :: rest, opts =>
      if a = "--json" then parse (value :: rest) { opts with json := true }
      else if a = "--state" then parse rest { opts with stateIn := value }
      else if a = "--save" then parse rest { opts with stateOut := value }
      else parse (value :: rest) { opts with args := opts.args ++ [a] }

/-- The scores of the placement engine, as it computes with them and as they are printed. -/
structure Scores where
  R : Type
  [order : LinearOrder R]
  [add : Add R]
  [mul : Mul R]
  [div : Div R]
  [natCast : NatCast R]
  [intCast : IntCast R]
  [scientific : OfScientific R]
  text : R → Str

attribute [instance] Scores.order Scores.add Scores.mul Scores.div Scores.natCast Scores.intCast
  Scores.scientific

def Scores.exact : Scores := { R := ℚ, text := fun score => toString score }

structure Host where
  /-- The identities that the generators draw, by the place in the program that draws them. -/
  draw : Nat → UInt64 × UInt64
  fresh : Nat → FreshIds
  writable : Str → Bool
  indeterminatePromotion : PromotionState
  scores : Scores

def Host.id {tag : IdTag} (host : Host) (k : Nat) : Id tag := ⟨(host.draw k).1, (host.draw k).2⟩

def jesc (s : Str) : Str :=
  s.flatMap fun c =>
    if c = 0x22 || c = 0x5C then [0x5C, c] else if c = 0x0A then [0x5C, 0x6E] else [c]

def quoted (s : Str) : Str := "\"" ++ s ++ "\""

def out (json : Bool) (key value : Str) : Str :=
  if json then quoted key ++ ":" ++ quoted (jesc value) ++ ",\n" else key ++ ": " ++ value ++ "\n"

def opening (json : Bool) : Str := if json then "\x7b\n" else []

def closing (json : Bool) : Str := if json then "\x7d\n" else []

def outcomeText (r : OpResult) : Str := if r.isOk then "ok" else r.message

def exitCode (r : OpResult) : Nat := if r.isOk then 0 else 1

def listing (json : Bool) (key : Str) (ids : List Str) : Str :=
  if json then
    "\x7b" ++ quoted key ++ ":[" ++ List.flatten ((ids.map quoted).intersperse (ascii ",")) ++
      "]\x7d\n"
  else ids.flatMap (· ++ "\n")

def mkSet (host : Host) (id : ReplicaSetId) (model : ModelId) (art : ArtifactId)
    (ag : ArtifactGeneration) (sg : ReplicaSetGeneration) (pg : PolicyGeneration) (max : Int32) :
    ReplicaSetState where
  id := id
  modelId := model
  artifactId := art
  artifactGeneration := ag
  generation := sg
  policyGeneration := pg
  workloadId := host.id 0
  tenantId := host.id 1
  desiredCount := max.toUInt32
  minHealthy := 1
  maxReplicas := max.toUInt32
  lifecycle := .created
  compatibility := {
    modelId := model
    backend := .triton
    runtimeName := "triton-3"
    architecture := "llama"
    minCompute := ⟨8, 0⟩
    numericMode := .fp16
    artifactGeneration := ag
    policyFingerprint := "fp-1" }
  backend := .triton
  runtimeName := "triton-3"
  minCompute := ⟨8, 0⟩
  memoryRequirementBytes := 16 * 1024 * 1024
  acceleratorRequirement := 1
  placementPolicy := {
    antiAffinityDomains := ["host"]
    requireDiversity := true
    syntheticDomains := [⟨"rack-A", "rack"⟩, ⟨"rack-B", "rack"⟩] }

def setupWorker (host : Host) (k : Nat) : WorkerRegistration :=
  let memory : UInt64 := 64 * 1024 * 1024 * 1024
  { workerId := host.id k
    bootId := host.id (k + 1)
    nodeId := host.id (k + 2)
    protocolVersion := 1
    inventory := {
      totalMemoryBytes := memory
      freeMemoryBytes := memory
      acceleratorCount := 1
      devices := [⟨.cuda, "cuda:0", ⟨12, 0⟩, 32 * 1024 * 1024 * 1024⟩]
      backends := [⟨.triton, "triton-3", ⟨12, 0⟩, .fp16⟩] } }

def setupCompat (set : Option ReplicaSetState) : ReplicaCompatibility :=
  match set with
  | none => {}
  | some set => {
      modelId := set.compatibility.modelId
      backend := set.compatibility.backend
      runtimeName := set.compatibility.runtimeName
      architecture := set.compatibility.architecture
      numericMode := set.compatibility.numericMode
      artifactGeneration := set.compatibility.artifactGeneration
      policyFingerprint := set.compatibility.policyFingerprint
      compute := set.compatibility.minCompute }

def setupReplica (host : Host) (k : Nat) (set : ReplicaSetId) (rid : ReplicaId)
    (ctrl : ReplicaSetController) : ReplicaSetController :=
  let wr := setupWorker host k
  let compat := setupCompat (ctrl.findSet set)
  let device : DeviceCapability := ⟨.cuda, "cuda:0", ⟨12, 0⟩, 32 * 1024 * 1024 * 1024⟩
  let ctrl := (ctrl.registerWorker wr).2
  let ctrl := (ctrl.provisionReplica (host.fresh k) rid set wr.workerId compat device
    (8 * 1024 * 1024) 0 0).2
  let ctrl := (ctrl.setAllocating rid (host.id (k + 3))).2
  (ctrl.setStarting rid 0 0).2

def warm : WarmingRecord where
  state := .warm
  artifactLoadingDone := true
  weightsResident := true
  adaptersActive := true
  kernelInitDone := true
  graphInitDone := true
  allocatorInitDone := true
  deviceContextDone := true
  warmupExecutionDone := true
  endpointRegistered := true
  stepsRequired := 4
  stepsCompleted := 4

def healthy (ctrl : ReplicaSetController) (rid : ReplicaId) : HealthEvidence where
  state := .healthy
  kind := .reported
  source := "cli"
  generation :=
    match ctrl.findReplica rid with
    | none => .null
    | some r => r.healthGeneration
  observedAtMono := 0

def ready : ReadinessRecord where
  factors := ⟨true, true, true, true, true, true, true, true, true, true, true⟩
  state := .ready

def warmReady (ctrl : ReplicaSetController) (rid : ReplicaId) (w : WorkerId) (b : WorkerBootId) :
    (OpResult × OpResult × OpResult) × ReplicaSetController :=
  let (wr, ctrl) := ctrl.warmReplica rid warm w b 0
  let (hr, ctrl) := ctrl.reportHealth rid (healthy ctrl rid) w b 0
  let (qr, ctrl) := ctrl.reportReadiness rid ready w b
  ((wr, hr, qr), ctrl)

def isReady (r : ReplicaState) : Bool := r.readiness = .ready && r.health = .healthy

def ensureReady (ctrl : ReplicaSetController) (rid : ReplicaId) (w : WorkerId) (b : WorkerBootId) :
    Bool × ReplicaSetController :=
  match ctrl.findReplica rid with
  | none => (false, ctrl)
  | some cur =>
      let ctrl := if isReady cur then ctrl else (warmReady ctrl rid w b).2
      (((ctrl.findReplica rid).map isReady).getD false, ctrl)

def readyCandidate (failed : ReplicaId) (ctrl : ReplicaSetController) (rid : ReplicaId) :
    ReplicaSetController :=
  if rid = failed then ctrl
  else
    match ctrl.findReplica rid with
    | none => ctrl
    | some rs =>
        match ctrl.workers[rs.workerId]? with
        | none => ctrl
        | some reg => (ensureReady ctrl rid reg.workerId reg.bootId).2

/-- How a command ends: what it has printed, its exit code, the controller, and whether it calls
`save_state`. -/
structure Done where
  code : Nat
  text : Str
  ctrl : ReplicaSetController
  saves : Bool := false

def arg (args : List Str) (k : Nat) : Except Abort Str :=
  match args[k]? with
  | none => .error .pastArguments
  | some a => .ok a

def number (s : Str) : Except Abort Int32 := (stoi s).mapError .exception

def sizeArg (args : List Str) (k : Nat) : Except Abort Int32 :=
  match args[k]? with
  | none => .ok 2
  | some a => number a

def pid {tag : IdTag} (args : List Str) (k : Nat) : Except Abort (Id tag) := do
  let a ← arg args k
  (Id.fromString a).mapError .exception

def createSet (host : Host) (args : List Str) (ctrl : ReplicaSetController) :
    Except Abort Done := do
  let id ← pid args 1
  let model ← pid args 2
  let art ← pid args 3
  let ag ← pid args 4
  let sg ← pid args 5
  let pg ← pid args 6
  let max ← sizeArg args 7
  let (r, ctrl) := ctrl.createReplicaSet (mkSet host id model art ag sg pg max) (host.id 2)
  return { code := exitCode r, text := outcomeText r ++ "\n", ctrl := ctrl, saves := true }

/-- Where the draws for the replicas of `setup` and `demo` start. -/
def replicaDraws (i : Nat) : Nat := 10 + 5 * i

def setupText (host : Host) (json : Bool) (i : Nat) : Str :=
  let k := replicaDraws i
  let rid : ReplicaId := host.id k
  let wr := setupWorker host (k + 1)
  let name : Str := "replica" ++ ascii (toString i)
  if json then
    quoted name ++ ":\x7b" ++ out json "id" rid.str ++ out json "worker" wr.workerId.str ++
      out json "boot" wr.bootId.str ++ quoted "node" ++ ":" ++ quoted wr.nodeId.str ++ "\x7d,\n"
  else
    name ++ ": " ++ rid.str ++ " (worker " ++ wr.workerId.str ++ " boot " ++ wr.bootId.str ++ ")\n"

def setupSet (host : Host) (max : Int32) : ReplicaSetState :=
  mkSet host (host.id 3) (host.id 4) (host.id 5) (host.id 6) (host.id 7) (host.id 8) max

def setupReplicas (host : Host) (indices : List Nat) (ctrl : ReplicaSetController) :
    ReplicaSetController :=
  indices.foldl (fun ctrl i =>
    setupReplica host (replicaDraws i + 1) (host.id 3) (host.id (replicaDraws i)) ctrl) ctrl

def setup (host : Host) (json : Bool) (args : List Str) (ctrl : ReplicaSetController) :
    Except Abort Done := do
  let max ← sizeArg args 1
  let set := setupSet host max
  let (r, ctrl) := ctrl.createReplicaSet set (host.id 2)
  if !r.isOk then
    return { code := 1, text := "setup failed: " ++ r.message ++ "\n", ctrl := ctrl }
  let indices := (List.range 2).filter fun i : Nat => (i : Int) < max.toInt
  let text := opening json ++ out json "set" set.id.str ++
    indices.flatMap (setupText host json) ++ closing json
  return { code := 0, text := text, ctrl := setupReplicas host indices ctrl, saves := true }

def inspect (json : Bool) (args : List Str) (ctrl : ReplicaSetController) : Except Abort Done := do
  let id : ReplicaId ← pid args 1
  match ctrl.findReplica id with
  | none => return { code := 1, text := "unknown replica\n", ctrl := ctrl }
  | some r =>
      let text := opening json ++
        out json "id" r.id.str ++ out json "set" r.setId.str ++
        out json "lifecycle" (enumString r.lifecycle) ++ out json "health" (enumString r.health) ++
        out json "readiness" (enumString r.readiness) ++
        out json "warmth" (enumString r.warmth) ++
        out json "promotion" (enumString r.promotion) ++ out json "role" (enumString r.role) ++
        out json "serving" (if r.servingEligible then "1" else "0") ++
        out json "boot" r.bootId.str ++ out json "worker" r.workerId.str ++ closing json
      return { code := 0, text := text, ctrl := ctrl }

def warmCommand (args : List Str) (ctrl : ReplicaSetController) : Except Abort Done := do
  let rid : ReplicaId ← pid args 1
  let w : WorkerId ← pid args 2
  let b : WorkerBootId ← pid args 3
  match ctrl.findReplica rid with
  | none => return { code := 1, text := "unknown replica\n", ctrl := ctrl }
  | some _ =>
      let ((wr, hr, qr), ctrl) := warmReady ctrl rid w b
      let lifecycle : Str :=
        match ctrl.findReplica rid with
        | none => "?"
        | some r => enumString r.lifecycle
      let text := "warm=" ++ outcomeText wr ++ " health=" ++ outcomeText hr ++ " readiness=" ++
        outcomeText qr ++ " -> lifecycle=" ++ lifecycle ++ "\n"
      return { code := 0, text := text, ctrl := ctrl, saves := true }

def promote (host : Host) (args : List Str) (ctrl : ReplicaSetController) : Except Abort Done := do
  let rid : ReplicaId ← pid args 1
  let w : WorkerId ← pid args 2
  let b : WorkerBootId ← pid args 3
  let v ← number (← arg args 4)
  let target := (enumFromInt PromotionState v.toInt).getD host.indeterminatePromotion
  let (ready, ctrl) := ensureReady ctrl rid w b
  if !ready then
    return { code := 1, text := "cannot make replica ready for promotion\n", ctrl := ctrl }
  let (r, ctrl) := ctrl.promoteReplica (host.fresh 0) rid target w b 0 0
  return { code := exitCode r, text := outcomeText r ++ "\n", ctrl := ctrl, saves := true }

def drain (host : Host) (args : List Str) (ctrl : ReplicaSetController) : Except Abort Done := do
  let rid : ReplicaId ← pid args 1
  let w : WorkerId ← pid args 2
  let b : WorkerBootId ← pid args 3
  let (r, ctrl) := ctrl.drainReplica (host.fresh 0) rid w b 0
  return { code := exitCode r, text := outcomeText r ++ "\n", ctrl := ctrl, saves := true }

def failover (host : Host) (args : List Str) (ctrl : ReplicaSetController) : Except Abort Done := do
  let set : ReplicaSetId ← pid args 1
  let failed : ReplicaId ← pid args 2
  let reason := (args[3]?).getD (ascii "failover")
  let ctrl := (ctrl.listReplicas set).foldl (readyCandidate failed) ctrl
  let (r, ctrl) := ctrl.triggerFailover (host.fresh 0) set failed reason 0 0
  return { code := exitCode r, text := outcomeText r ++ "\n", ctrl := ctrl, saves := true }

def factorText (json : Bool) (f : AuthorityFactor) : Str :=
  if json then
    "\x7b\"name\":" ++ quoted (jesc f.name) ++ ",\"ok\":" ++ (if f.satisfied then "1" else "0") ++
      ",\"detail\":" ++ quoted (jesc f.detail) ++ "\x7d"
  else
    "  " ++ f.name ++ ": " ++ (if f.satisfied then "OK" else "FAIL") ++ " :: " ++ f.detail ++ "\n"

def explainServable (json : Bool) (args : List Str) (ctrl : ReplicaSetController) :
    Except Abort Done := do
  let rid : ReplicaId ← pid args 1
  let d := ctrl.servable rid
  let factors := d.factors.map (factorText json)
  let text := opening json ++ out json "replica" rid.str ++
    out json "eligible" (if d.eligible then "1" else "0") ++ out json "rejection" d.rejection ++
    (if json then "\"factors\":[" ++ List.flatten (factors.intersperse (ascii ",")) ++ "]\x7d\n"
      else factors.flatten)
  return { code := 0, text := text, ctrl := ctrl }

def placementHost (worker : WorkerId) (reg : WorkerRegistration) : PlacementHost where
  workerId := worker
  bootId := reg.bootId
  nodeId := reg.nodeId
  host := "host-" ++ worker.str.take 8
  numa := "numa-0"
  device := reg.inventory.devices.headD {}
  inventory := reg.inventory
  failureDomainLabels := ["rack-" ++ [0x41 + (worker.hi % 2).toUInt8]]

def candidateText (scores : Scores) (json : Bool) (c : PlacementCandidate scores.R) : Str :=
  if json then
    "\x7b\"worker\":" ++ quoted (jesc c.host.workerId.str) ++ ",\"eligible\":" ++
      (if c.eligible then "1" else "0") ++ ",\"score\":" ++ scores.text c.total ++
      ",\"rejection\":" ++ quoted (jesc c.rejection) ++ "\x7d"
  else
    "  " ++ c.host.workerId.str ++ " score=" ++ scores.text c.total ++
      (if c.eligible then ascii " (eligible)" else " rejected: " ++ c.rejection) ++ "\n"

def explainPlacement (scores : Scores) (json : Bool) (args : List Str)
    (ctrl : ReplicaSetController) : Except Abort Done := do
  let id : ReplicaSetId ← pid args 1
  match ctrl.findSet id with
  | none => return { code := 1, text := "unknown set\n", ctrl := ctrl }
  | some set =>
      let hosts := ctrl.workers.toList.map fun e => placementHost e.1 e.2
      let d : PlacementDecision scores.R := PlacementEngine.place set hosts []
      let text := opening json ++ out json "placed" (if d.placed then "1" else "0") ++
        out json "note" d.note
      if !d.placed then return { code := 1, text := text ++ closing json, ctrl := ctrl }
      let candidates := d.candidates.map (candidateText scores json)
      let text := text ++ out json "chosen_worker" d.chosen.workerId.str ++
        out json "chosen_host" d.chosen.host ++
        (if json then
          "\"candidates\":[" ++ List.flatten (candidates.intersperse (ascii ",")) ++ "]\x7d\n"
        else candidates.flatten)
      return { code := 0, text := text, ctrl := ctrl }

def demo (host : Host) (ctrl : ReplicaSetController) : Done :=
  let set := setupSet host 2
  let ra : ReplicaId := host.id (replicaDraws 0)
  let rb : ReplicaId := host.id (replicaDraws 1)
  let a := setupWorker host (replicaDraws 0 + 1)
  let b := setupWorker host (replicaDraws 1 + 1)
  let ctrl := setupReplicas host [0, 1] (ctrl.createReplicaSet set (host.id 2)).2
  let ctrl := (warmReady ctrl ra a.workerId a.bootId).2
  let ctrl := (warmReady ctrl rb b.workerId b.bootId).2
  let ctrl := (ctrl.promoteReplica (host.fresh 0) ra .primary a.workerId a.bootId 0 0).2
  let ctrl := (ctrl.promoteReplica (host.fresh 1) rb .standby b.workerId b.bootId 0 0).2
  let first : Str :=
    if (ctrl.servable ra).eligible then "A serving as PRIMARY\n" else "A NOT serving\n"
  let second : Str :=
    if (ctrl.servable rb).eligible then "B serving (BAD - double serve)\n"
    else "B standby (correct, not serving)\n"
  let ctrl := (ctrl.unregisterWorker a.workerId).2
  let ctrl := (ctrl.triggerFailover (host.fresh 2) set.id ra "demo: worker A died" 0 0).2
  let third : Str :=
    if (ctrl.servable rb).eligible then "B failed over and serving as PRIMARY\n"
    else "B failover FAILED\n"
  let size := ascii (toString (makeSnapshot ctrl).length)
  { code := 0, text := first ++ second ++ third ++ "snapshot bytes=" ++ size ++ "\n", ctrl := ctrl }

end Cli

end ReplicaFabric
