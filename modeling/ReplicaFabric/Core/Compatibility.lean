import ReplicaFabric.Core.Capability
import ReplicaFabric.Core.Identity

namespace ReplicaFabric

structure CompatibilityRequirements where
  modelId : ModelId := .null
  modelRevision : Str := []
  tokenizerVocab : Str := []
  requiredAdapters : List Str := []
  backend : BackendKind := .none
  runtimeName : Str := []
  architecture : Str := []
  minCompute : ComputeCapability := {}
  numericMode : NumericMode := .unknown
  artifactGeneration : ArtifactGeneration := .null
  kernelAbi : Str := []
  policyFingerprint : Str := []
  deriving DecidableEq, Repr

structure ReplicaCompatibility where
  modelId : ModelId := .null
  modelRevision : Str := []
  tokenizerVocab : Str := []
  adapters : List Str := []
  backend : BackendKind := .none
  runtimeName : Str := []
  architecture : Str := []
  compute : ComputeCapability := {}
  numericMode : NumericMode := .unknown
  artifactGeneration : ArtifactGeneration := .null
  kernelAbi : Str := []
  policyFingerprint : Str := []
  deriving DecidableEq, Repr

inductive CompatibilityIssue
  | none | modelMismatch | revisionMismatch | tokenizerMismatch | adapterMissing
  | backendMismatch | runtimeMismatch | architectureMismatch | computeTooLow | numericMismatch
  | artifactGenerationMismatch | kernelAbiMismatch | policyFingerprintMismatch
  deriving DecidableEq, Repr

def compatibilityIssueStr : CompatibilityIssue → Str
  | .none => "NONE"
  | .modelMismatch => "MODEL_MISMATCH"
  | .revisionMismatch => "REVISION_MISMATCH"
  | .tokenizerMismatch => "TOKENIZER_MISMATCH"
  | .adapterMissing => "ADAPTER_MISSING"
  | .backendMismatch => "BACKEND_MISMATCH"
  | .runtimeMismatch => "RUNTIME_MISMATCH"
  | .architectureMismatch => "ARCHITECTURE_MISMATCH"
  | .computeTooLow => "COMPUTE_TOO_LOW"
  | .numericMismatch => "NUMERIC_MISMATCH"
  | .artifactGenerationMismatch => "ARTIFACT_GENERATION_MISMATCH"
  | .kernelAbiMismatch => "KERNEL_ABI_MISMATCH"
  | .policyFingerprintMismatch => "POLICY_FINGERPRINT_MISMATCH"

structure CompatibilityResult where
  compatible : Bool := true
  issues : List CompatibilityIssue := []
  deriving DecidableEq, Repr

def CompatibilityResult.clause (res : CompatibilityResult) (holds : Bool)
    (issue : CompatibilityIssue) : CompatibilityResult :=
  if holds then res else { compatible := false, issues := res.issues ++ [issue] }

def checkCompatibility (req : CompatibilityRequirements) (got : ReplicaCompatibility) :
    CompatibilityResult :=
  let res : CompatibilityResult := {}
  let res := res.clause (got.modelId = req.modelId) .modelMismatch
  let res := res.clause (got.modelRevision = req.modelRevision) .revisionMismatch
  let res := res.clause (got.tokenizerVocab = req.tokenizerVocab) .tokenizerMismatch
  let res := req.requiredAdapters.foldl
    (fun res a => res.clause (got.adapters.any fun g => g = a) .adapterMissing) res
  let res := res.clause (got.backend = req.backend) .backendMismatch
  let res := res.clause (got.runtimeName = req.runtimeName) .runtimeMismatch
  let res := res.clause (got.architecture = req.architecture) .architectureMismatch
  let res := res.clause (!got.compute.below req.minCompute) .computeTooLow
  let res := res.clause (got.numericMode = req.numericMode) .numericMismatch
  let res := res.clause (got.artifactGeneration = req.artifactGeneration)
    .artifactGenerationMismatch
  let res := res.clause (got.kernelAbi = req.kernelAbi) .kernelAbiMismatch
  res.clause (got.policyFingerprint = req.policyFingerprint) .policyFingerprintMismatch

end ReplicaFabric
