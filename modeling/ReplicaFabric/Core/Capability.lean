import ReplicaFabric.Core.Enums

namespace ReplicaFabric

structure ComputeCapability where
  major : Int32 := 0
  minor : Int32 := 0
  deriving DecidableEq, Repr

/-- `operator<` -/
def ComputeCapability.below (a b : ComputeCapability) : Bool :=
  if a.major ≠ b.major then a.major < b.major else a.minor < b.minor

structure BackendCapability where
  kind : BackendKind := .none
  name : Str := []
  compute : ComputeCapability := {}
  numeric : NumericMode := .unknown
  deriving DecidableEq, Repr

structure DeviceCapability where
  kind : AcceleratorKind := .none
  deviceId : Str := []
  compute : ComputeCapability := {}
  memoryBytes : UInt64 := 0
  deriving DecidableEq, Repr

structure ResourceInventory where
  totalMemoryBytes : UInt64 := 0
  freeMemoryBytes : UInt64 := 0
  acceleratorCount : Int32 := 0
  devices : List DeviceCapability := []
  backends : List BackendCapability := []
  deriving DecidableEq, Repr

end ReplicaFabric
