import ReplicaFabric.Core.Enums

namespace ReplicaFabric

def ReplicaSetLifecycle.canTransition (source target : ReplicaSetLifecycle) : Bool :=
  match source with
  | .created => target = .provisioning
  | .provisioning =>
      target = .available || target = .degraded || target = .failed || target = .retired
  | .available => target = .degraded || target = .draining || target = .retired
  | .degraded =>
      target = .available || target = .draining || target = .retired || target = .failed
  | .draining => target = .retired || target = .available
  | .retired => false
  | .failed => target = .retired

def ReplicaLifecycle.canTransition (source target : ReplicaLifecycle) : Bool :=
  match source with
  | .declared =>
      target = .allocating || target = .starting || target = .failed || target = .retired
  | .allocating => target = .starting || target = .failed || target = .retired
  | .starting => target = .warming || target = .ready || target = .failed || target = .retired
  | .warming => target = .ready || target = .starting || target = .failed || target = .retired
  | .ready =>
      target = .serving || target = .warming || target = .draining || target = .failed ||
        target = .retired
  | .serving => target = .ready || target = .draining || target = .failed || target = .retired
  | .draining => target = .quiesced || target = .ready || target = .failed || target = .retired
  | .quiesced => target = .retired || target = .ready
  | .failed => target = .retired
  | .retired => false

/-- The lifecycles no operation brings a replica back from, although the table has edges from
`DRAINING` and `QUIESCED` to `READY`. -/
def ReplicaLifecycle.Terminal : ReplicaLifecycle → Prop
  | .draining | .quiesced | .failed | .retired => True
  | _ => False

instance (l : ReplicaLifecycle) : Decidable l.Terminal := by
  cases l <;> simp only [ReplicaLifecycle.Terminal] <;> infer_instance

end ReplicaFabric
