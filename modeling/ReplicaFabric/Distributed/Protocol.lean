import ReplicaFabric.Core.Identity

namespace ReplicaFabric

open ByteCodec

/-- The kinds of the protocol, and the bytes that name no kind: the enumeration is over
`std::uint8_t`, so `decode_message` passes these on as well. -/
inductive MessageKind
  | hello | register | registerAck | createSet | createSetAck | provision | provisionAck | warm
  | warmDone | health | readiness | promote | promoteAck | drain | drainAck | failover
  | failoverAck | execute | executeResult | snapshot | msgError | ping | pong | query
  | other (byte : UInt8) (unnamed : byte = 0 ∨ 24 < byte)
  deriving DecidableEq, Repr

def MessageKind.byte : MessageKind → UInt8
  | hello => 1
  | register => 2
  | registerAck => 3
  | createSet => 4
  | createSetAck => 5
  | provision => 6
  | provisionAck => 7
  | warm => 8
  | warmDone => 9
  | health => 10
  | readiness => 11
  | promote => 12
  | promoteAck => 13
  | drain => 14
  | drainAck => 15
  | failover => 16
  | failoverAck => 17
  | execute => 18
  | executeResult => 19
  | snapshot => 20
  | msgError => 21
  | ping => 22
  | pong => 23
  | query => 24
  | other byte _ => byte

structure Message where
  kind : MessageKind := .hello
  seq : UInt64 := 0
  epoch : CoordinatorEpoch := .null
  worker : WorkerId := .null
  boot : WorkerBootId := .null
  replica : ReplicaId := .null
  set : ReplicaSetId := .null
  attempt : AttemptId := .null
  payload : Str := []
  deriving DecidableEq, Repr

def encodeMessage (m : Message) : Str :=
  [[m.kind.byte], leSplit 8 m.seq.toNat, m.epoch.toBytes, m.worker.toBytes, m.boot.toBytes,
    m.replica.toBytes, m.set.toBytes, m.attempt.toBytes, leSplit 4 m.payload.length,
    m.payload].flatten

def setPayload (s key value : Str) : Str := s ++ key ++ [0x3D] ++ value ++ [0x0A]

/-- `get_payload`: the rest of the first line that starts with the key and an equals sign. -/
def getPayload (s key fallback : Str) : Str :=
  let needle := key ++ [0x3D]
  match (s.splitOn 0x0A).find? fun line => needle.isPrefixOf line with
  | none => fallback
  | some line => line.drop needle.length

def kMaxFrame : Nat := 16 * 1024 * 1024

end ReplicaFabric
