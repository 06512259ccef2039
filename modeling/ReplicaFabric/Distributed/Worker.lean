import Mathlib.Data.Nat.Choose.Basic
import ReplicaFabric.Core.IdentityText
import ReplicaFabric.Core.Numerals
import ReplicaFabric.Distributed.Fields
import ReplicaFabric.Distributed.Payload

/-!
# The worker process

The process registers, waits for the acknowledgement and then answers one message after the other.
All that it ever writes goes under the ids that it was started with.
-/

namespace ReplicaFabric

structure WorkerArgs where
  port : UInt16 := 0
  worker : WorkerId := .null
  boot : WorkerBootId := .null
  node : NodeId := .null

/-- The loop over `argv`: a flag without a value, and what is no flag, is skipped. -/
def WorkerArgs.parse : List Str → WorkerArgs → Except Exception WorkerArgs
  | flag :: value :: rest, args =>
      if flag = "--port" then do
        let port ← stoul 10 value
        parse rest { args with port := port.toUInt16 }
      else if flag = "--worker" then do
        let worker ← Id.fromString value
        parse rest { args with worker := worker }
      else if flag = "--boot" then do
        let boot ← Id.fromString value
        parse rest { args with boot := boot }
      else if flag = "--node" then do
        let node ← Id.fromString value
        parse rest { args with node := node }
      else parse (value :: rest) args
  | _, args => .ok args

inductive WorkerStage
  | registering
  | serving
  | exited (code : Nat)
  /-- Nothing catches an exception of the parsers. -/
  | aborted
  deriving DecidableEq, Repr

structure WorkerProcess where
  worker : WorkerId
  boot : WorkerBootId
  stage : WorkerStage
  deriving DecidableEq, Repr

namespace WorkerProcess

def registration (worker : WorkerId) (boot : WorkerBootId) (node : NodeId) : Message where
  kind := .register
  worker := worker
  boot := boot
  payload := "node_hex=" ++ node.str ++
    "\nbackend=" ++ ascii (toString (EnumTable.ordinal BackendKind.triton)) ++
    "\nmem=0x800000000\ndevice=cuda:0\nccmaj=c\ndevmem=0x800000000"

def about (worker : WorkerId) (boot : WorkerBootId) (m : Message) (kind : MessageKind)
    (payload : Str) : Message where
  kind := kind
  epoch := m.epoch
  worker := worker
  boot := boot
  replica := m.replica
  set := m.set
  payload := payload

def work (rounds : Nat) : UInt64 :=
  (List.range rounds).foldl (fun acc i => acc + UInt64.ofNat (i * 3)) 0

def resultPayload (req : Str) : Str :=
  "req=" ++ req ++ "\noutcome=1\nresult=" ++ ascii (toString (work 100000).toNat)

def result (worker : WorkerId) (boot : WorkerBootId) (m : Message) : Message :=
  { about worker boot m .executeResult (resultPayload (getPayload m.payload "req" "?")) with
    attempt := m.attempt }

def start (argv : List Str) : List Message × WorkerProcess :=
  match WorkerArgs.parse argv {} with
  | .error _ => ([], ⟨.null, .null, .aborted⟩)
  | .ok args =>
      if args.port = 0 ∨ args.worker.isNull then ([], ⟨args.worker, args.boot, .exited 2⟩)
      else
        ([registration args.worker args.boot args.node], ⟨args.worker, args.boot, .registering⟩)

def answer (p : WorkerProcess) (m : Message) : List Message :=
  match m.kind with
  | .warm =>
      [about p.worker p.boot m .warmDone "steps=4",
        about p.worker p.boot m .health "state=2\nsource=worker",
        about p.worker p.boot m .readiness "mask=0x7ff"]
  | .execute => [result p.worker p.boot m]
  | .ping => [{ kind := .pong }]
  | _ => []

def hear (p : WorkerProcess) (m : Message) : List Message × WorkerProcess :=
  match p.stage with
  | .registering =>
      if m.kind ≠ .registerAck ∨ ¬(ascii "ok").isPrefixOf m.payload then
        ([], { p with stage := .exited 5 })
      else ([], { p with stage := .serving })
  | .serving => (p.answer m, p)
  | _ => ([], p)

def hears (p : WorkerProcess) : Bool :=
  match p.stage with
  | .registering | .serving => true
  | _ => false

/-- `read_frame` fails. -/
def cut (p : WorkerProcess) : WorkerProcess :=
  match p.stage with
  | .registering => { p with stage := .exited 4 }
  | .serving => { p with stage := .exited 0 }
  | _ => p

inductive Writes (worker : WorkerId) (boot : WorkerBootId) : Message → Prop
  | registers (node : NodeId) : Writes worker boot (registration worker boot node)
  | warmDone (m : Message) : Writes worker boot (about worker boot m .warmDone "steps=4")
  | health (m : Message) :
      Writes worker boot (about worker boot m .health "state=2\nsource=worker")
  | readiness (m : Message) : Writes worker boot (about worker boot m .readiness "mask=0x7ff")
  | result (m : Message) : Writes worker boot (result worker boot m)
  | pong : Writes worker boot { kind := .pong }

variable {p : WorkerProcess} {m : Message} {worker : WorkerId} {boot : WorkerBootId}

theorem start_writes (argv : List Str) : ∀ m ∈ (start argv).1,
    Writes (start argv).2.worker (start argv).2.boot m := by
  unfold start
  split
  · simp
  · split_ifs
    · simp
    · intro m member
      obtain rfl := List.mem_singleton.mp member
      exact .registers _

theorem answer_writes : ∀ m' ∈ p.answer m, Writes p.worker p.boot m' ∧ m'.kind ≠ .register := by
  unfold answer
  split
  · simp only [List.forall_mem_cons]
    exact ⟨⟨.warmDone m, nofun⟩, ⟨.health m, nofun⟩, ⟨.readiness m, nofun⟩, nofun⟩
  · simp only [List.forall_mem_cons]
    exact ⟨⟨.result m, nofun⟩, nofun⟩
  · simp only [List.forall_mem_cons]
    exact ⟨⟨.pong, nofun⟩, nofun⟩
  · nofun

@[simp] theorem hear_ids : (p.hear m).2.worker = p.worker ∧ (p.hear m).2.boot = p.boot := by
  unfold hear
  split
  · split_ifs <;> exact ⟨rfl, rfl⟩
  · exact ⟨rfl, rfl⟩
  · exact ⟨rfl, rfl⟩

@[simp] theorem cut_ids : p.cut.worker = p.worker ∧ p.cut.boot = p.boot := by
  unfold cut
  split <;> exact ⟨rfl, rfl⟩

theorem hear_writes : (p.hear m).1 = [] ∨
    p.stage = .serving ∧ (p.hear m).2 = p ∧ (p.hear m).1 = p.answer m := by
  cases stage : p.stage with
  | registering =>
      left
      simp only [hear, stage]
      split_ifs <;> rfl
  | serving => exact .inr ⟨rfl, by simp [hear, stage], by simp [hear, stage]⟩
  | _ => exact .inl (by simp [hear, stage])

theorem Writes.host (writes : Writes worker boot m) :
    m.kind = .pong ∨ m.worker = worker ∧ m.boot = boot := by
  cases writes with
  | pong => exact .inl rfl
  | _ => exact .inr ⟨rfl, rfl⟩

theorem work_eq (rounds : Nat) :
    work rounds = UInt64.ofNat (3 * (rounds * (rounds - 1) / 2)) := by
  induction rounds with
  | zero => rfl
  | succ n ih =>
      rw [work, List.range_succ, List.foldl_append, List.foldl_cons, List.foldl_nil, ← work, ih,
        Nat.triangle_succ, ← UInt64.ofNat_add]
      congr 1
      omega

theorem resultPayload_eq (req : Str) :
    resultPayload req = "req=" ++ req ++ "\noutcome=1\nresult=14999850000" := by
  have total : (UInt64.ofNat (3 * (100000 * (100000 - 1) / 2))).toNat = 14999850000 := rfl
  have shown : toString (14999850000 : Nat) = "14999850000" := rfl
  rw [resultPayload, work_eq, total, shown, List.append_assoc]
  rfl

theorem registration_payload (node : NodeId) :
    (registration worker boot node).payload = ("node_hex=" ++ node.str) ++
      0x0A :: ascii "backend=1\nmem=0x800000000\ndevice=cuda:0\nccmaj=c\ndevmem=0x800000000" := by
  simp only [registration, List.append_assoc]
  rfl

theorem getPayload_registration (node : NodeId) (key fallback : Str) :
    getPayload (registration worker boot node).payload key fallback =
      if key ++ [0x3D] <+: ascii "node_hex=" ++ node.str then
        (ascii "node_hex=" ++ node.str).drop (key ++ [0x3D]).length
      else
        getPayload "backend=1\nmem=0x800000000\ndevice=cuda:0\nccmaj=c\ndevmem=0x800000000" key
          fallback := by
  have unbroken : 0x0A ∉ ascii "node_hex=" ++ node.str := by
    rw [List.mem_append, not_or]
    refine ⟨by decide, fun newline => ?_⟩
    have digit := (Id.shows_str node).hex _ newline
    exact absurd digit (by decide)
  rw [registration_payload, getPayload_line unbroken]

theorem Writes.readable (writes : Writes worker boot m) :
    (m.kind = .register → Field.ofRegistration.all (·.readable m.payload) = true) ∧
      (Field.ofWorker m.kind).all (·.readable m.payload) = true := by
  cases writes with
  | registers node =>
      refine ⟨fun _ => ?_, rfl⟩
      have nodeId : getPayload (registration worker boot node).payload "node_hex" "" = node.str := by
        rw [getPayload_registration, if_pos ⟨node.str, rfl⟩]
        rfl
      have skip {c : UInt8} {key : Str} (different : c ≠ 0x6E) (fallback : Str) :
          getPayload (registration worker boot node).payload (c :: key) fallback = getPayload
            "backend=1\nmem=0x800000000\ndevice=cuda:0\nccmaj=c\ndevmem=0x800000000" (c :: key)
            fallback := by
        rw [getPayload_registration, if_neg]
        rintro ⟨rest, same⟩
        exact different (Option.some.inj (congrArg List.head? same))
      have parsed : Id.readable node.str = true := by
        rw [← @Id.fromString_isOk .node, Id.fromString_str]
        rfl
      simp only [Field.ofRegistration, List.all_cons, List.all_nil, Bool.and_true, Bool.and_eq_true]
      refine ⟨(congrArg Id.readable nodeId).trans parsed, ?_, ?_, ?_, ?_⟩
      · exact (congrArg (Numeral.readable 32 16) (skip (by decide) _)).trans (by decide)
      · exact (congrArg (Numeral.readable 64 16) (skip (by decide) _)).trans (by decide)
      · exact (congrArg (Numeral.readable 32 16) (skip (by decide) _)).trans (by decide)
      · exact (congrArg (Numeral.readable 64 16) (skip (by decide) _)).trans (by decide)
  | warmDone m =>
      have closed : (Field.ofWorker .warmDone).all (·.readable "steps=4") = true := by decide
      exact ⟨nofun, closed⟩
  | health m =>
      have closed : (Field.ofWorker .health).all (·.readable "state=2\nsource=worker") = true := by
        decide
      exact ⟨nofun, closed⟩
  | readiness m =>
      have closed : (Field.ofWorker .readiness).all (·.readable "mask=0x7ff") = true := by decide
      exact ⟨nofun, closed⟩
  | result m => exact ⟨nofun, rfl⟩
  | pong => exact ⟨nofun, rfl⟩

end WorkerProcess

end ReplicaFabric
