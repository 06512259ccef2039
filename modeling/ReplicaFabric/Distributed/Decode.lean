import ReplicaFabric.Distributed.Protocol
import ReplicaFabric.Library.Walk

/-!
# The decoder of protocol messages

`decode_message` goes over its vector by index. It checks the length before the kind, the sequence
number, the length of the payload and the payload, and not before the six identities in between.
-/

namespace ReplicaFabric

open ByteCodec

namespace MessageKind

def named : List MessageKind :=
  [hello, register, registerAck, createSet, createSetAck, provision, provisionAck, warm, warmDone,
    health, readiness, promote, promoteAck, drain, drainAck, failover, failoverAck, execute,
    executeResult, snapshot, msgError, ping, pong, query]

/-- `static_cast<MessageKind>` -/
def ofByte (byte : UInt8) : MessageKind :=
  if unnamed : byte = 0 ∨ 24 < byte then other byte unnamed
  else named.getD (byte.toNat - 1) hello

@[simp] theorem ofByte_byte (kind : MessageKind) : ofByte kind.byte = kind := by
  cases kind with
  | other byte unnamed => exact dif_pos unnamed
  | _ => rfl

@[simp] theorem byte_ofByte (byte : UInt8) : (ofByte byte).byte = byte := by
  unfold ofByte
  split
  · rfl
  · next unnamed =>
    have table : ∀ n < 25, n ≠ 0 → (named.getD (n - 1) hello).byte = UInt8.ofNat n := by decide
    rw [not_or] at unnamed
    have positive : byte.toNat ≠ 0 := fun zero => unnamed.1 (UInt8.toNat_inj.mp zero)
    have bounded : byte.toNat ≤ (24 : UInt8).toNat := UInt8.not_lt.mp unnamed.2
    rw [table byte.toNat (by change byte.toNat ≤ 24 at bounded; omega) positive,
      UInt8.ofNat_toNat]

end MessageKind

namespace Decoder

def u8 : Walk Unit UInt8 := do
  let b ← Walk.word 1 ()
  return b.headD 0

def u64 : Walk Unit UInt64 := do
  let b ← Walk.word 8 ()
  return UInt64.ofNat (leJoin b)

/-- `read_id`, which takes a pointer and no length. -/
def id {tag : IdTag} : Walk Unit (Id tag) := do
  let b ← Walk.grab 16
  return .fromBytes b

def header : Walk Unit Message := do
  let kind ← u8
  let seq ← u64
  let epoch ← id
  let worker ← id
  let boot ← id
  let replica ← id
  let set ← id
  let attempt ← id
  return { kind := .ofByte kind, seq, epoch, worker, boot, replica, set, attempt }

def payload : Walk Unit Str := do
  let plen ← Walk.word 4 ()
  Walk.word (UInt32.ofNat (leJoin plen)).toNat ()

end Decoder

/-- What `out` holds after a failure is left out: the callers drop it. -/
def decodeMessage : Walk Unit Message := do
  let m ← Decoder.header
  let payload ← Decoder.payload
  let consumed ← Walk.finished
  if consumed then return { m with payload := payload } else Walk.fail ()

namespace ByteVector

def decode (v : ByteVector) (beyond : Nat → UInt8) : Except Unit Message × List Walk.Event :=
  let (result, s) := decodeMessage (.whole v.bytes beyond) {}
  (result, s.log)

end ByteVector

def headerOf (piece : Nat → Nat → Str) : Message where
  kind := .ofByte ((piece 0 1).headD 0)
  seq := UInt64.ofNat (leJoin (piece 1 8))
  epoch := .fromBytes (piece 9 16)
  worker := .fromBytes (piece 25 16)
  boot := .fromBytes (piece 41 16)
  replica := .fromBytes (piece 57 16)
  set := .fromBytes (piece 73 16)
  attempt := .fromBytes (piece 89 16)

theorem headerOf_congr {f g : Nat → Nat → Str} (same : ∀ pos k, pos + k ≤ 105 → f pos k = g pos k) :
    headerOf f = headerOf g := by
  simp only [headerOf, same 0 1, same 1 8, same 9 16, same 25 16, same 41 16, same 57 16,
    same 73 16, same 89 16, Nat.reduceAdd, Nat.reduceLeDiff]

def headerEnd (win : Walk.Window) : Walk.State :=
  [1, 8, 16, 16, 16, 16, 16, 16].foldl (·.past win ·) {}

@[simp] theorem headerEnd_pos (win : Walk.Window) : (headerEnd win).pos = 105 := rfl

theorem read_mem_headerEnd {win : Walk.Window} {i : Nat} :
    .read i ∈ (headerEnd win).log ↔ win.base ≤ i ∧ i < win.base + 105 := by
  simp only [headerEnd, List.foldl_cons, List.foldl_nil, Walk.State.mem_past, Walk.State.past_pos,
    List.not_mem_nil, false_or]
  omega

namespace Decoder

open Walk

variable {win : Window} {s : State}

theorem u8_run (enough : s.pos + 1 ≤ win.len) (small : s.pos + 1 < 2 ^ 64) :
    u8 win s = (.ok ((win.piece s.pos 1).headD 0), s.past win 1) := by
  rw [u8, bind_of_ok (word_eq small enough)]
  rfl

theorem u64_run (enough : s.pos + 8 ≤ win.len) (small : s.pos + 8 < 2 ^ 64) :
    u64 win s = (.ok (UInt64.ofNat (leJoin (win.piece s.pos 8))), s.past win 8) := by
  rw [u64, bind_of_ok (word_eq small enough)]
  rfl

theorem id_run {tag : IdTag} (small : s.pos + 16 < 2 ^ 64) :
    (id : Walk Unit (Id tag)) win s = (.ok (.fromBytes (win.piece s.pos 16)), s.past win 16) := by
  rw [id, bind_of_ok (grab_eq small)]
  rfl

theorem header_run (long : 9 ≤ win.len) :
    header win {} = (.ok (headerOf win.piece), headerEnd win) := by
  have one : 0 + 1 ≤ win.len := by omega
  rw [header, bind_of_ok (u8_run one (by simp)), bind_of_ok (u64_run long (by simp)),
    bind_of_ok (id_run (by simp)), bind_of_ok (id_run (by simp)), bind_of_ok (id_run (by simp)),
    bind_of_ok (id_run (by simp)), bind_of_ok (id_run (by simp)), bind_of_ok (id_run (by simp)),
    pure_run]
  rfl

theorem header_short (short : win.len < 9) :
    ∃ s, header win {} = (.error (), s) ∧
      ∀ i, .read i ∈ s.log → i < win.base + win.len := by
  by_cases one : 0 + 1 ≤ win.len
  · have fails : u64 win (({} : State).past win 1) = (.error (), _) :=
      bind_of_error (word_short (by simp) short) _
    refine ⟨({} : State).past win 1, ?_, fun i read => ?_⟩
    · rw [header, bind_of_ok (u8_run one (by simp)), bind_of_error fails]
    · obtain ⟨-, below⟩ := (State.mem_past.mp read).resolve_left List.not_mem_nil
      dsimp only at below
      omega
  · have fails : u8 win {} = (.error (), _) :=
      bind_of_error (word_short (by simp) (not_le.mp one)) _
    exact ⟨_, bind_of_error fails _, fun i read => absurd read List.not_mem_nil⟩

def payloadReader : ByteCodec.Reader Unit Str := do
  let plen ← take 4 ()
  take (UInt32.ofNat (leJoin plen)).toNat ()

theorem payload_refines : Refines 4 payload payloadReader := by
  refine (Refines.word () (by decide)).bind fun plen => (Refines.word () ?_).mono (Nat.zero_le _)
  have bound := (UInt32.ofNat (leJoin plen)).toNat_lt
  omega

theorem payload_short (short : win.len < s.pos + 4) (small : s.pos + 4 < 2 ^ 64) :
    payload win s = (.error (), s) := by
  rw [payload, bind_of_error (word_short small short)]

end Decoder

def announced (bytes : Str) : Nat := leJoin ((bytes.drop 105).take 4)

theorem payloadReader_run {bytes : Str} (long : 109 ≤ bytes.length) :
    Decoder.payloadReader (bytes.drop 105) =
      if bytes.length - 109 < announced bytes then .error ()
      else .ok ((bytes.drop 109).take (announced bytes), (bytes.drop 109).drop (announced bytes)) := by
  have four : ¬(bytes.drop 105).length < 4 := by
    rw [List.length_drop]
    omega
  have small : announced bytes < 2 ^ 32 := by
    have bound := leJoin_lt ((bytes.drop 105).take 4)
    have length : ((bytes.drop 105).take 4).length = 4 := by simp; omega
    rwa [length] at bound
  have run : Decoder.payloadReader (bytes.drop 105) =
      take (UInt32.ofNat (announced bytes)).toNat () ((bytes.drop 105).drop 4) := by
    change (take 4 () (bytes.drop 105) >>= fun p =>
      take (UInt32.ofNat (leJoin p.1)).toNat () p.2) = _
    rw [take, if_neg four]
    rfl
  rw [run, UInt32.toNat_ofNat_of_lt' small, List.drop_drop, take, List.length_drop]

namespace ByteVector

open Walk

variable {v : ByteVector} {beyond : Nat → UInt8}

theorem decode_run (long : 109 ≤ v.bytes.length) :
    (v.decode beyond).1 =
      if announced v.bytes = v.bytes.length - 109 then
        .ok { headerOf (fun pos k => (v.bytes.drop pos).take k) with payload := v.bytes.drop 109 }
      else .error () := by
  let win : Window := .whole v.bytes beyond
  have pieces : headerOf win.piece = headerOf fun pos k => (v.bytes.drop pos).take k :=
    headerOf_congr fun pos k inside => by
      rw [win.piece_eq (show 0 + pos + k ≤ v.bytes.length by omega)]
      exact congrArg (fun start => (v.bytes.drop start).take k) (Nat.zero_add pos)
  have header : Decoder.header win {} = _ :=
    Decoder.header_run (show 9 ≤ v.bytes.length by omega)
  have agrees := Decoder.payload_refines win (headerEnd win) (Window.whole_sound v.fits beyond)
    (show 105 ≤ v.bytes.length by omega)
  have rest (pos : Nat) : (Window.whole v.bytes beyond).rest pos = v.bytes.drop pos := by
    change (v.bytes.drop (0 + pos)).take (v.bytes.length - pos) = _
    rw [Nat.zero_add, List.take_of_length_le (by simp)]
  unfold decode decodeMessage
  rw [bind_of_ok header, pieces, bind_run]
  generalize Decoder.payload win (headerEnd win) = walked at agrees ⊢
  obtain ⟨result, s'⟩ := walked
  cases result with
  | error e =>
      obtain ⟨failed, -⟩ := agrees
      rw [rest, headerEnd_pos, payloadReader_run long] at failed
      split at failed
      · next short => rw [if_neg (by omega)]
      · cases failed
  | ok x =>
      obtain ⟨read, inside, -⟩ := agrees
      rw [rest, rest, headerEnd_pos, payloadReader_run long] at read
      split at read
      · cases read
      · next enough =>
        obtain ⟨rfl, left⟩ := Prod.mk.inj (Except.ok.inj read)
        have lengths := congrArg List.length left
        rw [List.length_drop, List.length_drop, List.length_drop] at lengths
        change s'.pos ≤ v.bytes.length at inside
        have ending : (finished : Walk Unit Bool) win s' = (.ok (s'.pos == v.bytes.length), s') :=
          rfl
        dsimp only
        rw [bind_of_ok ending, ite_run]
        by_cases whole : announced v.bytes = v.bytes.length - 109
        · have everything : (v.bytes.drop 109).take (announced v.bytes) = v.bytes.drop 109 :=
            List.take_of_length_le (by rw [List.length_drop]; omega)
          rw [if_pos (beq_iff_eq.mpr (by omega)), if_pos whole, everything]
          rfl
        · rw [if_neg (fun consumed => whole (by have := beq_iff_eq.mp consumed; omega)),
            if_neg whole]
          rfl

theorem decode_short (short : v.bytes.length < 109) : (v.decode beyond).1 = .error () := by
  let win : Window := .whole v.bytes beyond
  unfold decode decodeMessage
  by_cases nine : win.len < 9
  · obtain ⟨s, failed, -⟩ := Decoder.header_short nine
    rw [bind_of_error failed]
  · have header : Decoder.header win {} = _ := Decoder.header_run (not_lt.mp nine)
    have payload : Decoder.payload win (headerEnd win) = _ :=
      Decoder.payload_short short (show 105 + 4 < 2 ^ 64 by decide)
    rw [bind_of_ok header, bind_of_error payload]

theorem decode_ok {m : Message} :
    (v.decode beyond).1 = .ok m ↔
      109 ≤ v.bytes.length ∧ announced v.bytes = v.bytes.length - 109 ∧
        m = { headerOf (fun pos k => (v.bytes.drop pos).take k) with
          payload := v.bytes.drop 109 } := by
  by_cases short : v.bytes.length < 109
  · simp [decode_short short, short]
  · have long : 109 ≤ v.bytes.length := by omega
    rw [decode_run long]
    split
    · next whole => simp [long, whole, eq_comm]
    · next partly => simp [partly]

end ByteVector

end ReplicaFabric
