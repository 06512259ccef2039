import ReplicaFabric.Distributed.Protocol

/-!
# Framed transport

A frame is a length of four bytes, the most significant first, and the payload. `send` may take
any part of what it is offered and `recv` may return any part of what has arrived, so that both
sides loop.
-/

namespace ReplicaFabric

open ByteCodec

/-- A connection to write to: how many bytes each call of `send` takes of those it is offered,
unless it fails. -/
structure Outgoing where
  valid : Bool
  send : (call : Nat) → (offered : Nat) → Option Nat
  part : ∀ call offered r, send call offered = some r → 0 < offered → 0 < r ∧ r ≤ offered

/-- A connection to read from: how many bytes each call of `recv` returns of those that are still
to come. When there are none, the stream has been cut, and `recv` returns zero or an error. -/
structure Incoming where
  valid : Bool
  recv : (call : Nat) → (room : Nat) → (coming : Nat) → Nat
  part : ∀ call room coming, 0 < room → 0 < coming →
    0 < recv call room coming ∧ recv call room coming ≤ room ∧ recv call room coming ≤ coming

namespace Outgoing

structure State where
  calls : Nat := 0
  wire : Str := []

variable (out : Outgoing)

def maxChunk : Nat := 1 <<< 20

/-- The loop of `send_all`, from an offset on. The cast of `n - sent` to an `int` is exact below
the size of a frame. -/
def sendFrom (data : Str) (sent : Nat) (s : State) : Bool × State :=
  if _more : sent < data.length then
    let chunk := min (data.length - sent) maxChunk
    match _taken : out.send s.calls chunk with
    | none => (false, { s with calls := s.calls + 1 })
    | some r =>
        sendFrom data (sent + r) ⟨s.calls + 1, s.wire ++ (data.drop sent).take r⟩
  else (true, s)
termination_by data.length - sent
decreasing_by
  have := (out.part _ _ _ _taken (by change 0 < min _ (1 <<< 20); omega)).1
  omega

def sendAll (data : Str) (s : State) : Bool × State :=
  if !out.valid then (false, s) else out.sendFrom data 0 s

def writeFrame (payload : Str) (s : State) : Bool × State :=
  if payload.length > kMaxFrame then (false, s)
  else
    let (ok, s) := out.sendAll (beSplit 4 payload.length) s
    if !ok then (false, s)
    else if payload = [] then (true, s)
    else out.sendAll payload s

def writeFrames : List Str → State → Bool × State
  | [], s => (true, s)
  | payload :: payloads, s =>
      let (ok, s) := out.writeFrame payload s
      if ok then writeFrames payloads s else (false, s)

end Outgoing

namespace Incoming

structure State where
  calls : Nat := 0
  coming : Str := []

variable (inn : Incoming)

def recvFrom (n : Nat) (got : Str) (s : State) : Option Str × State :=
  if _more : got.length < n then
    if cut : s.coming = [] then (none, { s with calls := s.calls + 1 })
    else
      let r := inn.recv s.calls (n - got.length) s.coming.length
      recvFrom n (got ++ s.coming.take r) ⟨s.calls + 1, s.coming.drop r⟩
  else (some got, s)
termination_by n - got.length
decreasing_by
  have coming := List.length_pos_iff.mpr cut
  have part := inn.part s.calls (n - got.length) s.coming.length (by omega) coming
  rw [List.length_append, List.length_take]
  omega

def recvExact (n : Nat) (s : State) : Option Str × State :=
  if !inn.valid then (none, s) else inn.recvFrom n [] s

/-- What the vector holds after a failure is left out: the callers drop it. -/
def readFrame (s : State) : Option Str × State :=
  match inn.recvExact 4 s with
  | (none, s) => (none, s)
  | (some hdr, s) =>
      let len := beJoin hdr
      if len > kMaxFrame then (none, s)
      else if len > 0 then inn.recvExact len s
      else (some [], s)

variable {inn : Incoming} {n : Nat} {got b : Str} {s s' : State}

theorem recvFrom_some (received : inn.recvFrom n got s = (some b, s')) :
    n - got.length ≤ s.coming.length ∧ b = got ++ s.coming.take (n - got.length) ∧
      s'.coming = s.coming.drop (n - got.length) := by
  fun_induction recvFrom inn n got s with
  | case1 got s more cut => cases received
  | case2 got s more cut r ih =>
      have coming := List.length_pos_iff.mpr cut
      have part := inn.part s.calls (n - got.length) s.coming.length (by omega) coming
      obtain ⟨enough, rfl, rest⟩ := ih received
      have length : (s.coming.take r).length = r := by
        rw [List.length_take]
        omega
      rw [List.length_append, length] at enough rest ⊢
      rw [List.length_drop] at enough
      have split : n - got.length = r + (n - (got.length + r)) := by omega
      refine ⟨by omega, ?_, ?_⟩
      · rw [List.append_assoc, split, List.take_add]
      · rw [rest, List.drop_drop]
        congr 1
        omega
  | case3 got s done =>
      cases received
      have none : n - b.length = 0 := by omega
      simp [none]

theorem recvFrom_none (failed : (inn.recvFrom n got s).1 = none) :
    s.coming.length < n - got.length := by
  fun_induction recvFrom inn n got s with
  | case1 got s more cut =>
      rw [cut, List.length_nil]
      omega
  | case2 got s more cut r ih =>
      have coming := List.length_pos_iff.mpr cut
      have part := inn.part s.calls (n - got.length) s.coming.length (by omega) coming
      have short := ih failed
      rw [List.length_append, List.length_take, List.length_drop] at short
      omega
  | case3 got s done => cases failed

theorem recvExact_some (received : inn.recvExact n s = (some b, s')) :
    n ≤ s.coming.length ∧ b = s.coming.take n ∧ s'.coming = s.coming.drop n := by
  unfold recvExact at received
  split at received
  · cases received
  · exact recvFrom_some received

theorem recvExact_none (live : inn.valid = true) (failed : (inn.recvExact n s).1 = none) :
    s.coming.length < n := by
  unfold recvExact at failed
  rw [live] at failed
  exact recvFrom_none failed

theorem readFrame_shorter {payload : Str} (read : inn.readFrame s = (some payload, s')) :
    s'.coming.length < s.coming.length := by
  unfold readFrame at read
  cases header : inn.recvExact 4 s with
  | mk hdr mid =>
      rw [header] at read
      cases hdr with
      | none => cases read
      | some hdr =>
          obtain ⟨four, -, rest⟩ := recvExact_some header
          have shorter : mid.coming.length < s.coming.length := by
            rw [rest, List.length_drop]
            omega
          dsimp only at read
          split_ifs at read with big more
          · cases read
          · obtain ⟨-, -, rest⟩ := recvExact_some read
            rw [rest, List.length_drop]
            omega
          · cases read
            exact shorter

def readFrames (inn : Incoming) (s : State) : List Str :=
  match _read : inn.readFrame s with
  | (none, _) => []
  | (some payload, s) => payload :: readFrames inn s
termination_by s.coming.length
decreasing_by exact readFrame_shorter _read

end Incoming

def frame (payload : Str) : Str := beSplit 4 payload.length ++ payload

def stream (payloads : List Str) : Str := payloads.flatMap frame

end ReplicaFabric
