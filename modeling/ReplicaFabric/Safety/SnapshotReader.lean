import ReplicaFabric.Persistence.Indexed

/-!
# The snapshot reader stays inside its file

By index, with sums that wrap, the reader does what the reader over lists does; it reads inside the
file, and the file has the length that its header says.
-/

namespace ReplicaFabric

open ByteCodec Walk
open Indexed (bodyEnd)

theorem readHeader_ok {bytes rest : Str} {bodyLen : UInt64}
    (read : readHeader bytes = .ok (bodyLen, rest)) :
    24 ≤ bytes.length ∧ bodyLen = UInt64.ofNat (leJoin ((bytes.drop 16).take 8)) ∧
      rest = bytes.drop 24 := by
  unfold readHeader named Reader.bytes Reader.u32 Reader.u64 at read
  simp only [bind_ok, mapError_ok, take_ok, pure_ok] at read
  obtain ⟨_, _, ⟨-, -, rfl⟩, ver, _, ⟨_, _, ⟨-, -, rfl⟩, -, rfl⟩, schema, _,
    ⟨_, _, ⟨-, -, rfl⟩, -, rfl⟩, read⟩ := read
  split_ifs at read with version schemas
  · cases read
  · cases read
  · simp only [bind_ok, mapError_ok, take_ok, pure_ok, List.drop_drop, Nat.reduceAdd,
      List.length_drop] at read
    obtain ⟨_, _, ⟨enough, rfl, rfl⟩, rfl, rfl⟩ := read
    exact ⟨by omega, rfl, rfl⟩

def framed (bytes : Str) : Except Str UInt64 :=
  if bytes.length < 24 + 8 then .error "snapshot too short"
  else if bytes.take 8 ≠ magic then .error "bad magic"
  else
    match readHeader bytes with
    | .error e => .error e
    | .ok (bodyLen, _) =>
        if bodyEnd bodyLen > bytes.length ∨ bytes.length - bodyEnd bodyLen ≠ 8 then
          .error "body length mismatch or trailing garbage"
        else .ok bodyLen

def opened (bytes : Str) (bodyLen : UInt64) : Except Str RecoveredState :=
  if crc64 (bytes.take (bodyEnd bodyLen)) ≠
      UInt64.ofNat (leJoin ((bytes.drop (bodyEnd bodyLen)).take 8)) then
    .error "checksum corruption"
  else
    match readBody ((bytes.drop 24).take bodyLen.toNat) with
    | .error e => .error e
    | .ok (state, rest) => if rest ≠ [] then .error "trailing bytes in body" else .ok state

theorem decodeSnapshot_parts (bytes : Str) :
    decodeSnapshot bytes = (framed bytes).bind (opened bytes) := by
  have sum (bodyLen : UInt64) : (24 + bodyLen.toNat) % sizeLimit = bodyEnd bodyLen := rfl
  unfold decodeSnapshot framed
  simp only [sum]
  split
  · rfl
  split
  · rfl
  cases readHeader bytes with
  | error e => rfl
  | ok header =>
      dsimp only
      split
      · rfl
      · rfl

theorem framed_ok {bytes : Str} {bodyLen : UInt64} (ok : framed bytes = .ok bodyLen) :
    bodyLen.toNat + 32 = bytes.length ∧ readHeader bytes = .ok (bodyLen, bytes.drop 24) := by
  unfold framed at ok
  split_ifs at ok with short wrongMagic
  split at ok
  · cases ok
  rename_i stored rest headed
  split_ifs at ok with misaligned
  cases ok
  have bounded := bodyLen.toNat_lt
  rw [bodyEnd, wrap] at misaligned
  obtain ⟨-, -, rfl⟩ := readHeader_ok headed
  exact ⟨by omega, headed⟩

namespace Indexed

theorem framing_yields (v : ByteVector) (beyond : Nat → UInt8) :
    Yields (.whole v.bytes beyond) (Yields.spent v.bytes.length (readHeader v.bytes)) framing
      (framed v.bytes) := by
  have stored := Yields.within header.refines beyond (Nat.zero_add v.bytes.length).le v.fits
  rw [List.drop_zero, List.take_length] at stored
  rw [← Nat.zero_add (Yields.spent _ _)]
  refine Yields.length.bind ?_
  refine .ite (fun _ => (Yields.fail _).mono (Nat.zero_le _)) fun short => ?_
  have start : Yields (.whole v.bytes beyond) 0 (look 0 8 : Walk Str Bytes)
      (.ok (v.bytes.take 8)) := Yields.look (Nat.le_trans (by decide) (Nat.le_of_not_lt short))
  rw [← Nat.zero_add (Yields.spent _ _)]
  refine start.bind ?_
  refine .ite (fun _ => (Yields.fail _).mono (Nat.zero_le _)) fun _ => ?_
  cases read : readHeader v.bytes with
  | error e =>
      rw [read] at stored
      exact stored.bind_error _
  | ok header =>
      rw [read] at stored
      rw [← Nat.add_zero (Yields.spent _ _)]
      refine stored.bind ?_
      exact .ite (fun _ => .fail _) fun _ => .pure _

def readWhole : Reader RecoveredState := do
  let state ← readBody
  let consumed ← ended
  if consumed then return state else throw (ascii "trailing bytes in body")

theorem readWhole_run (bytes : Str) :
    (readWhole bytes).map Prod.fst =
      match readBody bytes with
      | .error e => .error e
      | .ok (state, rest) =>
          if rest ≠ [] then .error (ascii "trailing bytes in body") else .ok state := by
  have run : readWhole bytes = (readBody bytes >>= fun p => (ended >>= fun consumed =>
      if consumed then Pure.pure p.1 else throw (ascii "trailing bytes in body")) p.2) := rfl
  rw [run]
  rcases readBody bytes with e | ⟨state, rest⟩
  · rfl
  · cases rest with
    | nil => rfl
    | cons b rest => rfl

def whole : For 0 readWhole :=
  body.field fun _ => .field ⟨Walk.finished, .finished⟩ fun _ => .cond (.pure _) (.fail _)

theorem within_whole (len : Nat) :
    Walk.within 24 len (do
      let state ← body.walk
      let consumed ← Walk.finished
      if consumed then return state else Walk.fail "trailing bytes in body") =
      Walk.within 24 len whole.walk := rfl

theorem decodeSnapshot_yields (v : ByteVector) (beyond : Nat → UInt8) :
    Yields (.whole v.bytes beyond) v.bytes.length decodeSnapshot
      (ReplicaFabric.decodeSnapshot v.bytes) := by
  have framing := framing_yields v beyond
  rw [decodeSnapshot_parts]
  unfold decodeSnapshot
  cases parts : framed v.bytes with
  | error e =>
      rw [parts] at framing
      exact (framing.bind_error _).mono (Yields.spent_le _ _)
  | ok bodyLen =>
      obtain ⟨length, headed⟩ := framed_ok parts
      have spent : Yields.spent v.bytes.length (readHeader v.bytes) = 24 := by
        rw [headed, Yields.spent, List.length_drop]
        omega
      rw [parts, spent] at framing
      have small := v.fits
      have ending : bodyEnd bodyLen = 24 + bodyLen.toNat := wrap_of_small (by omega)
      have stored : Yields (.whole v.bytes beyond) 0 (look (bodyEnd bodyLen) 8 : Walk Str Bytes)
          (.ok ((v.bytes.drop (bodyEnd bodyLen)).take 8)) := Yields.look (by omega)
      have summed : Yields (.whole v.bytes beyond) 0 (look 0 (bodyEnd bodyLen) : Walk Str Bytes)
          (.ok (v.bytes.take (bodyEnd bodyLen))) := Yields.look (by omega)
      have read := (Yields.within whole.refines beyond
        (show 24 + bodyLen.toNat ≤ v.bytes.length by omega) (by omega)).mono (Yields.spent_le _ _)
      rw [readWhole_run] at read
      refine (framing.bind <| stored.bind <| summed.bind ?_).mono
        (show 24 + (0 + (0 + bodyLen.toNat)) ≤ v.bytes.length by omega)
      rw [within_whole]
      exact .ite (fun _ => (Yields.fail _).mono (Nat.zero_le _)) fun _ => read

end Indexed

theorem framed_of_decodeSnapshot {bytes : Str} {state : RecoveredState}
    (decoded : decodeSnapshot bytes = .ok state) : ∃ bodyLen, framed bytes = .ok bodyLen := by
  rw [decodeSnapshot_parts] at decoded
  cases parts : framed bytes with
  | error e =>
      rw [parts] at decoded
      cases decoded
  | ok bodyLen => exact ⟨bodyLen, rfl⟩

theorem eq_of_prefix {bytes more : Str} {bodyLen bodyLen' : UInt64}
    (shorter : framed bytes = .ok bodyLen) (longer : framed more = .ok bodyLen')
    (start : bytes <+: more) : bytes = more := by
  obtain ⟨length, headed⟩ := framed_ok shorter
  obtain ⟨length', headed'⟩ := framed_ok longer
  have stored := (readHeader_ok headed).2.1
  have stored' := (readHeader_ok headed').2.1
  obtain ⟨rest, rfl⟩ := start
  have same : ((bytes ++ rest).drop 16).take 8 = (bytes.drop 16).take 8 := by
    rw [List.drop_append_of_le_length (by omega), List.take_append_of_le_length]
    rw [List.length_drop]
    omega
  rw [same, ← stored] at stored'
  rw [stored', length] at length'
  exact (List.prefix_append bytes rest).eq_of_length length'

theorem snapshot_reader_in_bounds (v : ByteVector) (beyond : Nat → UInt8) :
    let n := v.bytes.length
    let run := Indexed.decodeSnapshot (.whole v.bytes beyond) {}
    (∀ bodyLen, (Indexed.framing (.whole v.bytes beyond) {}).1 = .ok bodyLen →
        bodyLen.toNat + 32 = n) ∧
      (∀ i, .read i ∈ run.2.log → i < n) ∧
      (∀ pos len, .moved pos len ∈ run.2.log → pos ≤ len) ∧
      run.2.log.count .turn ≤ n ∧
      run.1 = decodeSnapshot v.bytes ∧
      ∀ (w : ByteVector) (beyond' : Nat → UInt8) (state state' : RecoveredState),
        run.1 = .ok state → (Indexed.decodeSnapshot (.whole w.bytes beyond') {}).1 = .ok state' →
          v.bytes <+: w.bytes → v.bytes = w.bytes := by
  intro n run
  obtain ⟨log, all, stays⟩ := Indexed.decodeSnapshot_yields v beyond {}
  obtain ⟨_, framing, -⟩ := Indexed.framing_yields v beyond {}
  have logged : run.2.log = log := by rw [show run = _ from all, List.nil_append]
  have result : run.1 = decodeSnapshot v.bytes := by rw [show run = _ from all]
  rw [logged, framing]
  refine ⟨fun bodyLen parts => (framed_ok parts).1, fun i read => stays.safe _ read,
    fun pos len moved => stays.safe _ moved, stays.count, result, ?_⟩
  intro w beyond' state state' accepted accepted' start
  obtain ⟨_, all', -⟩ := Indexed.decodeSnapshot_yields w beyond' {}
  rw [result] at accepted
  rw [all'] at accepted'
  obtain ⟨_, shorter⟩ := framed_of_decodeSnapshot accepted
  obtain ⟨_, longer⟩ := framed_of_decodeSnapshot accepted'
  exact eq_of_prefix shorter longer start

end ReplicaFabric
