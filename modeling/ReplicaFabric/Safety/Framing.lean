import ReplicaFabric.Distributed.Transport

/-!
# Frames survive any segmentation

Whatever part of a chunk each `send` takes, what goes over the wire is the stream of the frames,
or the start of it if a `send` fails. Whatever part of what is to come each `recv` returns, the
reader yields the frames that are whole before the cut, and then fails.
-/

namespace ReplicaFabric

open ByteCodec

namespace Outgoing

structure Sends (s : State) (data : Str) (result : Bool × State) : Prop where
  starts : result.2.wire <+: s.wire ++ data
  whole : result.1 = true → result.2.wire = s.wire ++ data

structure Reliable (out : Outgoing) : Prop where
  valid : out.valid = true
  sends : ∀ call offered, out.send call offered ≠ none

variable {out : Outgoing} {data data' : Str} {s : State}

theorem Sends.nothing : Sends s data (false, s) :=
  ⟨List.prefix_append .., fun contra => by cases contra⟩

theorem Sends.trans {first second : Bool × State} (one : Sends s data first)
    (ok : first.1 = true) (two : Sends first.2 data' second) : Sends s (data ++ data') second := by
  have wire := one.whole ok
  refine ⟨?_, fun ok' => ?_⟩
  · rw [← List.append_assoc, ← wire]
    exact two.starts
  · rw [two.whole ok', wire, List.append_assoc]

theorem Sends.failed {first : Bool × State} (one : Sends s data first) :
    Sends s (data ++ data') (false, first.2) := by
  refine ⟨one.starts.trans ?_, fun contra => by cases contra⟩
  rw [← List.append_assoc]
  exact List.prefix_append ..

theorem sendFrom_sends (sent : Nat) :
    Sends s (data.drop sent) (out.sendFrom data sent s) := by
  fun_induction sendFrom out data sent s with
  | case1 sent s more chunk failed => exact ⟨List.prefix_append .., fun contra => by cases contra⟩
  | case2 sent s more chunk r taken ih =>
      have wire : s.wire ++ (data.drop sent).take r ++ data.drop (sent + r) =
          s.wire ++ data.drop sent := by
        rw [List.append_assoc, ← List.drop_drop, List.take_append_drop]
      have starts := ih.starts
      have whole := ih.whole
      dsimp only at starts whole
      rw [wire] at starts whole
      exact ⟨starts, whole⟩
  | case3 sent s done =>
      have nothing : data.drop sent = [] := List.drop_eq_nil_of_le (by omega)
      rw [nothing]
      exact ⟨by simp, fun _ => (List.append_nil _).symm⟩

theorem sendAll_sends : Sends s data (out.sendAll data s) := by
  unfold sendAll
  split
  · exact .nothing
  · exact sendFrom_sends 0

theorem writeFrame_sends {payload : Str} (small : payload.length ≤ kMaxFrame) :
    Sends s (frame payload) (out.writeFrame payload s) := by
  unfold writeFrame frame
  rw [if_neg (by omega)]
  have header : Sends s (beSplit 4 payload.length) (out.sendAll (beSplit 4 payload.length) s) :=
    sendAll_sends
  generalize out.sendAll (beSplit 4 payload.length) s = sent at header ⊢
  obtain ⟨ok, s1⟩ := sent
  cases ok with
  | false => exact header.failed
  | true =>
      by_cases empty : payload = []
      · subst empty
        simpa using header
      · simp only [Bool.not_true, Bool.false_eq_true, if_false, if_neg empty]
        exact header.trans rfl sendAll_sends

theorem writeFrames_sends {payloads : List Str}
    (small : ∀ payload ∈ payloads, payload.length ≤ kMaxFrame) :
    Sends s (stream payloads) (out.writeFrames payloads s) := by
  induction payloads generalizing s with
  | nil => exact ⟨by simp [stream, writeFrames], fun _ => (List.append_nil _).symm⟩
  | cons payload payloads ih =>
      have one : Sends s (frame payload) (out.writeFrame payload s) :=
        writeFrame_sends (small payload List.mem_cons_self)
      have rest := ih (s := (out.writeFrame payload s).2)
        fun p member => small p (List.mem_cons_of_mem _ member)
      rw [writeFrames, stream, List.flatMap_cons]
      generalize out.writeFrame payload s = written at one rest ⊢
      obtain ⟨ok, s1⟩ := written
      cases ok with
      | false => exact one.failed
      | true => exact one.trans rfl rest

theorem Reliable.sendFrom (reliable : out.Reliable) (sent : Nat) :
    (out.sendFrom data sent s).1 = true := by
  fun_induction Outgoing.sendFrom out data sent s with
  | case1 sent s more chunk failed => exact (reliable.sends _ _ failed).elim
  | case2 sent s more chunk r taken ih => exact ih
  | case3 sent s done => rfl

theorem Reliable.sendAll (reliable : out.Reliable) : (out.sendAll data s).1 = true := by
  unfold Outgoing.sendAll
  rw [reliable.valid]
  exact reliable.sendFrom 0

theorem Reliable.writeFrame (reliable : out.Reliable) {payload : Str}
    (small : payload.length ≤ kMaxFrame) : (out.writeFrame payload s).1 = true := by
  unfold Outgoing.writeFrame
  rw [if_neg (by omega)]
  simp only [reliable.sendAll, Bool.not_true, Bool.false_eq_true, if_false]
  split
  · rfl
  · exact reliable.sendAll

theorem Reliable.writeFrames (reliable : out.Reliable) {payloads : List Str}
    (small : ∀ payload ∈ payloads, payload.length ≤ kMaxFrame) :
    (out.writeFrames payloads s).1 = true := by
  induction payloads generalizing s with
  | nil => rfl
  | cons payload payloads ih =>
      simp only [Outgoing.writeFrames, reliable.writeFrame (small payload List.mem_cons_self),
        if_true]
      exact ih fun p member => small p (List.mem_cons_of_mem _ member)

end Outgoing

namespace Incoming

variable {inn : Incoming} {s : State}

theorem recvExact_of_enough (live : inn.valid = true) {n : Nat} (enough : n ≤ s.coming.length) :
    ∃ s', inn.recvExact n s = (some (s.coming.take n), s') ∧ s'.coming = s.coming.drop n := by
  cases received : inn.recvExact n s with
  | mk result s' =>
      cases result with
      | none =>
          have short := recvExact_none live (congrArg Prod.fst received)
          omega
      | some b =>
          obtain ⟨-, rfl, rest⟩ := recvExact_some received
          exact ⟨s', rfl, rest⟩

theorem recvExact_of_short {n : Nat} (short : s.coming.length < n) :
    ∃ s', inn.recvExact n s = (none, s') := by
  cases received : inn.recvExact n s with
  | mk result s' =>
      cases result with
      | none => exact ⟨s', rfl⟩
      | some b =>
          obtain ⟨enough, -, -⟩ := recvExact_some received
          omega

theorem readFrame_header (live : inn.valid = true) {size : Nat} {rest : Str}
    (small : size ≤ kMaxFrame) (coming : s.coming = beSplit 4 size ++ rest) :
    ∃ s1, s1.coming = rest ∧
      inn.readFrame s = if size > 0 then inn.recvExact size s1 else (some [], s1) := by
  have four : (beSplit 4 size).length = 4 := length_beSplit ..
  obtain ⟨s1, received, left⟩ := recvExact_of_enough live (n := 4) (s := s) (by
    rw [coming, List.length_append, four]
    omega)
  rw [coming, List.take_left' four] at received
  rw [coming, List.drop_left' four] at left
  have announced : beJoin (beSplit 4 size) = size := by
    rw [beJoin_beSplit]
    exact Nat.mod_eq_of_lt (by change size ≤ 16 * 1024 * 1024 at small; omega)
  refine ⟨s1, left, ?_⟩
  unfold readFrame
  rw [received]
  dsimp only
  rw [announced, if_neg (by omega)]

theorem readFrame_whole (live : inn.valid = true) {payload rest : Str}
    (small : payload.length ≤ kMaxFrame) (coming : s.coming = frame payload ++ rest) :
    ∃ s', inn.readFrame s = (some payload, s') ∧ s'.coming = rest := by
  rw [frame, List.append_assoc] at coming
  obtain ⟨s1, left, read⟩ := readFrame_header live small coming
  rw [read]
  split_ifs with more
  · obtain ⟨s', received, left'⟩ := recvExact_of_enough live (n := payload.length) (s := s1) (by
      rw [left, List.length_append]
      omega)
    rw [left, List.take_left] at received
    rw [left, List.drop_left] at left'
    exact ⟨s', received, left'⟩
  · obtain rfl := List.eq_nil_of_length_eq_zero (show payload.length = 0 by omega)
    exact ⟨s1, rfl, left⟩

theorem readFrame_cut (live : inn.valid = true) {payload : Str}
    (small : payload.length ≤ kMaxFrame) (starts : s.coming <+: frame payload)
    (cut : s.coming.length < (frame payload).length) : (inn.readFrame s).1 = none := by
  have four : (beSplit 4 payload.length).length = 4 := length_beSplit ..
  by_cases header : s.coming.length < 4
  · obtain ⟨s', failed⟩ := recvExact_of_short header
    unfold readFrame
    rw [failed]
  · obtain ⟨part, coming⟩ : ∃ part, s.coming = beSplit 4 payload.length ++ part := by
      obtain ⟨part, split⟩ := List.prefix_of_prefix_length_le (List.prefix_append _ payload)
        starts (by omega)
      exact ⟨part, split.symm⟩
    obtain ⟨s1, left, read⟩ := readFrame_header live small coming
    have short : part.length < payload.length := by
      rw [coming, frame, List.length_append, List.length_append] at cut
      omega
    obtain ⟨s', failed⟩ := recvExact_of_short (left ▸ short : s1.coming.length < _)
    rw [read, if_pos (by omega), failed]

theorem readFrames_of_none (failed : (inn.readFrame s).1 = none) : inn.readFrames s = [] := by
  rw [readFrames]
  split
  · rfl
  · next read =>
    rw [read] at failed
    cases failed

theorem readFrames_of_some {payload : Str} {s' : State}
    (read : inn.readFrame s = (some payload, s')) :
    inn.readFrames s = payload :: inn.readFrames s' := by
  rw [readFrames]
  split
  · next failed =>
    rw [read] at failed
    cases failed
  · next read' =>
    rw [read] at read'
    cases read'
    rfl

end Incoming

def wholeFrames : List Str → Nat → Nat
  | [], _ => 0
  | payload :: payloads, n =>
      if (frame payload).length ≤ n then wholeFrames payloads (n - (frame payload).length) + 1
      else 0

theorem stream_cons (payload : Str) (payloads : List Str) :
    stream (payload :: payloads) = frame payload ++ stream payloads := rfl

theorem wholeFrames_spec (payloads : List Str) (n : Nat) :
    wholeFrames payloads n ≤ payloads.length ∧
      (stream (payloads.take (wholeFrames payloads n))).length ≤ n ∧
      (wholeFrames payloads n < payloads.length →
        n < (stream (payloads.take (wholeFrames payloads n + 1))).length) := by
  induction payloads generalizing n with
  | nil => simp [wholeFrames, stream]
  | cons payload payloads ih =>
      rw [wholeFrames]
      split_ifs with whole
      · obtain ⟨bound, fits, next⟩ := ih (n - (frame payload).length)
        simp only [List.take_succ_cons, stream_cons, List.length_append, List.length_cons]
        exact ⟨by omega, by omega, fun more => by have := next (by omega); omega⟩
      · have cut : n < (frame payload).length := by omega
        simp [stream, cut]

theorem wholeFrames_all (payloads : List Str) :
    wholeFrames payloads (stream payloads).length = payloads.length := by
  obtain ⟨bound, -, next⟩ := wholeFrames_spec payloads (stream payloads).length
  by_contra fewer
  have past := next (by omega)
  generalize wholeFrames payloads (stream payloads).length + 1 = k at past
  have split : stream payloads = stream (payloads.take k) ++ stream (payloads.drop k) := by
    rw [stream, stream, stream, ← List.flatMap_append, List.take_append_drop]
  have lengths := congrArg List.length split
  rw [List.length_append] at lengths
  omega

theorem Incoming.readFrames_cut {inn : Incoming} (live : inn.valid = true) {payloads : List Str}
    (small : ∀ payload ∈ payloads, payload.length ≤ kMaxFrame) (n : Nat) (s : State)
    (coming : s.coming = (stream payloads).take n) :
    inn.readFrames s = payloads.take (wholeFrames payloads n) := by
  induction payloads generalizing n s with
  | nil =>
      have nothing : s.coming.length < 4 := by simp [coming, stream]
      obtain ⟨s', failed⟩ := recvExact_of_short nothing
      refine readFrames_of_none ?_
      unfold readFrame
      rw [failed]
  | cons payload payloads ih =>
      have bound := small payload List.mem_cons_self
      rw [stream_cons] at coming
      rw [wholeFrames]
      split_ifs with whole
      · rw [List.take_append, List.take_of_length_le whole] at coming
        obtain ⟨s', read, rest⟩ := readFrame_whole live bound coming
        rw [readFrames_of_some read, List.take_succ_cons,
          ih (fun p member => small p (List.mem_cons_of_mem _ member)) _ s' rest]
      · rw [List.take_append_of_le_length (by omega)] at coming
        refine readFrames_of_none (readFrame_cut live bound ?_ ?_)
        · rw [coming]
          exact List.take_prefix ..
        · rw [coming, List.length_take]
          omega

theorem framing_survives_segmentation (out : Outgoing) (inn : Incoming) (payloads : List Str)
    (live : inn.valid = true) (small : ∀ payload ∈ payloads, payload.length ≤ kMaxFrame) :
    let written := out.writeFrames payloads {}
    (out.Reliable → written.1 = true) ∧
      (written.1 = true → inn.readFrames { coming := written.2.wire } = payloads) ∧
      ∀ cut, cut <+: written.2.wire →
        ∃ k ≤ payloads.length, inn.readFrames { coming := cut } = payloads.take k ∧
          (stream (payloads.take k)).length ≤ cut.length ∧
          (k < payloads.length → cut.length < (stream (payloads.take (k + 1))).length) := by
  intro written
  have sends : Outgoing.Sends {} (stream payloads) written := Outgoing.writeFrames_sends small
  refine ⟨fun reliable => reliable.writeFrames small, fun ok => ?_, fun cut starts => ?_⟩
  · have coming : written.2.wire = (stream payloads).take (stream payloads).length := by
      rw [List.take_length]
      exact sends.whole ok
    rw [Incoming.readFrames_cut live small _ _ coming, wholeFrames_all, List.take_length]
  · have coming : cut = (stream payloads).take cut.length :=
      (List.prefix_iff_eq_take.mp (starts.trans sends.starts))
    obtain ⟨bound, fits, next⟩ := wholeFrames_spec payloads cut.length
    exact ⟨_, bound, Incoming.readFrames_cut live small _ _ coming, fits, next⟩

def byteOut : Outgoing where
  valid := true
  send _ _ := some 1
  part _ offered r taken more := by
    obtain rfl := Option.some.inj taken
    exact ⟨one_pos, more⟩

def byteIn : Incoming where
  valid := true
  recv _ _ _ := 1
  part _ _ _ room coming := ⟨one_pos, room, coming⟩

def pings : List Str := [ascii "ping", [], ascii "pong"]

theorem framing_byte_by_byte :
    let written := byteOut.writeFrames pings {}
    written.1 = true ∧ byteIn.readFrames { coming := written.2.wire } = pings := by
  have survives := framing_survives_segmentation byteOut byteIn pings rfl (by decide)
  have ok := survives.1 ⟨rfl, fun _ _ => by simp [byteOut]⟩
  exact ⟨ok, survives.2.1 ok⟩

end ReplicaFabric
