import ReplicaFabric.Distributed.Fleet
import ReplicaFabric.Safety.Decoding
import ReplicaFabric.Safety.Framing

/-!
# Messages over the wire

Both programs write a message after the other and look at no result, and read a frame after the
other and pass over what does not decode. Over a socket this makes the channel that the fleet has:
the messages that fit arrive in order, whatever the calls of `send` and `recv` transfer at a time.
-/

namespace ReplicaFabric

namespace Outgoing

variable (out : Outgoing)

/-- `write_frame(encode_message(m))` for each message; the results are dropped. -/
def sendMessages (ms : List Message) (s : State) : State :=
  ms.foldl (fun s m => (out.writeFrame (encodeMessage m) s).2) s

def Lasting : Prop :=
  ∀ call call' offered offered', call ≤ call' → out.send call offered = none →
    out.send call' offered' = none

def Dead (s : State) : Prop :=
  out.valid = false ∨ ∀ call offered, s.calls ≤ call → out.send call offered = none

variable {out : Outgoing} {data payload : Str} {s : State}

theorem Dead.sendAll (dead : out.Dead s) (data : Str) :
    (out.sendAll data s).2.wire = s.wire ∧ out.Dead (out.sendAll data s).2 := by
  unfold Outgoing.sendAll
  split
  · exact ⟨rfl, dead⟩
  · next open' =>
      have none := dead.resolve_left (by simpa using open')
      unfold sendFrom
      split
      · dsimp only
        split
        · exact ⟨rfl, .inr fun call offered later => none call offered (by
            exact Nat.le_of_succ_le later)⟩
        · next r taken => cases (none _ _ (Nat.le_refl _)).symm.trans taken
      · exact ⟨rfl, dead⟩

theorem Dead.writeFrame (dead : out.Dead s) (payload : Str) :
    (out.writeFrame payload s).2.wire = s.wire ∧ out.Dead (out.writeFrame payload s).2 := by
  unfold Outgoing.writeFrame
  split
  · exact ⟨rfl, dead⟩
  · obtain ⟨same, dead'⟩ := dead.sendAll (ByteCodec.beSplit 4 payload.length)
    generalize out.sendAll (ByteCodec.beSplit 4 payload.length) s = sent at same dead' ⊢
    obtain ⟨ok, next⟩ := sent
    dsimp only
    split
    · exact ⟨same, dead'⟩
    · split
      · exact ⟨same, dead'⟩
      · obtain ⟨same', dead''⟩ := dead'.sendAll payload
        exact ⟨same'.trans same, dead''⟩

theorem Dead.sendMessages (dead : out.Dead s) (ms : List Message) :
    (out.sendMessages ms s).wire = s.wire := by
  induction ms generalizing s with
  | nil => rfl
  | cons m ms ih =>
      obtain ⟨same, dead'⟩ := dead.writeFrame (encodeMessage m)
      exact (ih dead').trans same

theorem Lasting.sendFrom (lasting : out.Lasting) (sent : Nat)
    (failed : (out.sendFrom data sent s).1 = false) : out.Dead (out.sendFrom data sent s).2 := by
  fun_induction Outgoing.sendFrom out data sent s with
  | case1 sent s more chunk none =>
      exact .inr fun call offered later =>
        lasting _ _ _ _ (Nat.le_of_succ_le later) none
  | case2 sent s more chunk r taken ih => exact ih failed
  | case3 sent s done => cases failed

theorem Lasting.sendAll (lasting : out.Lasting) (data : Str) (s : State)
    (failed : (out.sendAll data s).1 = false) :
    out.Dead (out.sendAll data s).2 := by
  unfold Outgoing.sendAll at failed ⊢
  split
  · next closed => exact .inl (by simpa using closed)
  · next open' =>
      rw [if_neg open'] at failed
      exact lasting.sendFrom 0 failed

theorem Lasting.writeFrame (lasting : out.Lasting) (small : payload.length ≤ kMaxFrame)
    (failed : (out.writeFrame payload s).1 = false) : out.Dead (out.writeFrame payload s).2 := by
  have header := lasting.sendAll (ByteCodec.beSplit 4 payload.length) s
  unfold Outgoing.writeFrame at failed ⊢
  rw [if_neg (by omega)] at failed ⊢
  generalize out.sendAll (ByteCodec.beSplit 4 payload.length) s = sent at header failed ⊢
  obtain ⟨ok, next⟩ := sent
  cases ok with
  | false => exact header rfl
  | true =>
      by_cases empty : payload = []
      · simp [empty] at failed
      · simp only [Bool.not_true, Bool.false_eq_true, if_false, if_neg empty] at failed ⊢
        exact lasting.sendAll _ _ failed

def wireOf (ms : List Message) : Str := stream ((ms.filter Message.fits).map encodeMessage)

theorem wireOf_cons (m : Message) (ms : List Message) :
    wireOf (m :: ms) = (if m.fits then frame (encodeMessage m) else []) ++ wireOf ms := by
  unfold wireOf
  rw [List.filter_cons]
  split_ifs <;> simp [stream]

theorem fits_iff {m : Message} : m.fits = true ↔ (encodeMessage m).length ≤ kMaxFrame :=
  decide_eq_true_iff

theorem writeFrame_unfit {m : Message} (unfit : ¬m.fits = true) :
    out.writeFrame (encodeMessage m) s = (false, s) := by
  rw [fits_iff] at unfit
  exact if_pos (not_le.mp unfit)

theorem Reliable.sendMessages (reliable : out.Reliable) (ms : List Message) (s : State) :
    (out.sendMessages ms s).wire = s.wire ++ wireOf ms := by
  induction ms generalizing s with
  | nil => simp [Outgoing.sendMessages, wireOf, stream]
  | cons m ms ih =>
      have rest := ih (out.writeFrame (encodeMessage m) s).2
      rw [wireOf_cons, ← List.append_assoc]
      refine rest.trans (congrArg (· ++ wireOf ms) ?_)
      split_ifs with fits
      · have small := fits_iff.mp fits
        exact (writeFrame_sends small).whole (reliable.writeFrame small)
      · rw [writeFrame_unfit fits, List.append_nil]

theorem Lasting.sendMessages (lasting : out.Lasting) (ms : List Message) (s : State) :
    (out.sendMessages ms s).wire <+: s.wire ++ wireOf ms := by
  induction ms generalizing s with
  | nil => exact List.prefix_append ..
  | cons m ms ih =>
      have rest := ih (out.writeFrame (encodeMessage m) s).2
      rw [wireOf_cons, ← List.append_assoc]
      split_ifs with fits
      · have small := fits_iff.mp fits
        have sends : Sends s (frame (encodeMessage m)) (out.writeFrame (encodeMessage m) s) :=
          writeFrame_sends small
        cases ok : (out.writeFrame (encodeMessage m) s).1 with
        | true =>
            rw [sends.whole ok] at rest
            exact rest
        | false =>
            have dead := lasting.writeFrame small ok
            have same : (out.sendMessages (m :: ms) s).wire =
                (out.writeFrame (encodeMessage m) s).2.wire := dead.sendMessages ms
            rw [same]
            exact sends.starts.trans (List.prefix_append ..)
      · rw [writeFrame_unfit fits] at rest
        rw [List.append_nil]
        have same : out.sendMessages (m :: ms) s = out.sendMessages ms s := by
          simp [Outgoing.sendMessages, writeFrame_unfit fits]
        rw [same]
        exact rest

end Outgoing

def decodeFrame (beyond : Nat → UInt8) (bytes : Str) : Option Message :=
  if fits : bytes.length < 2 ^ 63 then ((⟨bytes, fits⟩ : ByteVector).decode beyond).1.toOption
  else none

namespace Incoming

variable {inn : Incoming}

def messages (inn : Incoming) (beyond : Nat → UInt8) (s : State) : List Message :=
  (inn.readFrames s).filterMap (decodeFrame beyond)

end Incoming

theorem decodeFrame_encodeMessage (beyond : Nat → UInt8) {m : Message} (fits : m.fits = true) :
    decodeFrame beyond (encodeMessage m) = some m := by
  have small := Outgoing.fits_iff.mp fits
  have short : (encodeMessage m).length < 2 ^ 63 := small.trans_lt (by decide)
  have payload : m.payload.length < 2 ^ 32 := by
    rw [length_encodeMessage] at small
    exact (Nat.le_add_left ..).trans_lt (small.trans_lt (by decide))
  have decoded : ((⟨encodeMessage m, short⟩ : ByteVector).decode beyond).1 = .ok m := by
    rw [ByteVector.decode_ok, length_encodeMessage, announced_encodeMessage payload,
      headerOf_encodeMessage]
    exact ⟨by omega, by omega, rfl⟩
  rw [decodeFrame, dif_pos short, decoded]
  rfl

theorem decodeFrames (beyond : Nat → UInt8) {ms : List Message}
    (fit : ∀ m ∈ ms, m.fits = true) :
    (ms.map encodeMessage).filterMap (decodeFrame beyond) = ms := by
  induction ms with
  | nil => rfl
  | cons m ms ih =>
      rw [List.map_cons, List.filterMap_cons_some
        (decodeFrame_encodeMessage beyond (fit m List.mem_cons_self)),
        ih fun m' member => fit m' (List.mem_cons_of_mem _ member)]

theorem Incoming.messages_cut {inn : Incoming} (live : inn.valid = true) (beyond : Nat → UInt8)
    (ms : List Message) {cut : Str} (starts : cut <+: Outgoing.wireOf ms) :
    ∃ k, inn.messages beyond { coming := cut } = (ms.filter Message.fits).take k ∧
      (cut = Outgoing.wireOf ms → (ms.filter Message.fits).length ≤ k) := by
  have fit : ∀ m ∈ ms.filter Message.fits, m.fits = true := fun m member =>
    (List.mem_filter.mp member).2
  have small : ∀ payload ∈ (ms.filter Message.fits).map encodeMessage,
      payload.length ≤ kMaxFrame := by
    intro payload member
    obtain ⟨m, inside, rfl⟩ := List.mem_map.mp member
    exact Outgoing.fits_iff.mp (fit m inside)
  refine ⟨wholeFrames ((ms.filter Message.fits).map encodeMessage) cut.length, ?_, fun all => ?_⟩
  · have frames := Incoming.readFrames_cut live small cut.length { coming := cut }
      (List.prefix_iff_eq_take.mp starts)
    rw [messages, frames, ← List.map_take,
      decodeFrames beyond fun m member => fit m (List.mem_of_mem_take member)]
  · rw [all, Outgoing.wireOf, wholeFrames_all, List.length_map]

theorem messages_survive (out : Outgoing) (inn : Incoming) (beyond : Nat → UInt8)
    (ms : List Message) (live : inn.valid = true) :
    (out.Reliable → inn.messages beyond { coming := (out.sendMessages ms {}).wire } =
      ms.filter Message.fits) ∧
    (out.Lasting → ∀ cut, cut <+: (out.sendMessages ms {}).wire →
      inn.messages beyond { coming := cut } <+: ms.filter Message.fits) := by
  constructor
  · intro reliable
    have wire : (out.sendMessages ms {}).wire = Outgoing.wireOf ms := reliable.sendMessages ms {}
    obtain ⟨k, read, all⟩ := Incoming.messages_cut live beyond ms
      (List.prefix_refl (Outgoing.wireOf ms))
    rw [wire, read, List.take_of_length_le (all rfl)]
  · intro lasting cut starts
    have wire : (out.sendMessages ms {}).wire <+: Outgoing.wireOf ms := lasting.sendMessages ms {}
    obtain ⟨k, read, -⟩ := Incoming.messages_cut live beyond ms (starts.trans wire)
    rw [read]
    exact List.take_prefix ..

/-- The sends fail in the middle of the second frame. -/
def failingOut : Outgoing where
  valid := true
  send call _ := if call < 150 then some 1 else none
  part call offered r sent more := by
    split_ifs at sent
    cases sent
    exact ⟨Nat.one_pos, more⟩

theorem messages_byte_by_byte :
    let ms := [sampleMessage, { kind := .pong }]
    byteIn.messages (fun _ => 0) { coming := (byteOut.sendMessages ms {}).wire } =
        ms.filter Message.fits ∧
      byteIn.messages (fun _ => 0) { coming := (failingOut.sendMessages ms {}).wire } <+:
        ms.filter Message.fits := by
  have lasting : failingOut.Lasting := by
    intro call call' offered offered' later failed
    have past : ¬call < 150 := by simpa [failingOut] using failed
    exact if_neg (by omega)
  exact ⟨(messages_survive byteOut byteIn (fun _ => 0) _ rfl).1 ⟨rfl, fun _ _ => by simp [byteOut]⟩,
    (messages_survive failingOut byteIn (fun _ => 0) _ rfl).2 lasting _ (List.prefix_refl _)⟩

end ReplicaFabric
