import ReplicaFabric.Distributed.Decode

/-!
# What the message decoder accepts and what it reads

The codec is a bijection onto the vectors that announce their own length. On the vectors that end
inside the identities the decoder reads past the end before it rejects them.
-/

namespace ReplicaFabric

open ByteCodec

@[simp] theorem length_encodeMessage (m : Message) :
    (encodeMessage m).length = 109 + m.payload.length := by
  simp [encodeMessage]
  omega

def messageWidths : List Nat := [1, 8, 16, 16, 16, 16, 16, 16, 4]

theorem cut_message (b : Str) :
    cut messageWidths b =
      [b.take 1, (b.drop 1).take 8, (b.drop 9).take 16, (b.drop 25).take 16, (b.drop 41).take 16,
        (b.drop 57).take 16, (b.drop 73).take 16, (b.drop 89).take 16, (b.drop 105).take 4,
        b.drop 109] := by
  simp only [messageWidths, cut, List.drop_drop, Nat.reduceAdd]

theorem cut_encodeMessage (m : Message) :
    cut messageWidths (encodeMessage m) =
      [[m.kind.byte], leSplit 8 m.seq.toNat, m.epoch.toBytes, m.worker.toBytes, m.boot.toBytes,
        m.replica.toBytes, m.set.toBytes, m.attempt.toBytes, leSplit 4 m.payload.length,
        m.payload] := by
  have pieces := cut_flatten [[m.kind.byte], leSplit 8 m.seq.toNat, m.epoch.toBytes,
    m.worker.toBytes, m.boot.toBytes, m.replica.toBytes, m.set.toBytes, m.attempt.toBytes,
    leSplit 4 m.payload.length] m.payload
  simpa [encodeMessage, messageWidths] using pieces

theorem announced_encodeMessage {m : Message} (small : m.payload.length < 2 ^ 32) :
    announced (encodeMessage m) = m.payload.length := by
  have pieces := (cut_message _).symm.trans (cut_encodeMessage m)
  simp only [List.cons.injEq] at pieces
  rw [announced, pieces.2.2.2.2.2.2.2.2.1, leJoin_leSplit]
  exact Nat.mod_eq_of_lt small

theorem headerOf_encodeMessage (m : Message) :
    { headerOf (fun pos k => ((encodeMessage m).drop pos).take k) with
      payload := (encodeMessage m).drop 109 } = m := by
  have pieces := (cut_message _).symm.trans (cut_encodeMessage m)
  simp only [List.cons.injEq] at pieces
  simp only [headerOf, List.drop_zero, pieces]
  simp [leJoin_leSplit]

theorem encodeMessage_headerOf {b : Str} (long : 109 ≤ b.length)
    (whole : announced b = b.length - 109) :
    encodeMessage { headerOf (fun pos k => (b.drop pos).take k) with payload := b.drop 109 } =
      b := by
  have length {pos k : Nat} (inside : pos + k ≤ 109) : ((b.drop pos).take k).length = k := by
    rw [List.length_take, List.length_drop]
    omega
  have kind : [(b.take 1).headD 0] = b.take 1 := by
    obtain ⟨byte, one⟩ := List.length_eq_one_iff.mp (length (show 0 + 1 ≤ 109 by decide))
    rw [List.drop_zero] at one
    rw [one]
    rfl
  have word {pos k : Nat} (inside : pos + k ≤ 109) :
      leSplit k (leJoin ((b.drop pos).take k)) = (b.drop pos).take k := by
    have back := leSplit_leJoin ((b.drop pos).take k)
    rwa [length inside] at back
  have seq : leSplit 8 (UInt64.ofNat (leJoin ((b.drop 1).take 8))).toNat = (b.drop 1).take 8 := by
    have small := leJoin_lt ((b.drop 1).take 8)
    rw [length (by decide)] at small
    rw [UInt64.toNat_ofNat_of_lt' small, word (by decide)]
  have plen : leSplit 4 (b.drop 109).length = (b.drop 105).take 4 := by
    rw [List.length_drop, ← whole, announced, word (by decide)]
  have identity {tag : IdTag} {pos : Nat} (inside : pos + 16 ≤ 109) :
      (Id.fromBytes ((b.drop pos).take 16) : Id tag).toBytes = (b.drop pos).take 16 :=
    Id.toBytes_fromBytes (length inside)
  refine Eq.trans ?_ (flatten_cut messageWidths b)
  rw [cut_message]
  simp only [encodeMessage, headerOf, List.drop_zero, MessageKind.byte_ofByte, kind, seq, plen,
    identity, Nat.reduceAdd, Nat.reduceLeDiff]

theorem message_codec (beyond : Nat → UInt8) :
    (∀ (m : Message) (v : ByteVector), m.payload.length < 2 ^ 32 → v.bytes = encodeMessage m →
      (v.decode beyond).1 = .ok m) ∧
    (∀ v : ByteVector, 109 ≤ v.bytes.length →
      ((∃ m, (v.decode beyond).1 = .ok m) ↔
        leJoin ((v.bytes.drop 105).take 4) = v.bytes.length - 109) ∧
      ∀ m, (v.decode beyond).1 = .ok m → encodeMessage m = v.bytes) := by
  refine ⟨fun m v small encoded => ?_, fun v long => ⟨?_, fun m decoded => ?_⟩⟩
  · rw [ByteVector.decode_ok, encoded, length_encodeMessage, announced_encodeMessage small,
      headerOf_encodeMessage]
    exact ⟨by omega, by omega, rfl⟩
  · simp [ByteVector.decode_ok, long, announced]
  · obtain ⟨-, whole, rfl⟩ := ByteVector.decode_ok.mp decoded
    exact encodeMessage_headerOf long whole

def sampleMessage : Message := {
  kind := .ping
  seq := 7
  worker := ⟨1, 2⟩
  payload := "steps=4" }

def sampleVector : ByteVector where
  bytes := encodeMessage sampleMessage
  fits := by
    rw [length_encodeMessage]
    decide

theorem message_codec_sample :
    (sampleVector.decode fun _ => 0).1 = .ok sampleMessage ∧
      ∀ m, (sampleVector.decode fun _ => 0).1 = .ok m → encodeMessage m = sampleVector.bytes :=
  ⟨(message_codec fun _ => 0).1 sampleMessage sampleVector (by decide) rfl,
    ((message_codec fun _ => 0).2 sampleVector (by decide)).2⟩

namespace ByteVector

variable {v : ByteVector} {beyond : Nat → UInt8}

def InBounds (v : ByteVector) (beyond : Nat → UInt8) : Prop :=
  ∀ i, .read i ∈ (v.decode beyond).2 → i < v.bytes.length

/-- The vector is rejected if it is the start of a longer one that is accepted. -/
def RejectedIfTruncated (v : ByteVector) (beyond : Nat → UInt8) : Prop :=
  ∀ (whole : ByteVector) (beyond' : Nat → UInt8) (m : Message), v.bytes <+: whole.bytes →
    v.bytes.length < whole.bytes.length → (whole.decode beyond').1 = .ok m →
    (v.decode beyond).1 = .error ()

theorem rejectedIfTruncated (v : ByteVector) (beyond : Nat → UInt8) :
    v.RejectedIfTruncated beyond := by
  intro whole beyond' m starts shorter accepted
  cases decoded : (v.decode beyond).1 with
  | error e => rfl
  | ok m' =>
      obtain ⟨long, fills, -⟩ := decode_ok.mp decoded
      obtain ⟨-, fills', -⟩ := decode_ok.mp accepted
      -- The two share the header, so they announce the same length.
      have same : announced whole.bytes = announced v.bytes := by
        obtain ⟨rest, whole⟩ := starts
        rw [announced, announced, ← whole, List.drop_append_of_le_length (by omega),
          List.take_append_of_le_length (by rw [List.length_drop]; omega)]
      omega

theorem inBounds_of_short (short : v.bytes.length < 9) : v.InBounds beyond := by
  let win : Walk.Window := .whole v.bytes beyond
  obtain ⟨s, failed, reads⟩ := Decoder.header_short (show win.len < 9 from short)
  intro i read
  unfold decode decodeMessage at read
  rw [Walk.bind_of_error failed] at read
  have below : i < 0 + v.bytes.length := reads i read
  omega

theorem reads_identities (long : 9 ≤ v.bytes.length) (short : v.bytes.length < 105) :
    .read 104 ∈ (v.decode beyond).2 := by
  let win : Walk.Window := .whole v.bytes beyond
  have header : Decoder.header win {} = _ := Decoder.header_run long
  have payload : Decoder.payload win (headerEnd win) = _ :=
    Decoder.payload_short (show v.bytes.length < 105 + 4 by omega)
      (show 105 + 4 < 2 ^ 64 by decide)
  unfold decode decodeMessage
  rw [Walk.bind_of_ok header, Walk.bind_of_error payload]
  exact read_mem_headerEnd.mpr ⟨Nat.zero_le _, show 104 < 0 + 105 by decide⟩

theorem inBounds_of_long (long : 105 ≤ v.bytes.length) : v.InBounds beyond := by
  let win : Walk.Window := .whole v.bytes beyond
  have header : Decoder.header win {} = _ :=
    Decoder.header_run (show 9 ≤ v.bytes.length by omega)
  have agrees := Decoder.payload_refines win (headerEnd win)
    (Walk.Window.whole_sound v.fits beyond) long
  obtain ⟨new, log, safe⟩ : ∃ new, (v.decode beyond).2 = (headerEnd win).log ++ new ∧
      ∀ e ∈ new, e.Safe v.bytes.length := by
    unfold decode decodeMessage
    rw [Walk.bind_of_ok header, Walk.bind_run]
    generalize Decoder.payload win (headerEnd win) = walked at agrees ⊢
    obtain ⟨result, s'⟩ := walked
    cases result with
    | error e =>
        obtain ⟨-, -, new, log, safe, -⟩ := agrees
        exact ⟨new, log, safe⟩
    | ok x =>
        obtain ⟨-, -, new, log, safe, -⟩ := agrees
        have ending : (Walk.finished : Walk Unit Bool) win s' =
            (.ok (s'.pos == v.bytes.length), s') := rfl
        refine ⟨new, ?_, safe⟩
        dsimp only
        rw [Walk.bind_of_ok ending, Walk.ite_run]
        split <;> exact log
  intro i read
  rw [log, List.mem_append, read_mem_headerEnd] at read
  rcases read with ⟨-, inside⟩ | payload
  · have bound : i < 0 + 105 := inside
    omega
  · exact safe _ payload

/-- The decoder stays inside its vector exactly when the vector ends before the identities or
after them. What it rejects does not depend on that. -/
theorem decode_inBounds_iff (v : ByteVector) (beyond : Nat → UInt8) :
    v.InBounds beyond ∧ v.RejectedIfTruncated beyond ↔
      v.bytes.length < 9 ∨ 105 ≤ v.bytes.length := by
  constructor
  · rintro ⟨inside, -⟩
    by_contra between
    have read := inside 104 (reads_identities (by omega) (by omega))
    omega
  · rintro (short | long)
    · exact ⟨inBounds_of_short short, v.rejectedIfTruncated beyond⟩
    · exact ⟨inBounds_of_long long, v.rejectedIfTruncated beyond⟩

def nineBytes : ByteVector := ⟨List.replicate 9 0, by decide⟩

theorem nineBytes_overread :
    ¬(nineBytes.InBounds (fun _ => 0) ∧ nineBytes.RejectedIfTruncated fun _ => 0) := by
  rintro ⟨inside, -⟩
  have read : .read 104 ∈ (nineBytes.decode fun _ => 0).2 := by decide +kernel
  exact absurd (inside 104 read) (by decide)

end ByteVector

end ReplicaFabric
