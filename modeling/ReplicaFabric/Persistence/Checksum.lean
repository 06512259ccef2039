import ReplicaFabric.Library.Crc
import ReplicaFabric.Persistence.RoundTrip

/-!
# What the checksum detects

The register over a whole accepted file is zero, the stored checksum included. A change inside
eight bytes leaves another register, wherever in the file it falls.
-/

namespace ReplicaFabric

open ByteCodec

def crc64Polynomial : BitVec 64 := 0xC96C5795D7870F42#64

theorem crc64Polynomial_msb : crc64Polynomial.msb = true := by decide

theorem crc64Shift_toBitVec (crc : UInt64) :
    (if crc &&& 1 ≠ 0 then (crc >>> 1) ^^^ 0xC96C5795D7870F42 else crc >>> 1).toBitVec =
      Crc.bit crc64Polynomial crc.toBitVec := by
  have low : crc &&& 1 ≠ 0 ↔ crc.toBitVec.getLsbD 0 = true := by
    have masked : (crc &&& 1).toBitVec =
        BitVec.setWidth 64 (BitVec.ofBool (crc.toBitVec.getLsbD 0)) :=
      BitVec.and_one_eq_setWidth_ofBool_getLsbD
    rw [Ne, ← UInt64.toBitVec_inj, masked]
    cases crc.toBitVec.getLsbD 0 <;> decide
  rw [Crc.bit]
  by_cases set : crc &&& 1 ≠ 0
  · rw [if_pos set, if_pos (low.mp set)]
    rfl
  · rw [if_neg set, if_neg (mt low.mpr set)]
    rfl

theorem crc64Entry_toBitVec (i : UInt64) :
    (crc64Entry i).toBitVec = (Crc.bit crc64Polynomial)^[8] i.toBitVec :=
  (Function.Semiconj.iterate_right crc64Shift_toBitVec 8).eq i

theorem crc64_toBitVec (data : Str) :
    (crc64 data).toBitVec = Crc.feed crc64Polynomial 0#64 data := by
  refine (List.foldl_hom UInt64.toBitVec fun crc b => ?_).symm
  rw [Crc.feed_byte, UInt64.toBitVec_xor, crc64Entry_toBitVec]
  rfl

/-- `make_crc64_table` -/
def makeCrc64Table : Vector UInt64 256 := .ofFn fun i => crc64Entry (UInt64.ofNat i)

def crc64Turn (table : Vector UInt64 256) (crc : UInt64) (b : UInt8) : UInt64 :=
  table.get (crc.toUInt8 ^^^ b).toFin ^^^ (crc >>> 8)

theorem makeCrc64Table_get (b : UInt8) :
    makeCrc64Table.get b.toFin = crc64Entry b.toUInt64 := by
  have looked : makeCrc64Table.get b.toFin = crc64Entry (UInt64.ofNat b.toFin) :=
    Vector.getElem_ofFn b.toFin.isLt
  have index : UInt64.ofNat b.toFin = b.toUInt64 := UInt64.toNat_inj.mp (by simp)
  rw [looked, index]

theorem crc64Turn_toBitVec (crc : UInt64) (b : UInt8) :
    (crc64Turn makeCrc64Table crc b).toBitVec =
      (Crc.bit crc64Polynomial)^[8] (crc.toBitVec ^^^ Crc.ofByte 64 b) := by
  rw [crc64Turn, makeCrc64Table_get, UInt64.toBitVec_xor, crc64Entry_toBitVec, Crc.feed_byte]
  rfl

theorem crc64Turn_injective (b : UInt8) :
    Function.Injective fun crc => crc64Turn makeCrc64Table crc b := by
  intro crc crc' same
  have registers := congrArg UInt64.toBitVec same
  simp only [crc64Turn_toBitVec] at registers
  have before := (Crc.bit_injective crc64Polynomial_msb).iterate 8 registers
  exact UInt64.toBitVec_inj.mp ((BitVec.xor_left_inj _).mp before)

theorem crc64_eq_foldl (data : Str) : crc64 data = data.foldl (crc64Turn makeCrc64Table) 0 := by
  refine congrArg (List.foldl · 0 data) ?_
  funext crc b
  rw [crc64Turn, makeCrc64Table_get]

theorem crc64_table_refines (data : Str) :
    (data.foldl (crc64Turn makeCrc64Table) 0).toBitVec =
        Crc.serial crc64Polynomial 0#64 (data.flatMap Crc.bitsOf) ∧
      crc64 data = data.foldl (crc64Turn makeCrc64Table) 0 ∧
      ∀ b, Function.Injective fun crc => crc64Turn makeCrc64Table crc b := by
  refine ⟨?_, crc64_eq_foldl data, crc64Turn_injective⟩
  rw [← crc64_eq_foldl, crc64_toBitVec, Crc.feed_eq_serial (by decide)]

theorem Accepted.register {bytes : Str} {state : RecoveredState} (accepted : Accepted bytes state) :
    Crc.feed crc64Polynomial 0#64 bytes = 0#64 := by
  have long := accepted.long
  have stored : (bytes.drop (bytes.length - 8)).length = 8 := by
    rw [List.length_drop]
    omega
  have same : Crc.word 64 (bytes.drop (bytes.length - 8)) =
      Crc.feed crc64Polynomial 0#64 (bytes.take (bytes.length - 8)) := by
    rw [← crc64_toBitVec, accepted.checksum]
    rfl
  rw [← List.take_append_drop (bytes.length - 8) bytes]
  exact Crc.feed_residue (by rw [stored]) same

theorem checksum_detects (s t : Str) (state : RecoveredState)
    (accepted : decodeSnapshot s = .ok state) (lengths : t.length = s.length) (differs : t ≠ s)
    (start : Nat) (outside : ∀ i, ¬(start ≤ i ∧ i < start + 8) → t[i]? = s[i]?) :
    ∃ e, decodeSnapshot t = .error e := by
  cases decoded : decodeSnapshot t with
  | error e => exact ⟨e, rfl⟩
  | ok other =>
      have same : Crc.feed crc64Polynomial 0#64 t = Crc.feed crc64Polynomial 0#64 s := by
        rw [(accepted_of_decodeSnapshot decoded).register,
          (accepted_of_decodeSnapshot accepted).register]
      exact absurd (Crc.eq_of_window crc64Polynomial_msb (by decide) lengths outside same) differs

theorem checksum_detects_lastByte :
    ∃ e, decodeSnapshot ((makeSnapshot ReplicaSetController.empty).set 87 1) = .error e := by
  have keyed : ReplicaSetController.empty.Keyed := by decide
  have accepted := decodeSnapshot_makeSnapshot keyed (by decide) (by decide)
  refine checksum_detects _ _ _ accepted (List.length_set ..) (by decide +kernel) 84 ?_
  intro i outside
  exact List.getElem?_set_ne (by omega)

end ReplicaFabric
