import Mathlib.Algebra.Order.Ring.Nat
import Mathlib.Data.List.Basic

/-!
# MCTP packets

The transport header of `mctp_hdr`, its four bytes on the wire, and a received packet as
`mctp_rx_task` sees it: at most 256 bytes at the start of a read buffer that is zeroed
before every read, so the header of a packet shorter than four bytes is read with zeros.
-/

namespace OpenBic.Mctp

open List

def hdrSize : Nat := 4

def msgAssemblyBufSize : Nat := 1024

def readBufSize : Nat := 256

def nullEid : UInt8 := 0

/-- `MCTP_HDR_HDR_VER`. -/
def hdrVersion : UInt8 := 1

/-- `mctp_hdr`. -/
structure Hdr where
  hdrVer : UInt8
  destEp : UInt8
  srcEp : UInt8
  /-- `msg_tag`, three bits. -/
  msgTag : Fin 8
  /-- `to`, the tag owner bit. -/
  tagOwner : Bool
  /-- `pkt_seq`, two bits. -/
  pktSeq : Fin 4
  eom : Bool
  som : Bool

/-- `flags_seq_to_tag`, the bit fields from the lowest bit on. -/
def Hdr.flags (hdr : Hdr) : UInt8 :=
  UInt8.ofNat (hdr.msgTag + 8 * hdr.tagOwner.toNat + 16 * hdr.pktSeq + 64 * hdr.eom.toNat +
    128 * hdr.som.toNat)

def Hdr.bytes (hdr : Hdr) : List UInt8 := [hdr.hdrVer, hdr.destEp, hdr.srcEp, hdr.flags]

/-- The header at the start of a zeroed buffer into which the bytes were read. -/
def readHdr (bytes : List UInt8) : Hdr :=
  let flags := (bytes.getD 3 0).toNat
  { hdrVer := bytes.getD 0 0
    destEp := bytes.getD 1 0
    srcEp := bytes.getD 2 0
    msgTag := ⟨flags % 8, Nat.mod_lt _ (by decide)⟩
    tagOwner := flags / 8 % 2 == 1
    pktSeq := ⟨flags / 16 % 4, Nat.mod_lt _ (by decide)⟩
    eom := flags / 64 % 2 == 1
    som := flags / 128 % 2 == 1 }

theorem readHdr_bytes (hdr : Hdr) (data : List UInt8) : readHdr (hdr.bytes ++ data) = hdr := by
  obtain ⟨version, dest, src, tag, owner, seq, eom, som⟩ := hdr
  have ownerBit := Bool.toNat_lt owner
  have lastBit := Bool.toNat_lt eom
  have firstBit := Bool.toNat_lt som
  have flags : (tag + 8 * owner.toNat + 16 * seq + 64 * eom.toNat + 128 * som.toNat) % 256 =
      tag + 8 * owner.toNat + 16 * seq + 64 * eom.toNat + 128 * som.toNat :=
    Nat.mod_eq_of_lt (by omega)
  simp only [readHdr, Hdr.bytes, Hdr.flags, cons_append, nil_append,
    getD_cons_zero, getD_cons_succ, UInt8.toNat_ofNat', Nat.reducePow, flags,
    Hdr.mk.injEq, true_and, Fin.ext_iff]
  refine ⟨by omega, ?_, by omega, ?_, ?_⟩
  · cases owner <;>
      simp only [Bool.toNat_true, Bool.toNat_false, beq_iff_eq, beq_eq_false_iff_ne] <;>
      omega
  · cases eom <;> simp only [Bool.toNat_true, Bool.toNat_false, beq_iff_eq,
      beq_eq_false_iff_ne] <;> omega
  · cases som <;> simp only [Bool.toNat_true, Bool.toNat_false, beq_iff_eq,
      beq_eq_false_iff_ne] <;> omega

/-- The index of an assembly slot: message tag and tag owner. -/
abbrev Key := Fin 8 × Bool

/-- A received packet: what one `read_data` call put into the read buffer. -/
structure Packet where
  bytes : List UInt8
  nonempty : 0 < bytes.length
  fits : bytes.length ≤ readBufSize
deriving DecidableEq

namespace Packet

def hdr (packet : Packet) : Hdr := readHdr packet.bytes

def key (packet : Packet) : Key := (packet.hdr.msgTag, packet.hdr.tagOwner)

def payload (packet : Packet) : List UInt8 := packet.bytes.drop hdrSize

end Packet

/-- The transport part of `mctp_ext_params`. -/
structure ExtParams where
  tagOwner : UInt8
  msgTag : UInt8
  ep : UInt8

end OpenBic.Mctp
