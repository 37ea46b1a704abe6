import OpenBic.Pldm.Receive
import OpenBic.Pldm.SensorEvent

/-!
# PLDM commands

What `mctp_pldm_cmd_handler` hands to the handler of a command: a buffer of `PLDM_MAX_DATA_SIZE`
bytes that is zero behind the header of the response. The handler writes behind the header and says
how many bytes of that are the response.
-/

namespace OpenBic.Pldm.Command

open List Library.Checked
open OpenBic.Pldm.Receive (hdrLen)
open OpenBic.Pldm.SensorEvent (pldmSuccess)

/-- What a build makes of the response buffer. -/
structure Build where
  maxDataSize : Nat
  /-- No build has less than `PLDM_MAX_DATA_SIZE_DEFAULT`. -/
  enough : 512 ≤ maxDataSize
  narrow : maxDataSize < 2 ^ 16

/-- The build with `PLDM_MAX_DATA_SIZE_DEFAULT`. -/
def Build.default : Build := { maxDataSize := 512, enough := by decide, narrow := by decide }

/-- The header of a response. -/
structure Header where
  bytes : List UInt8
  sized : bytes.length = hdrLen

def Header.zero : Header := ⟨List.replicate hdrLen 0, length_replicate⟩

/-- `resp_buf` as a handler gets it: zero behind the header. -/
def respBuf (build : Build) (hdr : Header) : Buffer build.maxDataSize :=
  ⟨hdr.bytes ++ List.replicate (build.maxDataSize - hdrLen) 0, by
    have enough := build.enough
    rw [length_append, hdr.sized, length_replicate, hdrLen]
    omega⟩

/-- A response: the buffer and `resp_len`. -/
structure Response (size : Nat) where
  respBuf : Buffer size
  respLen : Nat

variable {size : Nat} {build : Build}

def Response.sent (response : Response size) : Option (List UInt8) :=
  response.respBuf.read hdrLen response.respLen

def complete (respBuf : Buffer size) (code : UInt8) (respLen : Nat) : Option (Response size) := do
  let respBuf ← respBuf.write hdrLen [code]
  some ⟨respBuf, respLen⟩

theorem complete_code {respBuf : Buffer size} (code : UInt8) {respLen : Nat}
    (room : hdrLen + respLen ≤ size) (nonempty : 0 < respLen) :
    Returns (complete respBuf code respLen) fun response =>
      ∃ data, response.sent = some data ∧ data.getD 0 0 = code := by
  obtain ⟨after, wrote, -⟩ := respBuf.write_eq [code] (show hdrLen + 1 ≤ size by omega)
  have first := (Buffer.holds_write wrote).take_drop
  refine ⟨⟨after, respLen⟩, Option.bind_eq_some_iff.mpr ⟨after, wrote, rfl⟩, _,
    Buffer.read_eq room, ?_⟩
  obtain ⟨behind, rfl⟩ := Nat.exists_eq_succ_of_ne_zero (Nat.ne_of_gt nonempty)
  cases content : after.bytes.drop hdrLen with
  | nil => simp [content] at first
  | cons byte rest =>
    rw [content] at first
    exact (List.cons.inj first).1

theorem holds_respBuf (hdr : Header) {place count : Nat} (behind : hdrLen ≤ place)
    (inside : place + count ≤ build.maxDataSize) :
    (respBuf build hdr).Holds place (List.replicate count 0) := by
  apply Buffer.holds_of_eq (by rw [length_replicate]; exact inside)
  have sized := hdr.sized
  rw [respBuf, length_replicate, drop_append, drop_of_length_le (by omega),
    nil_append, drop_replicate, take_replicate]
  congr 1
  omega

end OpenBic.Pldm.Command
