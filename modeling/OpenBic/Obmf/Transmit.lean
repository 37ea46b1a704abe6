import OpenBic.Obmf.Receive
import OpenBic.Library.Tiling
import Mathlib.Data.List.TakeWhile

/-!
# OBMF packets

How `obmf_tx_thread` cuts a message into packets, and how `obmf_ringbuf_read` finds the packets
again in the ring buffer, where their boundaries are lost.
-/

namespace OpenBic.Obmf

open List Library.Tiling

def maxPayloadPerFragment (mps : Nat) : Nat := mps - headerSize

/-- `num_fragments`: a message that is only a header is one packet. -/
def numFragments (mps payloadLen : Nat) : Nat :=
  let count := (payloadLen + maxPayloadPerFragment mps - 1) / maxPayloadPerFragment mps
  if count = 0 then 1 else count

def fragPayloadLen (mps payloadLen index : Nat) : Nat :=
  let remaining := payloadLen - index * maxPayloadPerFragment mps
  if remaining < maxPayloadPerFragment mps then remaining else maxPayloadPerFragment mps

/-- The header of a packet: the first keeps the size of the message, the others have their own. -/
def fragHdr (mps : Nat) (msg : List UInt8) (index : Nat) : Header :=
  if 0 < index then
    { readHeader msg with size := UInt16.ofNat (fragPayloadLen mps (payload msg).length index) }
  else readHeader msg

/-- A packet of a message, as it is passed to `obmf_transport_send`. -/
def fragment (mps : Nat) (msg : List UInt8) (index : Nat) : List UInt8 :=
  (fragHdr mps msg index).bytes ++
    ((payload msg).drop (index * maxPayloadPerFragment mps)).take
      (fragPayloadLen mps (payload msg).length index)

/-- `obmf_tx_thread` on one message, given which calls of `obmf_transport_send` succeed: the
packets that are sent, and whether one failed. A message without a header is dropped. -/
def txThread (mps : Nat) (msg : List UInt8) (sends : Nat → Bool) :
    Option (List (List UInt8) × Bool) :=
  if msg.length < headerSize then none
  else
    let count := numFragments mps (payload msg).length
    let sent := (List.range count).takeWhile sends
    some (sent.map (fragment mps msg), decide (sent.length < count))

def fragments (mps : Nat) (msg : List UInt8) : List (List UInt8) :=
  (List.range (numFragments mps (payload msg).length)).map (fragment mps msg)

theorem txThread_all (mps : Nat) {msg : List UInt8} (whole : headerSize ≤ msg.length) :
    txThread mps msg (fun _ => true) = some (fragments mps msg, false) := by
  have all (list : List Nat) : list.takeWhile (fun _ => true) = list := by
    simp
  simp [txThread, Nat.not_lt.mpr whole, all, fragments]

def ringbufSize : Nat := 4096

/-- `obmf_out_cb`: what does not fit is dropped. -/
def outCb (ring data : List UInt8) : List UInt8 := ring ++ data.take (ringbufSize - ring.length)

/-- `msg_len` in `obmf_ringbuf_read`: the packet's length by its header, at most a USB packet and
at most what there is. -/
def msgLen (mps : Nat) (ring : List UInt8) : Nat :=
  min (min (headerSize + (readHeader ring).size.toNat) mps) ring.length

/-- `obmf_ringbuf_read` with a buffer of `len` bytes: the packet it returns and what is left. -/
def ringbufRead (mps : Nat) (ring : List UInt8) (len : Nat) : List UInt8 × List UInt8 :=
  if ring.length = 0 then ([], ring)
  else if ring.length < headerSize then ([], [])
  else if len < headerSize then ([], ring.drop headerSize)
  else
    let size := headerSize + min (msgLen mps ring - headerSize) (len - headerSize)
    (ring.take size, ring.drop size)

/-- A packet whose length is that of its header, or a whole USB packet if that is shorter. -/
def Framed (mps : Nat) (bytes : List UInt8) : Prop :=
  headerSize ≤ bytes.length ∧
    bytes.length = min (headerSize + (readHeader bytes).size.toNat) mps

instance (mps : Nat) (bytes : List UInt8) : Decidable (Framed mps bytes) := by
  unfold Framed
  infer_instance

section Framing

variable (endpoint : Endpoint)

theorem ringbufRead_framed {bytes : List UInt8} (rest : List UInt8)
    (framed : Framed endpoint.mps bytes) :
    ringbufRead endpoint.mps (bytes ++ rest) endpoint.mps = (bytes, rest) := by
  obtain ⟨whole, exact⟩ := framed
  have length : (bytes ++ rest).length = bytes.length + rest.length := length_append
  have positive : (0 : Nat) < headerSize := by decide
  have size : headerSize + min (msgLen endpoint.mps (bytes ++ rest) - headerSize)
      (endpoint.mps - headerSize) = bytes.length := by
    rw [msgLen, readHeader_append rest whole, length]
    omega
  rw [ringbufRead, if_neg (by omega), if_neg (by omega), if_neg (by omega)]
  simp only [size, take_left', drop_left']

end Framing

section Sizes

variable {mps payloadLen index : Nat}

theorem fragPayloadLen_eq (mps payloadLen index : Nat) : fragPayloadLen mps payloadLen index =
    min (payloadLen - index * maxPayloadPerFragment mps) (maxPayloadPerFragment mps) := by
  simp only [fragPayloadLen]
  split <;> omega

theorem numFragments_pos (mps payloadLen : Nat) : 0 < numFragments mps payloadLen := by
  simp only [numFragments]
  split
  · exact Nat.one_pos
  · rename_i several
    exact Nat.pos_of_ne_zero several

theorem full_of_not_last (index : Nat) (positive : 0 < maxPayloadPerFragment mps)
    (early : index + 1 < numFragments mps payloadLen) :
    (index + 1) * maxPayloadPerFragment mps < payloadLen := by
  simp only [numFragments] at early
  split at early
  · omega
  · have below := (Nat.le_div_iff_mul_le positive).mp (Nat.succ_le_of_lt early)
    rw [Nat.succ_mul] at below
    omega

theorem covered (payloadLen : Nat) (positive : 0 < maxPayloadPerFragment mps) :
    payloadLen ≤ numFragments mps payloadLen * maxPayloadPerFragment mps := by
  simp only [numFragments]
  split
  · rename_i none
    rw [Nat.div_eq_zero_iff] at none
    omega
  · have above := Nat.lt_div_mul_add (a := payloadLen + maxPayloadPerFragment mps - 1) positive
    omega

end Sizes

end OpenBic.Obmf
