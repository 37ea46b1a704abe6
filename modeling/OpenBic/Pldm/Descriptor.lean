import OpenBic.Library.Hex
import OpenBic.Library.Checked
import OpenBic.Library.Reading
import OpenBic.Obmf.Message
import OpenBic.Pldm.Command

/-!
# Device descriptors

`plat_pldm_query_device_identifiers` of the platform with a table of descriptors, over
`fill_descriptor_into_buf` of `pldm_firmware_update.c`. A descriptor is put together in an array of
forty-five bytes and copied behind those before it. One that cannot be put together is left out,
and is counted all the same.
-/

namespace OpenBic.Pldm.Descriptor

open List Library.Checked Library.Hex Library.Number Library.Reading OpenBic.Pldm.Command
open OpenBic.Obmf (bytes16 read16 ofNat_bytes16)
open OpenBic.Pldm.Receive (hdrLen)
open OpenBic.Pldm.SensorEvent (pldmSuccess)

/-! ## The descriptors -/

/-- `struct pldm_descriptor_string`. A string is its characters, and may be missing. -/
structure DescriptorString where
  descriptorType : UInt16
  titleString : Option (List UInt8)
  descriptorData : Option (List UInt8)

def vendorDefined : UInt16 := 0xFFFF

def getDescriptorTypeLength (type : UInt16) : Option Nat :=
  if type = 0x0000 then some 2
  else if type = 0x0001 then some 4
  else if type = 0x0100 then some 2
  else if type = 0x0106 then some 40
  else if type = 0x0107 then some 10
  else none

/-- A platform with a table of descriptors. -/
structure DescriptorPlatform extends Build where
  table : List DescriptorString
  /-- `bic_descriptors_count` has eight bits. -/
  counted : table.length < 256

/-! ## The code -/

variable {size : Nat}

/-- `get_device_single_descriptor_length`, which has no result for a string that is missing. -/
def getDeviceSingleDescriptorLength (descriptor : DescriptorString) : Option Nat := do
  if descriptor.descriptorType ≠ vendorDefined then
    let data ← descriptor.descriptorData
    return 4 + data.length
  else
    let title ← descriptor.titleString
    let data ← descriptor.descriptorData
    return 6 + title.length + data.length

/-- The bytes of pairs of characters, each read by `strtol`. -/
def convert : List UInt8 → List UInt8
  | high :: low :: rest => UInt8.ofInt (numeral [high, low]) :: convert rest
  | _ => []

abbrev DataPtr : Type := Buffer 45

/-- What `fill_descriptor_into_buf` puts into `data_ptr` for a vendor-defined descriptor. -/
def putVendorDefined (title data : List UInt8) : Option DataPtr := do
  let titleLength := UInt8.ofNat title.length
  let dataPtr ← (Buffer.zero 45).write 0 (bytes16 vendorDefined ++
    bytes16 (UInt16.ofNat (2 + title.length + data.length)) ++ [1, titleLength])
  let dataPtr ← dataPtr.write 6 (title.take titleLength.toNat)
  dataPtr.write (6 + titleLength.toNat) data

/-- `fill_descriptor_into_buf`: the buffer and `fill_length`, or an error. -/
def fillDescriptorIntoBuf (maxDataSize : Nat) (descriptor : DescriptorString)
    (buf : Buffer size) (place currentLength : Nat) : Option (Option (Buffer size × Nat)) := do
  let length ← getDeviceSingleDescriptorLength descriptor
  -- `descriptor_count` has eight bits.
  let descriptorCount := length % 256
  if maxDataSize < currentLength + descriptorCount then return none
  if descriptor.descriptorType ≠ vendorDefined then
    let data ← descriptor.descriptorData
    match getDescriptorTypeLength descriptor.descriptorType with
    | none => return none
    | some typeLength =>
      if data.length / 2 ≠ typeLength ∨ data.length % 2 ≠ 0 then return none
      let fillLength := (descriptorCount + 256 - typeLength) % 256
      let dataPtr ← (Buffer.zero 45).write 0 (bytes16 descriptor.descriptorType ++
        bytes16 (UInt16.ofNat typeLength) ++ convert data)
      let bytes ← dataPtr.read 0 fillLength
      let buf ← buf.write place bytes
      return some (buf, fillLength)
  else
    match descriptor.titleString with
    | none => return none
    | some title =>
      let data ← descriptor.descriptorData
      let dataPtr ← putVendorDefined title data
      let bytes ← dataPtr.read 0 descriptorCount
      let buf ← buf.write place bytes
      return some (buf, descriptorCount)

/-- A response that is being put together. -/
structure Draft (size : Nat) where
  respBuf : Buffer size
  /-- `total_size_of_descriptor`, which has sixteen bits as every length in the buffer. -/
  total : Nat

def fillAll (maxDataSize : Nat) : List DescriptorString → Draft size → Option (Draft size)
  | [], draft => some draft
  | descriptor :: rest, draft => do
    let filled ← fillDescriptorIntoBuf maxDataSize descriptor draft.respBuf
      (hdrLen + 6 + draft.total) draft.total
    match filled with
    | none => fillAll maxDataSize rest draft
    | some (respBuf, length) => fillAll maxDataSize rest ⟨respBuf, draft.total + length⟩

def platPldmQueryDeviceIdentifiers (platform : DescriptorPlatform)
    (respBuf : Buffer platform.maxDataSize) : Option (Response platform.maxDataSize) := do
  let draft ← fillAll platform.maxDataSize platform.table ⟨respBuf, 0⟩
  let respBuf ← draft.respBuf.write (hdrLen + 1)
    (digits draft.total 4 ++ [UInt8.ofNat platform.table.length])
  complete respBuf pldmSuccess (6 + draft.total)

/-! ## What is claimed -/

/-- A descriptor as a receiver sees it. -/
inductive Tlv where
  | standard (type : UInt16) (value : List UInt8)
  | vendorDefined (titleType : UInt8) (title data : List UInt8)

/-- What a receiver is to see of a descriptor: a title and its text, or the bytes that hexadecimal
digits stand for. -/
def intended (descriptor : DescriptorString) : Option Tlv := do
  let data ← descriptor.descriptorData
  if descriptor.descriptorType = vendorDefined then
    let title ← descriptor.titleString
    return .vendorDefined 1 title data
  else
    let value ← decode data
    return .standard descriptor.descriptorType value

def readTlv : Taker Tlv := fun data => do
  let (head, data) ← front 4 data
  let (value, data) ← front (read16 head 2).toNat data
  if read16 head 0 = vendorDefined then
    let (fields, text) ← front 2 value
    let (title, text) ← front (fields.getD 1 0).toNat text
    return (.vendorDefined (fields.getD 0 0) title text, data)
  else return (.standard (read16 head 0) value, data)

/-- A receiver reads as many descriptors as a response counts, and nothing is left of the length
that it declares. -/
def readIdentifiers (data : List UInt8) : Option (List Tlv) := do
  let length ← fieldAt data 1 4
  let count ← byteAt data 5
  if data.length ≠ 6 + length then none
  let (tlvs, rest) ← many readTlv count.toNat (data.drop 6)
  if rest = [] then return tlvs else none

/-- The descriptors are put together and appended inside their arrays, and a receiver reads exactly
those of the table. -/
def Reported (platform : DescriptorPlatform) : Prop :=
  ∀ hdr, Returns (platPldmQueryDeviceIdentifiers platform (respBuf platform.toBuild hdr))
    fun response => ∃ data tlvs, response.sent = some data ∧
      platform.table.mapM intended = some tlvs ∧ readIdentifiers data = some tlvs

def growth (descriptor : DescriptorString) : Nat :=
  if descriptor.descriptorType = vendorDefined then
    6 + (descriptor.titleString.getD []).length + (descriptor.descriptorData.getD []).length
  else 4 + (descriptor.descriptorData.getD []).length / 2

/-- The bytes that the size guard counts, which takes two for each byte of a standard one. -/
def guarded (descriptor : DescriptorString) : Nat :=
  if descriptor.descriptorType = vendorDefined then growth descriptor
  else 4 + (descriptor.descriptorData.getD []).length

/-- A descriptor that can be put together: the digits of a known type, or a title and a text that
fit into the array. -/
def WellFormed (descriptor : DescriptorString) : Prop :=
  if descriptor.descriptorType = vendorDefined then
    descriptor.titleString.isSome ∧ descriptor.descriptorData.isSome ∧ growth descriptor ≤ 45
  else ∃ data value, descriptor.descriptorData = some data ∧ decode data = some value ∧
    getDescriptorTypeLength descriptor.descriptorType = some value.length

/-- Behind so many bytes, every descriptor can be put together, passes the size guard and is inside
the response buffer, header included. -/
def Fits (maxDataSize : Nat) : Nat → List DescriptorString → Prop
  | _, [] => True
  | total, descriptor :: rest =>
    WellFormed descriptor ∧ total + guarded descriptor ≤ maxDataSize ∧
      hdrLen + 6 + total + growth descriptor ≤ maxDataSize ∧
        Fits maxDataSize (total + growth descriptor) rest

/-! ## One descriptor -/

variable {descriptor : DescriptorString} {title data value : List UInt8} {maxDataSize : Nat}

theorem convert_eq (decoded : decode data = some value) : convert data = value := by
  induction data using decode.induct generalizing value with
  | case1 =>
    cases decoded
    rfl
  | case2 char => cases decoded
  | case3 high low rest ih =>
    obtain ⟨highValue, first, decoded⟩ := Option.bind_eq_some_iff.mp decoded
    obtain ⟨lowValue, second, decoded⟩ := Option.bind_eq_some_iff.mp decoded
    obtain ⟨behind, later, same⟩ := Option.bind_eq_some_iff.mp decoded
    cases same
    have same : UInt8.ofInt ((highValue * 16 + lowValue : Nat) : Int) =
        UInt8.ofNat (highValue * 16 + lowValue) := UInt8.ofNat_mod_size
    rw [convert, ih later, numeral_pair first second, same]

def standardBytes (type : UInt16) (value : List UInt8) : List UInt8 :=
  bytes16 type ++ bytes16 (UInt16.ofNat value.length) ++ value

def vendorBytes (title data : List UInt8) : List UInt8 :=
  bytes16 vendorDefined ++ bytes16 (UInt16.ofNat (2 + title.length + data.length)) ++
    [1, UInt8.ofNat title.length] ++ (title ++ data)

@[simp]
theorem length_standardBytes (type : UInt16) (value : List UInt8) :
    (standardBytes type value).length = 4 + value.length := by
  simp [standardBytes, bytes16]
  omega

@[simp]
theorem length_vendorBytes (title data : List UInt8) :
    (vendorBytes title data).length = 6 + title.length + data.length := by
  simp [vendorBytes, bytes16]
  omega

theorem read16_head (type length : UInt16) :
    read16 (bytes16 type ++ bytes16 length) 0 = type ∧
      read16 (bytes16 type ++ bytes16 length) 2 = length :=
  ⟨ofNat_bytes16 type, ofNat_bytes16 length⟩

theorem reads_standardBytes {type : UInt16} (standard : type ≠ vendorDefined)
    (short : value.length < 2 ^ 16) :
    Reads readTlv (standardBytes type value) (.standard type value) := by
  intro behind
  obtain ⟨sameType, sameLength⟩ := read16_head type (UInt16.ofNat value.length)
  unfold readTlv standardBytes
  rw [append_assoc, reads_front (show (_ ++ _ : List UInt8).length = 4 from rfl),
    Option.bind_eq_bind, Option.bind_some]
  dsimp only
  rw [sameType, sameLength, UInt16.toNat_ofNat_of_lt' short, reads_front rfl, Option.bind_some,
    if_neg standard]
  rfl

theorem reads_vendorBytes (shortTitle : title.length < 256)
    (short : 2 + title.length + data.length < 2 ^ 16) :
    Reads readTlv (vendorBytes title data) (.vendorDefined 1 title data) := by
  intro behind
  obtain ⟨sameType, sameLength⟩ := read16_head vendorDefined
    (UInt16.ofNat (2 + title.length + data.length))
  have shape : vendorBytes title data ++ behind =
      (bytes16 vendorDefined ++ bytes16 (UInt16.ofNat (2 + title.length + data.length))) ++
        (([1, UInt8.ofNat title.length] ++ (title ++ data)) ++ behind) := by
    simp only [vendorBytes, append_assoc]
  have sized : ([1, UInt8.ofNat title.length] ++ (title ++ data)).length =
      2 + title.length + data.length := by
    simp only [length_append, length_cons, length_nil]
    omega
  rw [shape]
  unfold readTlv
  rw [reads_front (show (_ ++ _ : List UInt8).length = 4 from rfl), Option.bind_eq_bind,
    Option.bind_some]
  dsimp only
  rw [sameType, sameLength, UInt16.toNat_ofNat_of_lt' short, reads_front sized, Option.bind_some,
    if_pos rfl]
  rw [reads_front (show [_, _].length = 2 from rfl), Option.bind_some]
  have told : title.length = ([1, UInt8.ofNat title.length].getD 1 0).toNat :=
    (UInt8.toNat_ofNat_of_lt' shortTitle).symm
  rw [reads_front told]
  rfl

def chunk (descriptor : DescriptorString) : List UInt8 :=
  if descriptor.descriptorType = vendorDefined then
    vendorBytes (descriptor.titleString.getD []) (descriptor.descriptorData.getD [])
  else standardBytes descriptor.descriptorType (convert (descriptor.descriptorData.getD []))

theorem title_whole (title : List UInt8) (shortTitle : title.length < 256) :
    (UInt8.ofNat title.length).toNat = title.length ∧
      title.take (UInt8.ofNat title.length).toNat = title := by
  have same : (UInt8.ofNat title.length).toNat = title.length :=
    UInt8.toNat_ofNat_of_lt' shortTitle
  exact ⟨same, by rw [same, take_length]⟩

theorem putVendorDefined_eq (fits : 6 + title.length + data.length ≤ 45) :
    ∃ dataPtr, putVendorDefined title data = some dataPtr ∧
      dataPtr.Holds 0 (vendorBytes title data) := by
  obtain ⟨same, whole⟩ := title_whole title (by omega)
  unfold putVendorDefined
  dsimp only
  rw [whole, same]
  have head : (bytes16 vendorDefined ++ bytes16 (UInt16.ofNat (2 + title.length + data.length)) ++
      [1, UInt8.ofNat title.length]).length = 6 := rfl
  obtain ⟨first, wrote, -⟩ := (Buffer.zero 45).write_eq _ (show 0 + _ ≤ 45 by rw [head]; omega)
  obtain ⟨second, again, -⟩ := first.write_eq title (show 6 + title.length ≤ 45 by omega)
  obtain ⟨third, last, -⟩ := second.write_eq data
    (show 6 + title.length + data.length ≤ 45 by omega)
  have front := ((Buffer.holds_write wrote).write_apart again (.inr (Nat.le_refl 6))).write_apart
    last (.inr (Nat.le_add_right 6 _))
  have middle := (Buffer.holds_write again).write_apart last (.inr le_rfl)
  have behind := middle.append (Buffer.holds_write last)
  refine ⟨third, ?_, front.append behind⟩
  rw [wrote, Option.bind_eq_bind, Option.bind_some, again, Option.bind_some, last]

theorem putVendorDefined_some {dataPtr : DataPtr} (shortTitle : title.length < 256)
    (put : putVendorDefined title data = some dataPtr) :
    6 + title.length + data.length ≤ 45 := by
  obtain ⟨same, whole⟩ := title_whole title shortTitle
  unfold putVendorDefined at put
  dsimp only at put
  rw [whole, same] at put
  obtain ⟨first, -, put⟩ := Option.bind_eq_some_iff.mp put
  obtain ⟨second, -, last⟩ := Option.bind_eq_some_iff.mp put
  exact (Buffer.write_some last).1

theorem getDescriptorTypeLength_le {type : UInt16} {length : Nat}
    (known : getDescriptorTypeLength type = some length) : length ≤ 40 := by
  unfold getDescriptorTypeLength at known
  grind

theorem fill_vendorDefined (buf : Buffer size) (place currentLength : Nat)
    (fits : 6 + title.length + data.length ≤ 45) :
    fillDescriptorIntoBuf maxDataSize ⟨vendorDefined, some title, some data⟩ buf place
        currentLength =
      if maxDataSize < currentLength + (6 + title.length + data.length) then some none
      else (buf.write place (vendorBytes title data)).map fun after =>
        some (after, 6 + title.length + data.length) := by
  have narrow : (6 + title.length + data.length) % 256 = 6 + title.length + data.length :=
    Nat.mod_eq_of_lt (by omega)
  obtain ⟨dataPtr, put, holds⟩ := putVendorDefined_eq fits
  rw [Buffer.Holds, length_vendorBytes] at holds
  unfold fillDescriptorIntoBuf getDeviceSingleDescriptorLength
  simp only [ne_eq, not_true_eq_false, if_false, Option.bind_eq_bind, Option.bind_some,
    Option.pure_def, narrow, put, holds]
  split
  · rfl
  · cases buf.write place (vendorBytes title data) <;> rfl

theorem fill_standard (buf : Buffer size) (place currentLength : Nat) {type : UInt16}
    (standard : type ≠ vendorDefined) (title : Option (List UInt8))
    (decoded : decode data = some value)
    (known : getDescriptorTypeLength type = some value.length) :
    fillDescriptorIntoBuf maxDataSize ⟨type, title, some data⟩ buf place currentLength =
      if maxDataSize < currentLength + (4 + data.length) then some none
      else (buf.write place (standardBytes type value)).map fun after =>
        some (after, 4 + value.length) := by
  have short := getDescriptorTypeLength_le known
  have pairs := length_decode decoded
  have narrow : (4 + data.length) % 256 = 4 + data.length := Nat.mod_eq_of_lt (by omega)
  have fill : (4 + data.length + 256 - value.length) % 256 = 4 + value.length := by omega
  have half : data.length / 2 = value.length := by omega
  have even : data.length % 2 = 0 := by omega
  have shape : bytes16 type ++ bytes16 (UInt16.ofNat value.length) ++ convert data =
      standardBytes type value := by rw [convert_eq decoded, standardBytes]
  obtain ⟨dataPtr, put, -⟩ := (Buffer.zero 45).write_eq (standardBytes type value)
    (show 0 + _ ≤ 45 by rw [length_standardBytes]; omega)
  have holds := Buffer.holds_write put
  rw [Buffer.Holds, length_standardBytes] at holds
  unfold fillDescriptorIntoBuf getDeviceSingleDescriptorLength
  simp only [ne_eq, standard, not_false_eq_true, if_true, Option.bind_eq_bind, Option.bind_some,
    Option.pure_def, narrow, known, half, even, not_true_eq_false, or_self, if_false, shape, put,
    fill, holds]
  split
  · rfl
  · cases buf.write place (standardBytes type value) <;> rfl

theorem fill_wellFormed (buf : Buffer size) (place currentLength : Nat)
    (well : WellFormed descriptor) :
    fillDescriptorIntoBuf maxDataSize descriptor buf place currentLength =
      if maxDataSize < currentLength + guarded descriptor then some none
      else (buf.write place (chunk descriptor)).map fun after =>
        some (after, growth descriptor) := by
  obtain ⟨type, title, data⟩ := descriptor
  by_cases vendor : type = vendorDefined
  · subst vendor
    obtain ⟨titled, texted, fits⟩ := well
    obtain ⟨title, rfl⟩ := Option.isSome_iff_exists.mp titled
    obtain ⟨data, rfl⟩ := Option.isSome_iff_exists.mp texted
    exact fill_vendorDefined buf place currentLength fits
  · unfold WellFormed at well
    rw [if_neg vendor] at well
    obtain ⟨data, value, rfl, decoded, known⟩ := well
    have pairs := length_decode decoded
    have half : data.length / 2 = value.length := by omega
    unfold guarded growth chunk
    rw [if_neg vendor, if_neg vendor, if_neg vendor]
    dsimp only [Option.getD_some]
    rw [convert_eq decoded, half]
    exact fill_standard buf place currentLength vendor title decoded known

/-- A descriptor that a receiver could see, and whose title has a length of eight bits, is
well-formed when it is copied. -/
theorem wellFormed_of_fill {buf : Buffer size} {place currentLength : Nat}
    {filled : Buffer size × Nat} (visible : (intended descriptor).isSome)
    (shortTitle : descriptor.descriptorType = vendorDefined →
      ∀ title ∈ descriptor.titleString, title.length < 256)
    (ran : fillDescriptorIntoBuf maxDataSize descriptor buf place currentLength =
      some (some filled)) : WellFormed descriptor := by
  obtain ⟨type, title, data⟩ := descriptor
  obtain ⟨tlv, visible⟩ := Option.isSome_iff_exists.mp visible
  obtain ⟨data, rfl, visible⟩ := Option.bind_eq_some_iff.mp visible
  unfold WellFormed
  obtain ⟨length, -, ran⟩ := Option.bind_eq_some_iff.mp ran
  dsimp only at ran visible
  split at ran
  · exact absurd (Option.some.inj ran) (by simp)
  · by_cases vendor : type = vendorDefined
    · rw [if_pos vendor] at visible ⊢
      obtain ⟨title, rfl, -⟩ := Option.bind_eq_some_iff.mp visible
      rw [if_neg (not_not.mpr vendor)] at ran
      obtain ⟨text, same, ran⟩ := Option.bind_eq_some_iff.mp ran
      obtain rfl : data = text := Option.some.inj same
      obtain ⟨dataPtr, put, -⟩ := Option.bind_eq_some_iff.mp ran
      have fits := putVendorDefined_some (shortTitle vendor title rfl) put
      unfold growth
      rw [if_pos vendor]
      exact ⟨rfl, rfl, fits⟩
    · rw [if_neg vendor] at visible ⊢
      obtain ⟨value, decoded, -⟩ := Option.bind_eq_some_iff.mp visible
      refine ⟨data, value, rfl, decoded, ?_⟩
      rw [if_pos vendor] at ran
      obtain ⟨text, same, ran⟩ := Option.bind_eq_some_iff.mp ran
      obtain rfl : data = text := Option.some.inj same
      have pairs := length_decode decoded
      cases known : getDescriptorTypeLength type with
      | none =>
        simp only [known] at ran
        exact absurd (Option.some.inj ran) (by simp)
      | some typeLength =>
        simp only [known] at ran
        split at ran
        · exact absurd (Option.some.inj ran) (by simp)
        · congr 1
          omega

/-- A well-formed descriptor is read back from its bytes, as many as it takes. -/
theorem reads_chunk (well : WellFormed descriptor) :
    (chunk descriptor).length = growth descriptor ∧
      ∃ tlv, intended descriptor = some tlv ∧ Reads readTlv (chunk descriptor) tlv := by
  obtain ⟨type, title, data⟩ := descriptor
  unfold WellFormed at well
  unfold chunk growth intended
  by_cases vendor : type = vendorDefined
  · rw [if_pos vendor] at well ⊢
    obtain ⟨titled, texted, fits⟩ := well
    obtain ⟨title, rfl⟩ := Option.isSome_iff_exists.mp titled
    obtain ⟨data, rfl⟩ := Option.isSome_iff_exists.mp texted
    unfold growth at fits
    rw [if_pos vendor] at fits
    dsimp only [Option.getD_some] at fits ⊢
    refine ⟨?_, .vendorDefined 1 title data, ?_, reads_vendorBytes (by omega) (by omega)⟩
    · rw [if_pos vendor, length_vendorBytes]
    · rw [Option.bind_eq_bind, Option.bind_some, if_pos vendor]
      rfl
  · rw [if_neg vendor] at well ⊢
    obtain ⟨data, value, rfl, decoded, known⟩ := well
    have pairs := length_decode decoded
    have short := getDescriptorTypeLength_le known
    dsimp only [Option.getD_some]
    rw [convert_eq decoded]
    refine ⟨?_, .standard type value, ?_, reads_standardBytes vendor (by omega)⟩
    · rw [if_neg vendor, length_standardBytes]
      omega
    · rw [Option.bind_eq_bind, Option.bind_some, if_neg vendor, decoded]
      rfl

/-! ## The loop -/

variable {draft final : Draft size} {table : List DescriptorString} {body : List UInt8}

/-- The bytes behind the fixed part, and how many they are. -/
structure Behind (draft : Draft size) (body : List UInt8) : Prop where
  holds : draft.respBuf.Holds (hdrLen + 6) body
  sized : body.length = draft.total

theorem Behind.write {after : Buffer size} (behind : Behind draft body)
    (well : WellFormed descriptor)
    (wrote : draft.respBuf.write (hdrLen + 6 + draft.total) (chunk descriptor) = some after) :
    Behind ⟨after, draft.total + growth descriptor⟩ (body ++ chunk descriptor) := by
  obtain ⟨holds, sized⟩ := behind
  rw [← sized] at wrote
  constructor
  · exact (holds.write_apart wrote (.inr le_rfl)).append (Buffer.holds_write wrote)
  · rw [length_append, sized, (reads_chunk well).1]

theorem fillAll_fits (behind : Behind draft body) (fits : Fits size draft.total table) :
    Returns (fillAll size table draft) fun final =>
      Behind final (body ++ (table.map chunk).flatten) := by
  induction table generalizing draft body with
  | nil =>
    rw [map_nil, flatten_nil, append_nil]
    exact .intro behind
  | cons descriptor rest ih =>
    obtain ⟨well, passes, inside, later⟩ := fits
    obtain ⟨after, wrote, -⟩ := draft.respBuf.write_eq (chunk descriptor)
      (show hdrLen + 6 + draft.total + _ ≤ size by rw [(reads_chunk well).1]; exact inside)
    rw [fillAll, fill_wellFormed _ _ _ well, if_neg (by omega), wrote, Option.map_some,
      Option.bind_eq_bind, Option.bind_some]
    rw [map_cons, flatten_cons, ← append_assoc]
    exact ih (behind.write well wrote) later

/-- Descriptors that a receiver could see, and whose titles have a length of eight bits. -/
structure Visible (descriptor : DescriptorString) : Prop where
  visible : (intended descriptor).isSome
  shortTitle : descriptor.descriptorType = vendorDefined →
    ∀ title ∈ descriptor.titleString, title.length < 256

/-- The loop appends some of the descriptors, and all of them only if they fit. -/
theorem fillAll_taken (behind : Behind draft body) (seen : ∀ each ∈ table, Visible each)
    (ran : fillAll size table draft = some final) :
    ∃ taken : List DescriptorString, taken.Sublist table ∧ (∀ each ∈ taken, WellFormed each) ∧
      Behind final (body ++ (taken.map chunk).flatten) ∧
      (taken.length = table.length → Fits size draft.total table) := by
  induction table generalizing draft body with
  | nil =>
    cases ran
    refine ⟨[], .slnil, by simp, ?_, fun _ => trivial⟩
    rw [map_nil, flatten_nil, append_nil]
    exact behind
  | cons descriptor rest ih =>
    have seenRest : ∀ each ∈ rest, Visible each :=
      fun each listed => seen each (mem_cons_of_mem _ listed)
    obtain ⟨filled, fill, ran⟩ := Option.bind_eq_some_iff.mp ran
    cases filled with
    | none =>
      obtain ⟨taken, sub, well, grown, -⟩ := ih behind seenRest ran
      refine ⟨taken, sub.cons descriptor, well, grown, fun same => ?_⟩
      have fewer := sub.length_le
      rw [length_cons] at same
      omega
    | some result =>
      have first := seen descriptor mem_cons_self
      have well := wellFormed_of_fill first.visible first.shortTitle fill
      rw [fill_wellFormed _ _ _ well] at fill
      split at fill
      · exact absurd (Option.some.inj fill) (by simp)
      · obtain ⟨after, wrote, same⟩ := Option.map_eq_some_iff.mp fill
        cases same
        obtain ⟨taken, sub, wells, grown, later⟩ := ih (behind.write well wrote) seenRest ran
        have inside := (Buffer.write_some wrote).1
        rw [(reads_chunk well).1] at inside
        refine ⟨descriptor :: taken, sub.cons_cons descriptor, ?_, ?_, fun same => ?_⟩
        · intro each listed
          cases List.mem_cons.mp listed with
          | inl here => rw [here]; exact well
          | inr there => exact wells each there
        · rw [map_cons, flatten_cons, ← append_assoc]
          exact grown
        · rw [length_cons, length_cons] at same
          exact ⟨well, by omega, inside, later (by omega)⟩

/-! ## The response -/

def responseBytes (total count : Nat) (body : List UInt8) : List UInt8 :=
  [pldmSuccess] ++ ((digits total 4 ++ [UInt8.ofNat count]) ++ body)

theorem respond_sent (behind : Behind final body) (count : Nat) :
    Returns (final.respBuf.write (hdrLen + 1) (digits final.total 4 ++ [UInt8.ofNat count]) >>=
        fun respBuf => complete respBuf pldmSuccess (6 + final.total)) fun response =>
      response.sent = some (responseBytes final.total count body) := by
  obtain ⟨holds, sized⟩ := behind
  have inside := holds.inside
  have fixed : (digits final.total 4 ++ [UInt8.ofNat count]).length = 5 := by
    rw [length_append, length_digits, length_singleton]
  obtain ⟨first, wrote, -⟩ := final.respBuf.write_eq (digits final.total 4 ++ [UInt8.ofNat count])
    (show hdrLen + 1 + _ ≤ size by omega)
  obtain ⟨second, again, -⟩ := first.write_eq [pldmSuccess] (show hdrLen + 1 ≤ size by omega)
  have code := Buffer.holds_write again
  have fields := (Buffer.holds_write wrote).write_apart again (.inl le_rfl)
  have kept := (holds.write_apart wrote (.inl (by omega))).write_apart again
    (.inl (Nat.le_add_right (hdrLen + 1) 5))
  have whole := code.append (fields.append kept)
  have long : (responseBytes final.total count body).length = 6 + final.total := by
    simp only [responseBytes, length_append, length_singleton, length_digits, sized]
    omega
  refine ⟨⟨second, 6 + final.total⟩, ?_, ?_⟩
  · rw [wrote, Option.bind_eq_bind, Option.bind_some, complete, again]
    rfl
  · show second.read hdrLen (6 + final.total) = some _
    rw [← long]
    exact whole

theorem readIdentifiers_eq {total count : Nat} (sized : body.length = total)
    (narrow : total < 256 ^ 4) (few : count < 256) :
    readIdentifiers (responseBytes total count body) =
      (many readTlv count body).bind fun result =>
        if result.2 = [] then some result.1 else none := by
  have length : fieldAt (responseBytes total count body) 1 4 = some total := by
    apply fieldAt_of_rangeAt ?_ narrow
    rfl
  have counted : byteAt (responseBytes total count body) 5 = some (UInt8.ofNat count) := rfl
  have behind : (responseBytes total count body).drop 6 = body := rfl
  have whole : (responseBytes total count body).length = 6 + total := by
    simp only [responseBytes, length_append, length_singleton, length_digits, sized]
    omega
  unfold readIdentifiers
  rw [length, counted, behind, whole]
  simp only [Option.bind_eq_bind, Option.bind_some, ne_eq, not_true_eq_false, if_false,
    UInt8.toNat_ofNat_of_lt' few]
  rfl

/-- The title's length fits its byte. -/
def ShortTitle : Tlv → Prop
  | .vendorDefined _ title _ => title.length < 256
  | .standard _ _ => True

theorem readTlv_title (data : List UInt8) (tlv : Tlv) (rest : List UInt8)
    (read : readTlv data = some (tlv, rest)) : ShortTitle tlv := by
  obtain ⟨⟨head, behind⟩, -, read⟩ := Option.bind_eq_some_iff.mp read
  obtain ⟨⟨whole, others⟩, -, read⟩ := Option.bind_eq_some_iff.mp read
  dsimp only at read
  split at read
  · obtain ⟨⟨fields, text⟩, -, read⟩ := Option.bind_eq_some_iff.mp read
    obtain ⟨⟨title, text⟩, titled, read⟩ := Option.bind_eq_some_iff.mp read
    obtain ⟨rfl, -⟩ := Prod.mk.inj (Option.some.inj read)
    show title.length < 256
    rw [length_of_front titled]
    exact UInt8.toNat_lt _
  · obtain ⟨rfl, -⟩ := Prod.mk.inj (Option.some.inj read)
    trivial

theorem readTlv_nil : readTlv [] = none := rfl

theorem visible_of_intended {tlv : Tlv} (same : intended descriptor = some tlv)
    (short : ShortTitle tlv) : Visible descriptor := by
  refine ⟨Option.isSome_iff_exists.mpr ⟨tlv, same⟩, fun vendor title titled => ?_⟩
  obtain ⟨data, -, same⟩ := Option.bind_eq_some_iff.mp same
  rw [if_pos vendor] at same
  obtain ⟨other, here, same⟩ := Option.bind_eq_some_iff.mp same
  obtain rfl : title = other := Option.mem_unique titled here
  cases same
  exact short

variable {platform : DescriptorPlatform}

theorem reads_chunks (well : ∀ each ∈ table, WellFormed each) :
    ∃ tlvs, table.mapM intended = some tlvs ∧
      List.Forall₂ (Reads readTlv) (table.map chunk) tlvs := by
  induction table with
  | nil => exact ⟨[], rfl, .nil⟩
  | cons descriptor rest ih =>
    obtain ⟨tlvs, mapped, reads⟩ := ih fun each listed => well each (mem_cons_of_mem _ listed)
    obtain ⟨-, tlv, same, first⟩ := reads_chunk (well descriptor mem_cons_self)
    refine ⟨tlv :: tlvs, ?_, .cons first reads⟩
    rw [mapM_cons, same, Option.bind_eq_bind, Option.bind_some, mapped]
    rfl

theorem wellFormed_of_fits {total : Nat} (fits : Fits maxDataSize total table) :
    ∀ each ∈ table, WellFormed each := by
  induction table generalizing total with
  | nil => simp
  | cons descriptor rest ih =>
    obtain ⟨well, -, -, later⟩ := fits
    intro each listed
    cases List.mem_cons.mp listed with
    | inl here => rw [here]; exact well
    | inr there => exact ih later each there

theorem behind_respBuf (platform : DescriptorPlatform) (hdr : Header) :
    Behind ⟨respBuf platform.toBuild hdr, 0⟩ [] := by
  have enough := platform.enough
  have four : hdrLen = 4 := rfl
  exact ⟨holds_respBuf hdr (by omega) (show hdrLen + 6 + 0 ≤ _ by omega), rfl⟩

theorem Behind.narrow {draft : Draft platform.maxDataSize} (behind : Behind draft body) :
    draft.total < 256 ^ 4 := by
  have inside := behind.holds.inside
  have narrow := platform.narrow
  have sized := behind.sized
  omega

theorem reported_of_fits (fits : Fits platform.maxDataSize 0 platform.table) :
    Reported platform := by
  intro hdr
  refine (fillAll_fits (behind_respBuf platform hdr) fits).bind fun final behind => ?_
  rw [nil_append] at behind
  obtain ⟨tlvs, mapped, reads⟩ := reads_chunks (wellFormed_of_fits fits)
  have count := length_of_mapM mapped
  refine (respond_sent behind platform.table.length).mono fun response sent => ?_
  refine ⟨_, tlvs, sent, mapped, ?_⟩
  have whole := reads_many reads []
  rw [append_nil, count] at whole
  rw [readIdentifiers_eq behind.sized behind.narrow platform.counted, whole]
  rfl

theorem visible_of_read {tlvs : List Tlv} (mapped : table.mapM intended = some tlvs)
    (read : readIdentifiers data = some tlvs) : ∀ each ∈ table, Visible each := by
  obtain ⟨length, -, read⟩ := Option.bind_eq_some_iff.mp read
  obtain ⟨count, -, read⟩ := Option.bind_eq_some_iff.mp read
  split at read
  · cases read
  · obtain ⟨⟨values, rest⟩, ran, read⟩ := Option.bind_eq_some_iff.mp read
    have short := forall_of_many readTlv_title ran
    dsimp only at read
    split at read
    · cases read
      intro each listed
      obtain ⟨tlv, member, same⟩ := exists_of_mapM mapped each listed
      exact visible_of_intended same (short tlv member)
    · cases read

theorem fits_of_reported (reported : Reported platform) :
    Fits platform.maxDataSize 0 platform.table := by
  obtain ⟨response, ran, data, tlvs, sent, mapped, read⟩ := reported Header.zero
  obtain ⟨final, filled, ran⟩ := Option.bind_eq_some_iff.mp ran
  obtain ⟨taken, sub, well, behind, fits⟩ := fillAll_taken
    (behind_respBuf platform Header.zero) (visible_of_read mapped read) filled
  rw [nil_append] at behind
  have whole := respond_sent behind platform.table.length
  have same := (ran ▸ whole).of_some
  cases sent.symm.trans same
  rw [readIdentifiers_eq behind.sized behind.narrow platform.counted] at read
  obtain ⟨values, takenMapped, reads⟩ := reads_chunks well
  have count := length_of_mapM takenMapped
  apply fits
  by_contra fewer
  have less := sub.length_le
  rw [many_short reads readTlv_nil (by omega)] at read
  cases read

/-- The descriptors are reported as they stand in the table exactly if each of them fits the buffer
that is left. -/
theorem reported_iff_fits (platform : DescriptorPlatform) :
    Reported platform ↔ Fits platform.maxDataSize 0 platform.table :=
  ⟨fits_of_reported, reported_of_fits⟩

/-- A vendor-defined descriptor with a title of eight characters and a text of thirty-two. -/
def longText : DescriptorPlatform where
  toBuild := Build.default
  table := [{ descriptorType := vendorDefined
              titleString := some [0x50, 0x6C, 0x61, 0x74, 0x66, 0x6F, 0x72, 0x6D]
              descriptorData := some (List.replicate 32 0x41) }]
  counted := by decide

/-- It is longer than the array that it is put together in. -/
theorem longText_overruns : ¬ Reported longText := by
  intro reported
  have fits := fits_of_reported reported
  have well : WellFormed _ := fits.1
  exact absurd well.2.2 (by decide +kernel)

end OpenBic.Pldm.Descriptor
