import OpenBic.Pldm.Smbios

/-!
# The BIOS version

`update_bios_information` of `kcs.c`, which makes a structure with the version that the host sends,
and `pldm_smbios_set_bios_information` and `pldm_smbios_get_bios_version` of `pldm_smbios.c`, which
store the structure and read the version. The text strings of a structure stand one behind the other
in a block of memory, each with its zero, and with another zero in the end.
-/

namespace OpenBic.Pldm.BiosVersion

open List Option Library.Checked OpenBic.Pldm.Smbios

/-! ## The code -/

/-- `smbios_bios_information`, without its strings. -/
structure BiosInformation where
  type : UInt8
  length : UInt8
  handle : UInt16
  vendor : UInt8
  biosVersion : UInt8
  biosStartingAddressSegment : UInt16
  biosReleaseDate : UInt8
  biosRomSize : UInt8
  biosCharacteristics : UInt64
  biosCharacteristicsExtensionBytes : UInt16
  systemBiosMajorRelease : UInt8
  systemBiosMinorRelease : UInt8
  embeddedControllerFirmwareMajorRelease : UInt8
  embeddedControllerFirmwareMinorRelease : UInt8
  extendedBiosRomSize : UInt16
  /-- The memory that `text_strings` points to, unless it is a null pointer. -/
  textStrings : Option (List UInt8)

/-- What the allocator does while a version is stored. -/
structure Memory where
  biosInfo : Bool
  /-- `text_strings` of that memory is a null pointer before it is set. -/
  unset : Bool
  biosVersionStr : Bool
  textStrings : Bool
  vendor : Option (Nat → UInt8)
  biosVersion : Option (Nat → UInt8)
  biosReleaseDate : Option (Nat → UInt8)
  stored : Bool

def realloc (fresh : Option (Nat → UInt8)) (block : List UInt8) (size : Nat) :
    Option (List UInt8) :=
  fresh.map fun fresh => (block ++ (List.range size).map fresh).take size

/-- The loop of `pldm_smbios_get_text_strings_count`. -/
def stringsLoop : Nat → List UInt8 → UInt8 → UInt8 → Option UInt8
  | 0, _, _, _ => none
  | turns + 1, iter, count, i => do
    let char ← byteAt iter 0
    if char = 0 then some count
    else
      let (len, ended) ← turn iter
      if ended then some (count + 1)
      else if maximumStructureSize < (i + 1).toNat then some 0
      else stringsLoop turns (iter.drop (len.toNat + 1)) (count + 1) (i + 1)

def getTextStringsCount : Option (List UInt8) → Option UInt8
  | none => some 0
  | some text => stringsLoop text.length text 0 0

def getTextStringsSize : Option (List UInt8) → Option UInt8
  | none => some 0
  | some text => sizeLoop text.length text 0 0

/-- `init_text_string_value`, for text strings that are there. -/
def initTextStringValue (fresh : Option (Nat → UInt8)) (newTextString textStrings : List UInt8) :
    Option (UInt8 × List UInt8) := do
  let originalSize ← getTextStringsSize (some textStrings)
  let newTextStringLen := UInt8.ofNat (← strlen newTextString)
  let start := if originalSize = 2 then 0 else (originalSize - 1).toNat
  match realloc fresh textStrings (originalSize.toNat + newTextStringLen.toNat + 1) with
  | none => some (0, textStrings)
  | some block => do
    let block ← writeAt block start (newTextString.take newTextStringLen.toNat)
    let block ← writeAt block (start + newTextStringLen.toNat) [0]
    let block ← writeAt block (start + newTextStringLen.toNat + 1) [0]
    let count ← getTextStringsCount (some block)
    some (count, block)

def notAvailable : List UInt8 := [0x4E, 0x2F, 0x41]

/-- `init_bios_information`. There is no structure without memory for its text strings. -/
def initBiosInformation (memory : Memory) (biosVersion : List UInt8) :
    Option (Option BiosInformation) :=
  if memory.textStrings = false then some none
  else do
    let (vendor, text) ← initTextStringValue memory.vendor (notAvailable ++ [0]) [0, 0]
    let (version, text) ← initTextStringValue memory.biosVersion biosVersion text
    let (date, text) ← initTextStringValue memory.biosReleaseDate (notAvailable ++ [0]) text
    some (some {
      type := smbiosBiosInformation
      length := 0x12
      handle := 0
      vendor := vendor
      biosVersion := version
      biosStartingAddressSegment := 0
      biosReleaseDate := date
      biosRomSize := 0
      biosCharacteristics := 0
      biosCharacteristicsExtensionBytes := 0
      systemBiosMajorRelease := 0
      systemBiosMinorRelease := 0
      embeddedControllerFirmwareMajorRelease := 0
      embeddedControllerFirmwareMinorRelease := 0
      extendedBiosRomSize := 0
      textStrings := some text })

/-- `pldm_smbios_set_bios_information`, with what it returns. The text strings that were stored are
freed before there is memory for the new ones. -/
def setBiosInformation (memory : Memory) (biosInformation newBiosInformation : BiosInformation) :
    Option (Int × BiosInformation) := do
  let newTextStringsLength ← getTextStringsSize newBiosInformation.textStrings
  if memory.stored = false then some (-1, { biosInformation with textStrings := none })
  else do
    let text ← match newBiosInformation.textStrings with
      | none => some []
      | some text => rangeAt text 0 newTextStringsLength.toNat
    some (0, { newBiosInformation with textStrings := some text })

/-- `update_bios_information`, with what it returns and the structure that it makes, if it does.
Nothing is known when it frees the text strings of a structure that there is no memory for, or those
that were not set. -/
def updateBiosInformation (memory : Memory) (biosInformation : BiosInformation)
    (sent : List UInt8) : Option (Int × Option BiosInformation × BiosInformation) :=
  if memory.biosInfo = false then none
  else if memory.biosVersionStr = false then
    if memory.unset then some (-1, none, biosInformation) else none
  else do
    let built ← initBiosInformation memory (sent ++ [0])
    match built with
    | none => some (-1, none, biosInformation)
    | some built => do
      let (rc, stored) ← setBiosInformation memory biosInformation built
      some (rc, some built, stored)

/-- The loop of `get_text_string_by_index`: how many strings it passes, and the rest. It gives up
when there are too many. -/
def indexLoop (target : UInt8) :
    Nat → List UInt8 → UInt8 → UInt8 → Option (Option (UInt8 × List UInt8))
  | 0, _, _, _ => none
  | turns + 1, iter, count, i =>
    if count.toNat + 1 < target.toNat then do
      let (len, ended) ← turn iter
      if ended then some (some (count + 1, iter))
      else if maximumStructureSize < (i + 1).toNat then some none
      else indexLoop target turns (iter.drop (len.toNat + 1)) (count + 1) (i + 1)
    else some (some (count, iter))

/-- `get_text_string_by_index`. Nothing is known of what a null pointer points to. -/
def getTextStringByIndex (textStrings : Option (List UInt8)) (target : UInt8) :
    Option (Option (List UInt8)) := do
  let text ← textStrings
  let found ← indexLoop target (text.length + 1) text 0 0
  match found with
  | none => some none
  | some (count, iter) => if count.toNat + 1 = target.toNat then some (some iter) else some none

/-- The string that a pointer points to, unless it is a null pointer. -/
def stringOf : Option (List UInt8) → Option (Option (List UInt8))
  | none => some none
  | some text => (strlen text).map fun len => some (text.take len)

/-- `pldm_smbios_get_bios_version`, with the string that it points to. -/
def getBiosVersion (biosInformation : BiosInformation) : Option (Option (List UInt8)) := do
  let found ← getTextStringByIndex biosInformation.textStrings biosInformation.biosVersion
  stringOf found

/-! ## What is claimed -/

/-- What the host sends as a version. -/
structure SentVersion where
  bytes : List UInt8
  /-- `bios_version_len` has eight bits. -/
  few : bytes.length < 256

/-- The version is a string, which a zero ends before the bytes do. -/
def SentVersion.version (sent : SentVersion) : List UInt8 := sent.bytes.takeWhile (· ≠ 0)

/-- Text strings in a block, up to and including the zero behind the last one. -/
def textBlock (texts : List (List UInt8)) : List UInt8 := texts.flatMap (· ++ [0]) ++ [0]

def biosTexts (version : List UInt8) : List (List UInt8) := [notAvailable, version, notAvailable]

/-- A structure that is made for a version has its text strings, with their numbers. -/
structure BuiltRight (version : List UInt8) (built : BiosInformation) : Prop where
  texts : ∃ rest, built.textStrings = some (textBlock (biosTexts version) ++ rest)
  vendor : built.vendor = 1
  biosVersion : built.biosVersion = 2
  biosReleaseDate : built.biosReleaseDate = 3

/-- A structure that is made is right; when it is stored, its text strings are, and the version is
read; and when it is not, the structure is as it was. -/
def UpdateRight (memory : Memory) (sent : SentVersion) : Prop :=
  ∀ before, ∃ rc made after,
    updateBiosInformation memory before sent.bytes = some (rc, made, after) ∧
    (∀ built, made = some built → BuiltRight sent.version built) ∧
    (rc = 0 → after.textStrings = some (textBlock (biosTexts sent.version)) ∧
      getBiosVersion after = some (some sent.version)) ∧
    (rc ≠ 0 → after = before)

/-- There is memory for the structure; and there is none for the version, but its text strings are
a null pointer, or none for the two zeros, or there is memory for everything else, and a version
that is not empty and not too long. -/
def Storable (memory : Memory) (sent : SentVersion) : Prop :=
  memory.biosInfo = true ∧
    if memory.biosVersionStr = false then memory.unset = true
    else memory.textStrings = true →
      memory.vendor.isSome ∧ memory.biosVersion.isSome ∧ memory.biosReleaseDate.isSome ∧
        memory.stored = true ∧ sent.version ≠ [] ∧ sent.version.length ≤ 245

/-! ## Text strings -/

/-- A text string is not empty, has no zero, and its length has eight bits. -/
structure IsText (text : List UInt8) : Prop where
  some : text ≠ []
  plain : 0 ∉ text
  short : text.length < 256

section Texts

variable {text rest : List UInt8} {texts : List (List UInt8)} {target : UInt8}

theorem strlen_append (plain : 0 ∉ text) (rest : List UInt8) :
    strlen (text ++ 0 :: rest) = some text.length := by
  induction text with
  | nil => rfl
  | cons char text ih =>
    have here : char ≠ 0 := fun zero => plain (zero ▸ mem_cons_self)
    have later := ih fun listed => plain (mem_cons_of_mem _ listed)
    rw [cons_append, strlen, if_neg here, later]
    rfl

theorem textBlock_cons (text : List UInt8) (texts : List (List UInt8)) :
    textBlock (text :: texts) = text ++ 0 :: textBlock texts := by
  unfold textBlock
  rw [flatMap_cons, append_assoc, append_assoc]
  rfl

theorem length_textBlock (texts : List (List UInt8)) : texts.length < (textBlock texts).length := by
  induction texts with
  | nil => exact Nat.one_pos
  | cons text texts ih =>
    rw [textBlock_cons, length_append, length_cons, length_cons]
    omega

theorem textBlock_head (isTexts : ∀ text ∈ texts, IsText text) :
    ∃ head tail, textBlock texts = head :: tail ∧ (head = 0 ↔ texts = []) := by
  cases texts with
  | nil => exact ⟨0, [], rfl, iff_of_true rfl rfl⟩
  | cons text texts =>
    have isText := isTexts text mem_cons_self
    cases text with
    | nil => exact absurd rfl isText.some
    | cons char text =>
      have here : char ≠ 0 := fun zero => isText.plain (zero ▸ mem_cons_self)
      exact ⟨char, text ++ 0 :: textBlock texts, textBlock_cons _ _, iff_of_false here nofun⟩

theorem turn_textBlock (isText : IsText text) (isTexts : ∀ text ∈ texts, IsText text)
    (rest : List UInt8) :
    turn (textBlock (text :: texts) ++ rest) =
      some (UInt8.ofNat text.length, decide (texts = [])) := by
  obtain ⟨head, tail, same, zero⟩ := textBlock_head isTexts
  have len : (UInt8.ofNat text.length).toNat = text.length := by
    rw [UInt8.toNat_ofNat', Nat.mod_eq_of_lt isText.short]
  have block : textBlock (text :: texts) ++ rest = text ++ 0 :: head :: (tail ++ rest) := by
    rw [textBlock_cons, same, append_assoc, cons_append, cons_append]
  have first : byteAt (text ++ 0 :: head :: (tail ++ rest)) text.length = some 0 := by
    unfold byteAt
    rw [getElem?_append_right le_rfl, Nat.sub_self]
    rfl
  have second : byteAt (text ++ 0 :: head :: (tail ++ rest)) (text.length + 1) = some head := by
    unfold byteAt
    rw [getElem?_append_right (Nat.le_add_right _ 1), Nat.add_sub_cancel_left]
    rfl
  rw [block, turn, strlen_append isText.plain]
  dsimp only [bind_eq_bind, bind_some]
  rw [len, first, bind_some, if_pos rfl, second, map_some]
  congr 2
  exact decide_eq_decide.mpr zero

theorem drop_textBlock (isText : IsText text) (texts : List (List UInt8)) (rest : List UInt8) :
    (textBlock (text :: texts) ++ rest).drop ((UInt8.ofNat text.length).toNat + 1) =
      textBlock texts ++ rest := by
  rw [UInt8.toNat_ofNat', Nat.mod_eq_of_lt isText.short, textBlock_cons, append_assoc,
    drop_append]
  rw [drop_of_length_le (Nat.le_succ _), Nat.add_sub_cancel_left, nil_append]
  rfl

theorem not_maximum_lt (i : UInt8) : ¬ maximumStructureSize < i.toNat := by
  have byte := i.toNat_lt
  unfold maximumStructureSize
  omega

theorem stringsLoop_textBlock (isTexts : ∀ text ∈ texts, IsText text) {turns : Nat}
    (enough : texts.length < turns) (count i : UInt8) :
    stringsLoop turns (textBlock texts ++ rest) count i =
      some (count + UInt8.ofNat texts.length) := by
  induction texts generalizing turns count i with
  | nil =>
    obtain ⟨turns, rfl⟩ := Nat.exists_eq_succ_of_ne_zero (Nat.ne_of_gt enough)
    have same : count + UInt8.ofNat ([] : List (List UInt8)).length = count := UInt8.add_zero count
    rw [same]
    rfl
  | cons text texts ih =>
    obtain ⟨turns, rfl⟩ := Nat.exists_eq_succ_of_ne_zero (Nat.ne_of_gt (Nat.zero_lt_of_lt enough))
    have isText := isTexts text mem_cons_self
    have others : ∀ text ∈ texts, IsText text :=
      fun text listed => isTexts text (mem_cons_of_mem _ listed)
    obtain ⟨head, tail, same, zero⟩ := textBlock_head isTexts
    have present : head ≠ 0 := fun none => absurd (zero.mp none) nofun
    have first : byteAt (textBlock (text :: texts) ++ rest) 0 = some head := by
      rw [same]
      rfl
    have onward := ih others (Nat.lt_of_succ_lt_succ enough) (count + 1) (i + 1)
    rw [stringsLoop, first]
    dsimp only [bind_eq_bind, bind_some]
    rw [if_neg present, turn_textBlock isText others, bind_some]
    cases texts with
    | nil => rfl
    | cons next texts =>
      rw [decide_eq_false (by simp), if_neg nofun, if_neg (not_maximum_lt _),
        drop_textBlock isText, onward, @length_cons _ text, UInt8.ofNat_add _ 1,
        UInt8.add_assoc, UInt8.add_comm 1]
      rfl

theorem sizeLoop_textBlock (isText : IsText text) (isTexts : ∀ text ∈ texts, IsText text)
    {turns : Nat} (enough : texts.length < turns) (size i : UInt8) :
    sizeLoop turns (textBlock (text :: texts) ++ rest) size i =
      some (size + UInt8.ofNat (textBlock (text :: texts)).length) := by
  obtain ⟨turns, rfl⟩ := Nat.exists_eq_succ_of_ne_zero (Nat.ne_of_gt (Nat.zero_lt_of_lt enough))
  induction texts generalizing text turns size i with
  | nil =>
    rw [sizeLoop, turn_textBlock isText isTexts]
    dsimp only [bind_eq_bind, bind_some]
    rw [decide_eq_true rfl, if_pos rfl, textBlock_cons, length_append, UInt8.ofNat_add,
      UInt8.add_assoc, UInt8.add_assoc]
    rfl
  | cons next texts ih =>
    have others : ∀ text ∈ texts, IsText text :=
      fun text listed => isTexts text (mem_cons_of_mem _ listed)
    rw [length_cons] at enough
    obtain ⟨turns, rfl⟩ := Nat.exists_eq_succ_of_ne_zero
      (Nat.ne_of_gt (show 0 < turns by omega))
    have onward := ih (isTexts next mem_cons_self) others
      (size + (UInt8.ofNat text.length + 1)) (i + 1) turns (by omega)
    rw [sizeLoop, turn_textBlock isText isTexts]
    dsimp only [bind_eq_bind, bind_some]
    rw [decide_eq_false (by simp), if_neg nofun, if_neg (not_maximum_lt _),
      drop_textBlock isText, onward, textBlock_cons text, length_append, length_cons,
      UInt8.ofNat_add, UInt8.ofNat_add _ 1, UInt8.add_assoc, UInt8.add_assoc]
    congr 3
    exact UInt8.add_comm _ _

theorem getTextStringsCount_textBlock (isTexts : ∀ text ∈ texts, IsText text) (rest : List UInt8) :
    getTextStringsCount (some (textBlock texts ++ rest)) = some (UInt8.ofNat texts.length) := by
  have more := length_textBlock texts
  have loop := @stringsLoop_textBlock rest texts isTexts (textBlock texts ++ rest).length
    (by rw [length_append]; omega) 0 0
  rw [UInt8.zero_add] at loop
  exact loop

theorem getTextStringsSize_textBlock (isTexts : ∀ text ∈ texts, IsText text) (some' : texts ≠ [])
    (rest : List UInt8) :
    getTextStringsSize (some (textBlock texts ++ rest)) =
      some (UInt8.ofNat (textBlock texts).length) := by
  match texts with
  | [] => exact absurd rfl some'
  | text :: texts =>
    have more := length_textBlock (text :: texts)
    have others : ∀ text ∈ texts, IsText text :=
      fun text listed => isTexts text (mem_cons_of_mem _ listed)
    rw [length_cons] at more
    have loop := @sizeLoop_textBlock text rest texts (isTexts text mem_cons_self) others
      (textBlock (text :: texts) ++ rest).length (by rw [length_append]; omega) 0 0
    rw [UInt8.zero_add] at loop
    exact loop

theorem indexLoop_found (isTexts : ∀ text ∈ texts, IsText text) {turns place : Nat}
    (inside : place < texts.length) (enough : place < turns) {count : UInt8}
    (ahead : count.toNat + place + 1 = target.toNat) (i : UInt8) :
    indexLoop target turns (textBlock texts ++ rest) count i =
      some (some (count + UInt8.ofNat place, textBlock (texts.drop place) ++ rest)) := by
  obtain ⟨turns, rfl⟩ := Nat.exists_eq_succ_of_ne_zero (Nat.ne_of_gt (Nat.zero_lt_of_lt enough))
  induction place generalizing texts turns count i with
  | zero =>
    have same : count + UInt8.ofNat 0 = count := UInt8.add_zero count
    rw [indexLoop, if_neg (by omega), same]
    rfl
  | succ place ih =>
    match texts with
    | [] => cases inside
    | text :: texts =>
      have others : ∀ text ∈ texts, IsText text :=
        fun text listed => isTexts text (mem_cons_of_mem _ listed)
      have isText := isTexts text mem_cons_self
      have byte := target.toNat_lt
      have next : (count + 1).toNat = count.toNat + 1 := by
        exact Nat.mod_eq_of_lt (show count.toNat + 1 < 2 ^ 8 by omega)
      rw [length_cons] at inside
      have more : texts ≠ [] := fun none => by
        rw [none, length_nil] at inside
        omega
      obtain ⟨turns, rfl⟩ := Nat.exists_eq_succ_of_ne_zero
        (Nat.ne_of_gt (show 0 < turns by omega))
      have onward := ih others (Nat.lt_of_succ_lt_succ inside) (by rw [next]; omega) (i + 1) turns
        (by omega)
      rw [indexLoop, if_pos (by omega), turn_textBlock isText others]
      dsimp only [bind_eq_bind, bind_some]
      rw [decide_eq_false more, if_neg nofun, if_neg (not_maximum_lt _), drop_textBlock isText,
        onward, UInt8.ofNat_add _ 1, UInt8.add_assoc, UInt8.add_comm 1, drop_succ_cons]
      rfl

/-- For a number behind the last text string the last one is found. -/
theorem indexLoop_behind (isText : IsText text) (isTexts : ∀ text ∈ texts, IsText text)
    {turns : Nat} (enough : texts.length < turns) {count : UInt8}
    (ahead : count.toNat + texts.length + 2 ≤ target.toNat) (i : UInt8) :
    ∃ last, indexLoop target turns (textBlock (text :: texts) ++ rest) count i =
      some (some (count + UInt8.ofNat (texts.length + 1), last)) := by
  obtain ⟨turns, rfl⟩ := Nat.exists_eq_succ_of_ne_zero (Nat.ne_of_gt (Nat.zero_lt_of_lt enough))
  induction texts generalizing text turns count i with
  | nil =>
    refine ⟨textBlock [text] ++ rest, ?_⟩
    rw [indexLoop, if_pos (by omega), turn_textBlock isText isTexts]
    rfl
  | cons next texts ih =>
    have others : ∀ text ∈ texts, IsText text :=
      fun text listed => isTexts text (mem_cons_of_mem _ listed)
    have byte := target.toNat_lt
    rw [length_cons] at enough ahead
    have counted : (count + 1).toNat = count.toNat + 1 := by
      exact Nat.mod_eq_of_lt (show count.toNat + 1 < 2 ^ 8 by omega)
    obtain ⟨turns, rfl⟩ := Nat.exists_eq_succ_of_ne_zero (Nat.ne_of_gt (show 0 < turns by omega))
    obtain ⟨last, onward⟩ := ih (isTexts next mem_cons_self) others
      (by rw [counted]; omega) (i + 1) turns (by omega)
    refine ⟨last, ?_⟩
    rw [indexLoop, if_pos (by omega), turn_textBlock isText isTexts]
    dsimp only [bind_eq_bind, bind_some]
    rw [decide_eq_false (by simp), if_neg nofun, if_neg (not_maximum_lt _),
      drop_textBlock isText, onward, length_cons, UInt8.ofNat_add (texts.length + 1) 1,
      UInt8.add_assoc, UInt8.add_comm 1]
    rfl

/-- The text string with a number, of which the first one has the number one. -/
def stringAt (texts : List (List UInt8)) (target : UInt8) : Option (List UInt8) :=
  if target = 0 then none else texts[target.toNat - 1]?

theorem stringOf_textBlock (isText : IsText text) (texts : List (List UInt8))
    (rest : List UInt8) :
    stringOf (some (textBlock (text :: texts) ++ rest)) = some (some text) := by
  have block : textBlock (text :: texts) ++ rest = text ++ 0 :: (textBlock texts ++ rest) := by
    rw [textBlock_cons, append_assoc, cons_append]
  rw [stringOf, block, strlen_append isText.plain, map_some, take_left]

theorem textString_found (isTexts : ∀ text ∈ texts, IsText text) {place : Nat}
    (here : texts[place]? = some text) (number : place + 1 = target.toNat) :
    (getTextStringByIndex (some (textBlock texts ++ rest)) target >>= stringOf) =
      some (some text) := by
  obtain ⟨inside, same⟩ := List.getElem?_eq_some_iff.mp here
  have byte := target.toNat_lt
  have more := length_textBlock texts
  have long : texts.length < (textBlock texts ++ rest).length := by
    rw [length_append]
    omega
  have loop : indexLoop target ((textBlock texts ++ rest).length + 1) (textBlock texts ++ rest)
      0 0 = _ := indexLoop_found isTexts inside (by omega) (by rw [UInt8.toNat_zero]; omega) 0
  have passed : (0 + UInt8.ofNat place).toNat + 1 = target.toNat := by
    rw [UInt8.zero_add, UInt8.toNat_ofNat', Nat.mod_eq_of_lt (by omega)]
    exact number
  have others : texts.drop place = text :: texts.drop (place + 1) := by
    rw [← same]
    exact drop_eq_getElem_cons inside
  rw [getTextStringByIndex]
  dsimp only [bind_eq_bind, bind_some]
  rw [loop]
  dsimp only [bind_some]
  rw [if_pos passed, bind_some, others]
  exact stringOf_textBlock (isTexts text (mem_of_getElem? here)) _ _

/-- Text strings are read by their numbers, and there is none for another number, exactly if it is
not the one behind the last. -/
theorem textString_iff (isTexts : ∀ text ∈ texts, IsText text) (some' : texts ≠ [])
    (rest : List UInt8) (target : UInt8) :
    (getTextStringByIndex (some (textBlock texts ++ rest)) target >>= stringOf) =
        some (stringAt texts target) ↔ target.toNat ≠ texts.length + 1 := by
  have more := length_textBlock texts
  have long : texts.length < (textBlock texts ++ rest).length := by
    rw [length_append]
    omega
  by_cases zero : target = 0
  · subst zero
    exact iff_of_true rfl (Nat.succ_ne_zero _).symm
  have positive : target.toNat ≠ 0 := fun none => zero (UInt8.toNat_inj.mp none)
  unfold stringAt
  rw [if_neg zero]
  by_cases inside : target.toNat - 1 < texts.length
  · have here := getElem?_eq_getElem inside
    rw [here]
    exact iff_of_true (textString_found isTexts here (by omega)) (by omega)
  · have byte := target.toNat_lt
    rw [getElem?_eq_none (by omega)]
    match texts with
    | [] => exact absurd rfl some'
    | text :: texts =>
      have others : ∀ text ∈ texts, IsText text :=
        fun text listed => isTexts text (mem_cons_of_mem _ listed)
      rw [length_cons] at long inside ⊢
      obtain ⟨last, loop⟩ := @indexLoop_behind text rest texts target
        (isTexts text mem_cons_self) others
        ((textBlock (text :: texts) ++ rest).length + 1) (by omega) 0
        (by rw [UInt8.toNat_zero]; omega) 0
      have passed : (0 + UInt8.ofNat (texts.length + 1)).toNat = texts.length + 1 := by
        rw [UInt8.zero_add, UInt8.toNat_ofNat', Nat.mod_eq_of_lt (by omega)]
      rw [getTextStringByIndex]
      dsimp only [bind_eq_bind, bind_some]
      rw [loop]
      dsimp only [bind_some]
      rw [passed]
      by_cases behind : texts.length + 1 + 1 = target.toNat
      · rw [if_pos behind, bind_some, stringOf]
        refine iff_of_false (fun same => ?_) (fun apart => apart behind.symm)
        obtain ⟨len, -, wrong⟩ := Option.map_eq_some_iff.mp same
        cases wrong
      · rw [if_neg behind]
        exact iff_of_true rfl fun same => behind same.symm

/-- A third text string is found where there are two. -/
theorem textString_iff_two :
    (getTextStringByIndex (some (textBlock (List.replicate 2 notAvailable) ++ [])) 3 >>=
      stringOf) ≠ some (stringAt (List.replicate 2 notAvailable) 3) := by
  have isTexts : ∀ text ∈ List.replicate 2 notAvailable, IsText text := by
    intro text listed
    rw [eq_of_mem_replicate listed]
    exact ⟨nofun, by decide, by decide⟩
  exact fun same => (textString_iff isTexts nofun [] 3).mp same rfl

end Texts

/-! ## A text string more -/

section Appended

variable {text newTextString textStrings block kept rest : List UInt8} {texts : List (List UInt8)}
  {count originalSize : UInt8} {fresh : Nat → UInt8}

theorem realloc_append (fresh : Nat → UInt8) (kept rest : List UInt8) (more : Nat) :
    ∃ tail, tail.length = more ∧
      realloc (some fresh) (kept ++ rest) (kept.length + more) = some (kept ++ tail) := by
  refine ⟨(rest ++ (List.range (kept.length + more)).map fresh).take more, ?_, ?_⟩
  · rw [length_take, length_append, length_map, length_range]
    omega
  · rw [realloc, map_some, append_assoc, take_length_add_append]

theorem length_realloc {size : Nat} (grown : realloc (some fresh) textStrings size = some block) :
    block.length = size := by
  have same := Option.some.inj grown
  rw [← same, length_take, length_append, length_map, length_range]
  omega

theorem initTextStringValue_none (sized : getTextStringsSize (some textStrings) = some originalSize)
    {len : Nat} (ends : strlen newTextString = some len) :
    initTextStringValue none newTextString textStrings = some (0, textStrings) := by
  rw [initTextStringValue, sized]
  rw [ends]
  rfl

theorem of_numbered {memory : Option (Nat → UInt8)}
    (sized : getTextStringsSize (some textStrings) = some originalSize)
    {len : Nat} (ends : strlen newTextString = some len)
    (added : initTextStringValue memory newTextString textStrings = some (count, block))
    (numbered : count ≠ 0) :
    ∃ fresh, memory = some fresh ∧
      initTextStringValue (some fresh) newTextString textStrings = some (count, block) := by
  cases memory with
  | none =>
    rw [initTextStringValue_none sized ends] at added
    have zero : 0 = count := congrArg Prod.fst (Option.some.inj added)
    exact absurd zero.symm numbered
  | some fresh => exact ⟨fresh, rfl, added⟩

theorem length_initTextStringValue
    (sized : getTextStringsSize (some textStrings) = some originalSize)
    {len : Nat} (ends : strlen newTextString = some len)
    (added : initTextStringValue (some fresh) newTextString textStrings = some (count, block)) :
    block.length = originalSize.toNat + (UInt8.ofNat len).toNat + 1 := by
  rw [initTextStringValue, sized] at added
  dsimp only [bind_eq_bind, bind_some] at added
  rw [ends] at added
  dsimp only [bind_some] at added
  split at added
  next none => exact absurd none nofun
  next grown made =>
    obtain ⟨first, wroteFirst, added⟩ := Option.bind_eq_some_iff.mp added
    obtain ⟨second, wroteSecond, added⟩ := Option.bind_eq_some_iff.mp added
    obtain ⟨third, wroteThird, added⟩ := Option.bind_eq_some_iff.mp added
    obtain ⟨number, -, added⟩ := Option.bind_eq_some_iff.mp added
    have same : third = block := congrArg Prod.snd (Option.some.inj added)
    rw [← same, length_of_writeAt wroteThird, length_of_writeAt wroteSecond,
      length_of_writeAt wroteFirst, length_realloc made]

theorem writes_append (kept old text : List UInt8) (enough : text.length + 2 ≤ old.length) :
    ∃ first second, writeAt (kept ++ old) kept.length text = some first ∧
      writeAt first (kept.length + text.length) [0] = some second ∧
      writeAt second (kept.length + text.length + 1) [0] =
        some (kept ++ (text ++ [0, 0]) ++ old.drop (text.length + 2)) := by
  have inside : kept.length + (text.length + 2) ≤ (kept ++ old).length := by
    rw [length_append]
    omega
  have zero : (text ++ [0]).length = text.length + 1 := length_append
  have first : (splice (kept ++ old) kept.length text).length = (kept ++ old).length :=
    length_splice (by omega)
  have second : (splice (kept ++ old) kept.length (text ++ [0])).length = (kept ++ old).length :=
    length_splice (by omega)
  have behindFirst := @splice_behind (kept ++ old) kept.length text [0] _ rfl (by omega)
  have behindSecond := @splice_behind (kept ++ old) kept.length (text ++ [0]) [0]
    (kept.length + text.length + 1) (by rw [zero]; rfl) (by omega)
  have whole : splice (kept ++ old) kept.length (text ++ [0] ++ [0]) =
      kept ++ (text ++ [0, 0]) ++ old.drop (text.length + 2) := by
    unfold splice
    rw [take_left, append_assoc text, length_append, drop_append,
      drop_of_length_le (by omega), nil_append, Nat.add_sub_cancel_left]
    rfl
  refine ⟨_, splice (kept ++ old) kept.length (text ++ [0]), writeAt_eq (by omega), ?_, ?_⟩
  · rw [← behindFirst]
    exact writeAt_eq (by rw [first, length_singleton]; omega)
  · rw [← whole, ← behindSecond]
    exact writeAt_eq (by rw [second, length_singleton]; omega)

theorem initTextStringValue_eq
    (sized : getTextStringsSize (some (kept ++ rest)) = some originalSize)
    (start : (if originalSize = 2 then 0 else (originalSize - 1).toNat) = kept.length)
    {more : Nat} (room : originalSize.toNat + text.length + 1 = kept.length + more)
    (enough : text.length + 2 ≤ more) (plain : 0 ∉ text) (short : text.length < 256)
    (fresh : Nat → UInt8) (behind : List UInt8) :
    ∃ tail, tail.length + (text.length + 2) = more ∧
      initTextStringValue (some fresh) (text ++ 0 :: behind) (kept ++ rest) =
        (getTextStringsCount (some (kept ++ (text ++ [0, 0]) ++ tail))).map
          fun count => (count, kept ++ (text ++ [0, 0]) ++ tail) := by
  obtain ⟨old, size, grown⟩ := realloc_append fresh kept rest more
  have len : (UInt8.ofNat text.length).toNat = text.length := by
    rw [UInt8.toNat_ofNat', Nat.mod_eq_of_lt short]
  obtain ⟨first, second, wroteFirst, wroteSecond, wroteThird⟩ :=
    writes_append kept old text (by omega)
  refine ⟨old.drop (text.length + 2), by rw [length_drop]; omega, ?_⟩
  rw [initTextStringValue, sized]
  dsimp only [bind_eq_bind, bind_some]
  rw [strlen_append plain, bind_some, len, room, grown, start, take_left]
  dsimp only
  rw [wroteFirst, bind_some, wroteSecond, bind_some, wroteThird, bind_some]
  cases getTextStringsCount (some (kept ++ (text ++ [0, 0]) ++ old.drop (text.length + 2))) with
  | none => rfl
  | some count => rfl

end Appended

/-! ## A version -/

section Version

variable {version behind tail : List UInt8} {memory : Memory} {sent : SentVersion}

theorem bytes_append_zero (bytes : List UInt8) :
    ∃ behind, bytes ++ [0] = bytes.takeWhile (· ≠ 0) ++ 0 :: behind := by
  induction bytes with
  | nil => exact ⟨[], rfl⟩
  | cons byte rest ih =>
    obtain ⟨behind, same⟩ := ih
    by_cases zero : byte = 0
    · subst zero
      exact ⟨rest ++ [0], by rw [takeWhile_cons, if_neg (by simp)]; rfl⟩
    · refine ⟨behind, ?_⟩
      rw [takeWhile_cons, if_pos (by simpa using zero), cons_append, same]
      rfl

theorem SentVersion.plain (sent : SentVersion) : 0 ∉ sent.version := by
  intro listed
  exact absurd (List.all_eq_true.mp all_takeWhile 0 listed) (by simp)

theorem SentVersion.short (sent : SentVersion) : sent.version.length < 256 :=
  Nat.lt_of_le_of_lt (List.takeWhile_prefix _).length_le sent.few

theorem SentVersion.isText (some : sent.version ≠ []) : IsText sent.version :=
  ⟨some, sent.plain, sent.short⟩

theorem isText_notAvailable : IsText notAvailable := ⟨nofun, by decide, by decide⟩

theorem isText_biosTexts (isText : IsText version) : ∀ text ∈ biosTexts version, IsText text := by
  intro text listed
  simp only [biosTexts, mem_cons, not_mem_nil, or_false] at listed
  rcases listed with rfl | rfl | rfl
  · exact isText_notAvailable
  · exact isText
  · exact isText_notAvailable

theorem isText_pair (isText : IsText version) :
    ∀ text ∈ [notAvailable, version], IsText text :=
  fun text listed => isText_biosTexts isText text
    ((prefix_append [notAvailable, version] [notAvailable]).subset listed)

theorem initTextStringValue_vendor (fresh : Nat → UInt8) :
    ∃ tail, initTextStringValue (some fresh) (notAvailable ++ [0]) [0, 0] =
      some (1, textBlock [notAvailable] ++ tail) := by
  obtain ⟨tail, -, added⟩ := @initTextStringValue_eq notAvailable [] [0, 0] 2 rfl rfl 6 rfl
    (by decide) isText_notAvailable.plain isText_notAvailable.short fresh []
  have block : [] ++ (notAvailable ++ [0, 0]) ++ tail = textBlock [notAvailable] ++ tail := rfl
  exact ⟨tail, added⟩

theorem initTextStringValue_version (fresh : Nat → UInt8) (plain : 0 ∉ version)
    (short : version.length < 256) (behind tail : List UInt8) :
    initTextStringValue (some fresh) (version ++ 0 :: behind) (textBlock [notAvailable] ++ tail) =
      (getTextStringsCount (some (notAvailable ++ [0] ++ (version ++ [0, 0])))).map
        fun count => (count, notAvailable ++ [0] ++ (version ++ [0, 0])) := by
  have sized : getTextStringsSize (some (notAvailable ++ [0] ++ (0 :: tail))) = some 5 :=
    getTextStringsSize_textBlock (fun text listed => by
      rw [List.mem_singleton.mp listed]
      exact isText_notAvailable) (cons_ne_nil notAvailable []) tail
  have room : (5 : UInt8).toNat + version.length + 1 =
      (notAvailable ++ [0]).length + (version.length + 2) := by
    change 5 + version.length + 1 = 4 + (version.length + 2)
    omega
  obtain ⟨none, same, added⟩ := initTextStringValue_eq sized rfl room le_rfl plain short
    fresh behind
  have empty : none = [] := eq_nil_of_length_eq_zero (by omega)
  rw [empty, append_nil] at added
  exact added

theorem initTextStringValue_text (fresh : Nat → UInt8) (isText : IsText version)
    (behind tail : List UInt8) :
    initTextStringValue (some fresh) (version ++ 0 :: behind) (textBlock [notAvailable] ++ tail) =
      some (2, textBlock [notAvailable, version]) := by
  have block : notAvailable ++ [0] ++ (version ++ [0, 0]) = textBlock [notAvailable, version] := by
    rw [textBlock_cons, textBlock_cons, append_assoc]
    rfl
  have counted := getTextStringsCount_textBlock (isText_pair isText) []
  rw [append_nil] at counted
  rw [initTextStringValue_version fresh isText.plain isText.short, block, counted]
  rfl

theorem initTextStringValue_empty (fresh : Nat → UInt8) (behind tail : List UInt8) :
    initTextStringValue (some fresh) (0 :: behind) (textBlock [notAvailable] ++ tail) =
      some (1, textBlock [notAvailable] ++ [0]) :=
  initTextStringValue_version fresh (not_mem_nil) (by decide) behind tail

theorem length_textBlock_pair (version : List UInt8) :
    (textBlock [notAvailable, version]).length = version.length + 6 := by
  rw [textBlock_cons, textBlock_cons, length_append, length_cons, length_append]
  change 3 + (version.length + 2 + 1) = _
  omega

theorem length_textBlock_biosTexts (version : List UInt8) :
    (textBlock (biosTexts version)).length = version.length + 10 := by
  unfold biosTexts
  rw [textBlock_cons, textBlock_cons, length_append, length_cons, length_append]
  change 3 + (version.length + 6 + 1) = _
  omega

theorem getTextStringsSize_pair (isText : IsText version) :
    getTextStringsSize (some (textBlock [notAvailable, version])) =
      some (UInt8.ofNat (version.length + 6)) := by
  have sized := getTextStringsSize_textBlock (isText_pair isText) (cons_ne_nil _ _) []
  rw [append_nil, length_textBlock_pair] at sized
  exact sized

/-- The date is the third text string when the size of the others has eight bits. -/
theorem initTextStringValue_date (fresh : Nat → UInt8) (isText : IsText version)
    (few : version.length ≤ 249) :
    initTextStringValue (some fresh) (notAvailable ++ [0]) (textBlock [notAvailable, version]) =
      some (3, textBlock (biosTexts version)) := by
  have block :
      textBlock [notAvailable, version] = notAvailable ++ 0 :: (version ++ [0]) ++ [0] := by
    rw [textBlock_cons, textBlock_cons, append_assoc, cons_append, append_assoc]
    rfl
  have length : (notAvailable ++ 0 :: (version ++ [0])).length = version.length + 5 := by
    rw [length_append, length_cons, length_append]
    change 3 + (version.length + 1 + 1) = _
    omega
  have size : (UInt8.ofNat (version.length + 6)).toNat = version.length + 6 := by
    rw [UInt8.toNat_ofNat', Nat.mod_eq_of_lt (by omega)]
  have start : (if UInt8.ofNat (version.length + 6) = 2 then 0
      else (UInt8.ofNat (version.length + 6) - 1).toNat) =
      (notAvailable ++ 0 :: (version ++ [0])).length := by
    have large : UInt8.ofNat (version.length + 6) ≠ 2 := by
      intro two
      have wrong := congrArg UInt8.toNat two
      rw [size] at wrong
      change version.length + 6 = 2 at wrong
      omega
    have less : (1 : UInt8) ≤ UInt8.ofNat (version.length + 6) := by
      rw [UInt8.le_iff_toNat_le, size]
      exact Nat.le_add_left 1 (version.length + 5)
    rw [if_neg large, UInt8.toNat_sub_of_le _ _ less, size, length]
    rfl
  have sized := getTextStringsSize_pair isText
  rw [block] at sized ⊢
  obtain ⟨none, same, added⟩ := @initTextStringValue_eq notAvailable _ _ _ sized start 5
    (by rw [size, length]; rfl) le_rfl isText_notAvailable.plain
    isText_notAvailable.short fresh []
  have empty : none = [] := eq_nil_of_length_eq_zero (by
    change none.length + 5 = 5 at same
    omega)
  have whole : notAvailable ++ 0 :: (version ++ [0]) ++ (notAvailable ++ [0, 0]) =
      textBlock (biosTexts version) := by
    unfold biosTexts
    rw [textBlock_cons, textBlock_cons, append_assoc, cons_append, append_assoc]
    rfl
  have counted := getTextStringsCount_textBlock (isText_biosTexts isText) []
  rw [append_nil] at counted
  rw [empty, append_nil, whole, counted] at added
  exact added

theorem initBiosInformation_eq (textStrings : memory.textStrings = true)
    (vendor : memory.vendor.isSome) (biosVersion : memory.biosVersion.isSome)
    (biosReleaseDate : memory.biosReleaseDate.isSome) (isText : IsText version)
    (few : version.length ≤ 249) (behind : List UInt8) :
    ∃ built, initBiosInformation memory (version ++ 0 :: behind) = some (some built) ∧
      built.textStrings = some (textBlock (biosTexts version)) ∧ BuiltRight version built := by
  obtain ⟨vendorBytes, vendor⟩ := Option.isSome_iff_exists.mp vendor
  obtain ⟨versionBytes, biosVersion⟩ := Option.isSome_iff_exists.mp biosVersion
  obtain ⟨dateBytes, biosReleaseDate⟩ := Option.isSome_iff_exists.mp biosReleaseDate
  obtain ⟨tail, first⟩ := initTextStringValue_vendor vendorBytes
  have second := initTextStringValue_text versionBytes isText behind tail
  have third := initTextStringValue_date dateBytes isText few
  rw [initBiosInformation, if_neg (by rw [textStrings]; decide), vendor, first, biosVersion]
  dsimp only [bind_eq_bind, bind_some]
  rw [second, biosReleaseDate]
  dsimp only [bind_some]
  rw [third]
  exact ⟨_, rfl, rfl, ⟨[], by rw [append_nil]⟩, rfl, rfl, rfl⟩

theorem some_of_initBiosInformation {biosVersion : List UInt8} {made : Option BiosInformation}
    (textStrings : memory.textStrings = true)
    (init : initBiosInformation memory biosVersion = some made) : ∃ built, made = some built := by
  rw [initBiosInformation, if_neg (by rw [textStrings]; decide)] at init
  obtain ⟨first, -, init⟩ := Option.bind_eq_some_iff.mp init
  obtain ⟨second, -, init⟩ := Option.bind_eq_some_iff.mp init
  obtain ⟨third, -, init⟩ := Option.bind_eq_some_iff.mp init
  exact ⟨_, (Option.some.inj init).symm⟩

/-- A right structure is only made with memory for everything, of a version that is not empty and
not too long. -/
theorem of_builtRight {built : BiosInformation} (textStrings : memory.textStrings = true)
    (made : initBiosInformation memory (version ++ 0 :: behind) = some (some built))
    (plain : 0 ∉ version) (short : version.length < 256) (right : BuiltRight version built) :
    memory.vendor.isSome ∧ memory.biosVersion.isSome ∧ memory.biosReleaseDate.isSome ∧
      IsText version ∧ version.length ≤ 249 := by
  have ends := strlen_append plain behind
  rw [initBiosInformation, if_neg (by rw [textStrings]; decide)] at made
  obtain ⟨⟨vendor, first⟩, addedFirst, made⟩ := Option.bind_eq_some_iff.mp made
  obtain ⟨⟨number, second⟩, addedSecond, made⟩ := Option.bind_eq_some_iff.mp made
  obtain ⟨⟨date, third⟩, addedThird, made⟩ := Option.bind_eq_some_iff.mp made
  cases Option.some.inj made
  obtain ⟨rest, texts⟩ := right.texts
  obtain ⟨vendorBytes, hasVendor, addedFirst⟩ := of_numbered rfl rfl addedFirst
    (by rw [show vendor = 1 from right.vendor]; decide)
  obtain ⟨tail, added⟩ := initTextStringValue_vendor vendorBytes
  obtain ⟨-, rfl⟩ := Prod.mk.inj (Option.some.inj (added.symm.trans addedFirst))
  have sized : getTextStringsSize (some (textBlock [notAvailable] ++ tail)) = some 5 :=
    getTextStringsSize_textBlock (fun text listed => by
      rw [List.mem_singleton.mp listed]
      exact isText_notAvailable) (cons_ne_nil notAvailable []) tail
  obtain ⟨versionBytes, hasVersion, addedSecond⟩ := of_numbered sized ends addedSecond
    (by rw [show number = 2 from right.biosVersion]; decide)
  have isText : IsText version := by
    refine ⟨fun empty => ?_, plain, short⟩
    rw [empty, nil_append, initTextStringValue_empty] at addedSecond
    have one : 1 = number := congrArg Prod.fst (Option.some.inj addedSecond)
    exact absurd (one.trans right.biosVersion) (by decide)
  rw [initTextStringValue_text versionBytes isText] at addedSecond
  obtain ⟨-, rfl⟩ := Prod.mk.inj (Option.some.inj addedSecond)
  have sizedPair := getTextStringsSize_pair isText
  obtain ⟨dateBytes, hasDate, addedThird⟩ :=
    @of_numbered (notAvailable ++ [0]) _ _ date _ _ sizedPair 3 rfl addedThird
      (by rw [show date = 3 from right.biosReleaseDate]; decide)
  have length := @length_initTextStringValue (notAvailable ++ [0]) _ _ date _ dateBytes sizedPair
    3 rfl addedThird
  rw [Option.some.inj texts, length_append, length_textBlock_biosTexts,
    UInt8.toNat_ofNat'] at length
  change version.length + 10 + rest.length = (version.length + 6) % 2 ^ 8 + 3 + 1 at length
  exact ⟨by rw [hasVendor]; rfl, by rw [hasVersion]; rfl, by rw [hasDate]; rfl, isText, by omega⟩

theorem setBiosInformation_eq {built : BiosInformation} (isText : IsText version)
    (texts : built.textStrings = some (textBlock (biosTexts version)))
    (before : BiosInformation) :
    setBiosInformation memory before built =
      if memory.stored = false then some (-1, { before with textStrings := none })
      else some (0, { built with
        textStrings := some ((textBlock (biosTexts version)).take
          ((version.length + 10) % 256)) }) := by
  have sized := getTextStringsSize_textBlock (isText_biosTexts isText) (cons_ne_nil _ _) []
  have length := length_textBlock_biosTexts version
  rw [append_nil, length] at sized
  rw [setBiosInformation, texts, sized]
  dsimp only [bind_eq_bind, bind_some]
  have inside : 0 + (version.length + 10) % 256 ≤ (textBlock (biosTexts version)).length := by
    omega
  rw [UInt8.toNat_ofNat', rangeAt_eq inside]
  rfl

theorem getBiosVersion_eq {stored : BiosInformation} (isText : IsText version)
    (texts : stored.textStrings = some (textBlock (biosTexts version)))
    (number : stored.biosVersion = 2) : getBiosVersion stored = some (some version) := by
  have found := @textString_found version [] _ 2 (isText_biosTexts isText) 1 rfl rfl
  rw [append_nil] at found
  rw [getBiosVersion, texts, number]
  exact found

end Version

/-- For every version that the host sends and whatever memory there is, the structure that is made
for it is right, stored with its text strings and read again, or the one before is kept, exactly if
there is memory for it all, and the version is not empty and not longer than 245 bytes, or nothing
comes to be stored. -/
theorem updateRight_iff (memory : Memory) (sent : SentVersion) :
    UpdateRight memory sent ↔ Storable memory sent := by
  obtain ⟨behind, bytes⟩ : ∃ behind, sent.bytes ++ [0] = sent.version ++ 0 :: behind :=
    bytes_append_zero sent.bytes
  constructor
  · intro right
    obtain ⟨rc, made, after, ran, builtRight, stored, failed⟩ :=
      right ⟨0, 0, 0, 0, 0, 0, 0, 0, 0, 0, 0, 0, 0, 0, 0, some [0, 0]⟩
    unfold updateBiosInformation at ran
    split at ran
    · cases ran
    next biosInfo =>
      refine ⟨by simpa using biosInfo, ?_⟩
      split at ran
      next none =>
        rw [if_pos none]
        split at ran
        next unset => exact unset
        · cases ran
      next biosVersionStr =>
        rw [if_neg biosVersionStr]
        intro textStrings
        obtain ⟨made, init, ran⟩ := Option.bind_eq_some_iff.mp ran
        obtain ⟨built, rfl⟩ := some_of_initBiosInformation textStrings init
        obtain ⟨⟨code, kept⟩, set, ran⟩ := Option.bind_eq_some_iff.mp ran
        obtain ⟨rfl, same⟩ := Prod.mk.inj (Option.some.inj ran)
        cases same
        have good := builtRight built rfl
        rw [bytes] at init
        obtain ⟨vendor, version, date, isText, few⟩ :=
          of_builtRight textStrings init sent.plain sent.short good
        obtain ⟨again, initAgain, texts, -⟩ :=
          initBiosInformation_eq textStrings vendor version date isText few behind
        cases Option.some.inj (init.symm.trans initAgain)
        rw [setBiosInformation_eq isText texts] at set
        split at set
        next none =>
          cases set
          have kept := congrArg BiosInformation.textStrings (failed (by decide))
          cases kept
        next room =>
          cases set
          have whole := congrArg (Option.map List.length) (stored rfl).1
          have lengths := Option.some.inj whole
          rw [length_take, length_textBlock_biosTexts] at lengths
          exact ⟨vendor, version, date, by simpa using room, isText.some, by omega⟩
  · rintro ⟨biosInfo, others⟩ before
    unfold updateBiosInformation
    rw [if_neg (by rw [biosInfo]; decide), bytes]
    by_cases biosVersionStr : memory.biosVersionStr = false
    · rw [if_pos biosVersionStr] at others
      rw [if_pos biosVersionStr, if_pos others]
      exact ⟨-1, none, before, rfl, nofun, fun wrong => absurd wrong (by decide), fun _ => rfl⟩
    rw [if_neg biosVersionStr] at others
    rw [if_neg biosVersionStr]
    by_cases textStrings : memory.textStrings = false
    · rw [initBiosInformation, if_pos textStrings]
      exact ⟨-1, none, before, rfl, nofun, fun wrong => absurd wrong (by decide), fun _ => rfl⟩
    obtain ⟨vendor, version, date, stored, some, few⟩ := others (by simpa using textStrings)
    have isText := sent.isText some
    obtain ⟨built, init, texts, right⟩ := initBiosInformation_eq (by simpa using textStrings)
      vendor version date isText (by omega) behind
    have set := @setBiosInformation_eq _ memory built isText texts before
    have whole : (textBlock (biosTexts sent.version)).take ((sent.version.length + 10) % 256) =
        textBlock (biosTexts sent.version) := by
      rw [take_of_length_le]
      rw [length_textBlock_biosTexts]
      omega
    rw [if_neg (by rw [stored]; decide), whole] at set
    refine ⟨0, built, { built with
      textStrings := .some (textBlock (biosTexts sent.version)) }, ?_, ?_, ?_, ?_⟩
    · rw [init]
      dsimp only [bind_eq_bind, bind_some]
      rw [set]
      rfl
    · intro other same
      rw [← Option.some.inj same]
      exact right
    · exact fun _ => ⟨rfl, getBiosVersion_eq isText rfl right.biosVersion⟩
    · exact fun wrong => absurd rfl wrong

def ampleMemory : Memory where
  biosInfo := true
  unset := false
  biosVersionStr := true
  textStrings := true
  vendor := some fun _ => 0
  biosVersion := some fun _ => 0
  biosReleaseDate := some fun _ => 0
  stored := true

/-- For an empty version the vendor is returned. -/
theorem emptyVersion_not_right : ¬ UpdateRight ampleMemory ⟨[], by decide⟩ := by
  intro right
  obtain ⟨rc, made, after, ran, -, stored, -⟩ :=
    right ⟨0, 0, 0, 0, 0, 0, 0, 0, 0, 0, 0, 0, 0, 0, 0, some [0, 0]⟩
  obtain ⟨rfl, same⟩ := Prod.mk.inj (Option.some.inj ran)
  obtain ⟨-, rfl⟩ := Prod.mk.inj same
  have version := (stored rfl).2
  cases version

end OpenBic.Pldm.BiosVersion
