import OpenBic.Obmf.Message

/-!
# Requests on a GPIO channel

`handle_gpio_request`: a command and a list of entries, each with an index and four bits of data.
Every entry is checked before one is applied. The platform's callbacks are the current values and a
list of the calls that set an output.
-/

namespace OpenBic.Obmf.Gpio

open List

/-- `OBMF_GPIO_CMD_GET_VALUES`. -/
def getValues : UInt8 := 0

/-- `OBMF_GPIO_CMD_SET_VALUES`. -/
def setValues : UInt8 := 1

def getIntConfig : UInt8 := 2

def setIntConfig : UInt8 := 3

def valueHigh : UInt8 := 1

def intBothEdge : UInt8 := 5

def maxIntIndex : UInt16 := 128

def maxEntries : Nat := 128

def dirInput : UInt8 := 1

def statusIndexNotSupported : UInt8 := 0x40

def statusIntNotSupported : UInt8 := 0x41

def statusInvalidOperation : UInt8 := 0x42

def gpioHdrSize : Nat := 1

/-- `OBMF_GPIO_ENTRY_GET_INDEX`. -/
def entryIndex (entry : UInt16) : UInt16 := entry &&& 0x0FFF

/-- `OBMF_GPIO_ENTRY_GET_DATA`. -/
def entryData (entry : UInt16) : UInt8 := ((entry >>> 12) &&& 0x0F).toUInt8

def entrySet (index : UInt16) (data : UInt8) : UInt16 :=
  (index &&& 0x0FFF) ||| ((data.toUInt16 &&& 0x0F) <<< (12 : UInt16))

def entriesOf : List UInt8 → List UInt16
  | low :: high :: rest => UInt16.ofNat (low.toNat + 256 * high.toNat) :: entriesOf rest
  | _ => []

/-- `obmf_gpio_config_entry_t`. -/
structure ConfigEntry where
  gpioIndex : UInt16
  gpioDirection : UInt8

/-- `obmf_gpio_config_data_t`. -/
structure ConfigData where
  gpioCount : Nat
  entries : List ConfigEntry

/-- A GPIO channel. -/
structure Channel where
  config : Option ConfigData
  /-- `gpio_get_cb`: the current values. -/
  getCb : Option (UInt16 → UInt8)
  /-- `gpio_set_cb` is registered. -/
  setCb : Bool
  /-- The calls of `gpio_set_cb`, with index and value. -/
  sets : List (UInt16 × UInt8)
  intCfg : UInt16 → UInt8

def ConfigData.find (config : ConfigData) (index : UInt16) : Option ConfigEntry :=
  (config.entries.take (min config.gpioCount maxEntries)).find? (·.gpioIndex &&& 0x0FFF = index)

/-- The loop of `gpio_check_entries`. -/
def checkEntries (config : ConfigData) (command : UInt8) : List UInt16 → UInt8
  | [] => statusSuccess
  | entry :: rest =>
    match config.find (entryIndex entry) with
    | none => statusIndexNotSupported
    | some found =>
      if command = setValues ∧ found.gpioDirection = dirInput then statusInvalidOperation
      else checkEntries config command rest

def gpioCheckEntries (config : Option ConfigData) (command : UInt8) (entries : List UInt16) :
    UInt8 :=
  match config with
  | none => statusSuccess
  | some config => checkEntries config command entries

/-- The first loop of `gpio_handle_int_config`. -/
def checkIntEntries (command : UInt8) : List UInt16 → UInt8
  | [] => statusSuccess
  | entry :: rest =>
    if maxIntIndex ≤ entryIndex entry then statusIntNotSupported
    else if command = setIntConfig ∧ intBothEdge < entryData entry then statusInvalidCmd
    else checkIntEntries command rest

def setInt (intCfg : UInt16 → UInt8) (entry : UInt16) : UInt16 → UInt8 :=
  fun index => if index = entryIndex entry then entryData entry else intCfg index

/-- The second loop of `gpio_handle_int_config`: the entries of the response, and the settings. -/
def applyIntEntries (command : UInt8) (rsp : List UInt16) (intCfg : UInt16 → UInt8) :
    List UInt16 → List UInt16 × (UInt16 → UInt8)
  | [] => (rsp, intCfg)
  | entry :: rest =>
    if command = setIntConfig then applyIntEntries command rsp (setInt intCfg entry) rest
    else
      applyIntEntries command
        (rsp ++ [entrySet (entryIndex entry) (intCfg (entryIndex entry))]) intCfg rest

/-- `gpio_handle_int_config`: the status, the entries of the response, and the settings. -/
def gpioHandleIntConfig (intCfg : UInt16 → UInt8) (command : UInt8) (entries : List UInt16) :
    UInt8 × List UInt16 × (UInt16 → UInt8) :=
  let status := checkIntEntries command entries
  if status ≠ statusSuccess then (status, [], intCfg)
  else (statusSuccess, applyIntEntries command [] intCfg entries)

/-- A call of `gpio_set_cb`. -/
def Channel.set (gpio : Channel) (entry : UInt16) : Channel :=
  { gpio with sets := gpio.sets ++ [(entryIndex entry, entryData entry)] }

/-- `handle_gpio_request`, on a whole message. -/
def handleGpioRequest (gpio : Channel) (req : List UInt8) : List UInt8 × Channel :=
  let payloadLen := (payload req).length
  if payloadLen < gpioHdrSize ∨ (payloadLen - gpioHdrSize) % 2 ≠ 0 then
    (buildErrResponse req statusInvalidCmd, gpio)
  else
    let command := (payload req).getD 0 0
    let entriesBytes := payloadLen - gpioHdrSize
    let numEntries := entriesBytes / 2 % 2 ^ 16
    let entries := (entriesOf ((payload req).drop gpioHdrSize)).take numEntries
    if (command = getValues ∨ command = getIntConfig) ∧
        rspBufSize < headerSize + gpioHdrSize + entriesBytes then
      (buildErrResponse req statusSizeNotSupported, gpio)
    else
      let checked :=
        if command ≤ setIntConfig then gpioCheckEntries gpio.config command entries
        else statusSuccess
      if checked ≠ statusSuccess then (response req checked [command], gpio)
      else if command = getValues then
        match gpio.getCb with
        | none => (response req statusInvalidCmd [command], gpio)
        | some getCb =>
          let values := entries.map fun entry =>
            entrySet (entryIndex entry) (getCb (entryIndex entry))
          (response req statusSuccess (command :: values.flatMap bytes16), gpio)
      else if command = setValues then
        if gpio.setCb then
          if entries.any (valueHigh < entryData ·) then
            (response req statusInvalidCmd [command], gpio)
          else (response req statusSuccess [command], entries.foldl Channel.set gpio)
        else (response req statusInvalidCmd [command], gpio)
      else if command = getIntConfig ∨ command = setIntConfig then
        let handled := gpioHandleIntConfig gpio.intCfg command entries
        let values := if handled.1 = statusSuccess ∧ command = getIntConfig then handled.2.1 else []
        (response req handled.1 (command :: values.flatMap bytes16),
          { gpio with intCfg := handled.2.2 })
      else (response req statusInvalidCmd [command], gpio)

/-- The request asks for a Get or Set of values or interrupt settings with some entries. -/
structure Asks (req : List UInt8) (command : UInt8) (entries : List UInt16) : Prop where
  known : command ≤ setIntConfig
  payload : payload req = command :: entries.flatMap bytes16
  small : req.length ≤ fragBufSize

/-- Every entry was applied in order, or reported with the current value. -/
inductive Applied (entries : List UInt16) (gpio : Channel) :
    UInt8 → List UInt8 → Channel → Prop
  | getValues (getCb : UInt16 → UInt8) (registered : gpio.getCb = some getCb) :
    Applied entries gpio getValues
      (entries.flatMap fun entry =>
        bytes16 (entrySet (entryIndex entry) (getCb (entryIndex entry)))) gpio
  | setValues :
    Applied entries gpio setValues []
      { gpio with
        sets := gpio.sets ++ entries.map fun entry => (entryIndex entry, entryData entry) }
  | getIntConfig :
    Applied entries gpio getIntConfig
      (entries.flatMap fun entry =>
        bytes16 (entrySet (entryIndex entry) (gpio.intCfg (entryIndex entry)))) gpio
  | setIntConfig :
    Applied entries gpio setIntConfig [] { gpio with intCfg := entries.foldl setInt gpio.intCfg }

/-- The channel exposes an index of the entry, and as an output if it is to be driven. -/
def Exposed (config : ConfigData) (command : UInt8) (entry : UInt16) : Prop :=
  ∃ found, config.find (entryIndex entry) = some found ∧
    (command = setValues → found.gpioDirection ≠ dirInput)

variable {gpio : Channel} {config : ConfigData} {command : UInt8} {entries : List UInt16}
  {req : List UInt8}

theorem entriesOf_bytes16 (entries : List UInt16) :
    entriesOf (entries.flatMap bytes16) = entries := by
  induction entries with
  | nil => rfl
  | cons entry rest ih =>
    have split : (entry :: rest).flatMap bytes16 = UInt8.ofNat entry.toNat ::
        UInt8.ofNat (entry.toNat / 256) :: rest.flatMap bytes16 := rfl
    rw [split, entriesOf, ofNat_bytes16, ih]

theorem length_flatMap_bytes16 (entries : List UInt16) :
    (entries.flatMap bytes16).length = 2 * entries.length := by
  induction entries with
  | nil => rfl
  | cons entry rest ih =>
    rw [flatMap_cons, length_append, ih, length_cons]
    have two : (bytes16 entry).length = 2 := rfl
    omega

theorem checkEntries_success :
    checkEntries config command entries = statusSuccess ↔
      ∀ entry ∈ entries, Exposed config command entry := by
  induction entries with
  | nil => simp [checkEntries]
  | cons entry rest ih =>
    rw [forall_mem_cons, checkEntries]
    unfold Exposed
    cases found : config.find (entryIndex entry) with
    | none => simp [statusIndexNotSupported, statusSuccess]
    | some item =>
      by_cases input : command = setValues ∧ item.gpioDirection = dirInput
      · simp [input, statusInvalidOperation, statusSuccess]
      · simp only [if_neg input, ih, Exposed, Option.some.injEq, exists_eq_left']
        constructor
        · intro exposed
          exact ⟨fun sets drives => input ⟨sets, drives⟩, exposed⟩
        · intro exposed
          exact exposed.2

theorem checkEntries_statuses (config : ConfigData) (command : UInt8) (entries : List UInt16) :
    checkEntries config command entries = statusSuccess ∨
      checkEntries config command entries = statusIndexNotSupported ∨
      checkEntries config command entries = statusInvalidOperation := by
  induction entries with
  | nil => exact .inl rfl
  | cons entry rest ih =>
    rw [checkEntries]
    split
    · exact .inr (.inl rfl)
    · split
      · exact .inr (.inr rfl)
      · exact ih

theorem checkIntEntries_statuses (command : UInt8) (entries : List UInt16) :
    checkIntEntries command entries = statusSuccess ∨
      checkIntEntries command entries = statusIntNotSupported ∨
      checkIntEntries command entries = statusInvalidCmd := by
  induction entries with
  | nil => exact .inl rfl
  | cons entry rest ih =>
    rw [checkIntEntries]
    split
    · exact .inr (.inl rfl)
    · split
      · exact .inr (.inr rfl)
      · exact ih

theorem applyIntEntries_set (rsp : List UInt16) (intCfg : UInt16 → UInt8) (entries : List UInt16) :
    applyIntEntries setIntConfig rsp intCfg entries = (rsp, entries.foldl setInt intCfg) := by
  induction entries generalizing intCfg with
  | nil => rfl
  | cons entry rest ih => rw [applyIntEntries, if_pos rfl, ih, foldl_cons]

theorem applyIntEntries_get (rsp : List UInt16) (intCfg : UInt16 → UInt8) (entries : List UInt16) :
    applyIntEntries getIntConfig rsp intCfg entries =
      (rsp ++ entries.map fun entry => entrySet (entryIndex entry) (intCfg (entryIndex entry)),
        intCfg) := by
  induction entries generalizing rsp with
  | nil => rw [applyIntEntries, map_nil, append_nil]
  | cons entry rest ih =>
    rw [applyIntEntries, if_neg (by decide), ih, append_assoc, map_cons,
      singleton_append]

theorem foldl_set (gpio : Channel) (entries : List UInt16) :
    entries.foldl Channel.set gpio =
      { gpio with
        sets := gpio.sets ++ entries.map fun entry => (entryIndex entry, entryData entry) } := by
  induction entries generalizing gpio with
  | nil => rw [foldl_nil, map_nil, append_nil]
  | cons entry rest ih =>
    rw [foldl_cons, ih, Channel.set, map_cons, append_assoc,
      singleton_append]

theorem command_cases {command : UInt8} (known : command ≤ setIntConfig) :
    command = getValues ∨ command = setValues ∨ command = getIntConfig ∨
      command = setIntConfig := by
  have small : command.toNat ≤ 3 := UInt8.le_iff_toNat_le.mp known
  have numbers : command.toNat = 0 ∨ command.toNat = 1 ∨ command.toNat = 2 ∨
      command.toNat = 3 := by
    omega
  rcases numbers with zero | one | two | three
  · exact .inl (UInt8.toNat_inj.mp zero)
  · exact .inr (.inl (UInt8.toNat_inj.mp one))
  · exact .inr (.inr (.inl (UInt8.toNat_inj.mp two)))
  · exact .inr (.inr (.inr (UInt8.toNat_inj.mp three)))

/-- The handler on a request with its command and entries. -/
theorem handleGpioRequest_asks (asks : Asks req command entries) :
    handleGpioRequest gpio req =
      if (command = getValues ∨ command = getIntConfig) ∧
          rspBufSize < headerSize + gpioHdrSize + 2 * entries.length then
        (buildErrResponse req statusSizeNotSupported, gpio)
      else if gpioCheckEntries gpio.config command entries ≠ statusSuccess then
        (response req (gpioCheckEntries gpio.config command entries) [command], gpio)
      else if command = getValues then
        match gpio.getCb with
        | none => (response req statusInvalidCmd [command], gpio)
        | some getCb =>
          (response req statusSuccess (command :: (entries.map fun entry =>
            entrySet (entryIndex entry) (getCb (entryIndex entry))).flatMap bytes16), gpio)
      else if command = setValues then
        if gpio.setCb then
          if entries.any (valueHigh < entryData ·) then
            (response req statusInvalidCmd [command], gpio)
          else (response req statusSuccess [command], entries.foldl Channel.set gpio)
        else (response req statusInvalidCmd [command], gpio)
      else
        let handled := gpioHandleIntConfig gpio.intCfg command entries
        let values := if handled.1 = statusSuccess ∧ command = getIntConfig then handled.2.1 else []
        (response req handled.1 (command :: values.flatMap bytes16),
          { gpio with intCfg := handled.2.2 }) := by
  have length : (payload req).length = 1 + 2 * entries.length := by
    rw [asks.payload, length_cons, length_flatMap_bytes16]
    omega
  have small := asks.small
  have count : (payload req).length = req.length - headerSize := length_drop
  have first : (payload req).getD 0 0 = command := by
    rw [asks.payload]
    rfl
  have others : (payload req).drop gpioHdrSize = entries.flatMap bytes16 := by
    rw [asks.payload]
    rfl
  have whole : 1 + 2 * entries.length - gpioHdrSize = 2 * entries.length := by
    unfold gpioHdrSize
    omega
  have number : entries.length ≤ 2 * entries.length / 2 % 2 ^ 16 := by
    unfold fragBufSize at small
    omega
  have even : ¬ (1 + 2 * entries.length < gpioHdrSize ∨ 2 * entries.length % 2 ≠ 0) := by
    unfold gpioHdrSize
    omega
  have last (notGet : command ≠ getValues) (notSet : command ≠ setValues) :
      command = getIntConfig ∨ command = setIntConfig :=
    ((command_cases asks.known).resolve_left notGet).resolve_left notSet
  unfold handleGpioRequest
  simp only [length, whole, first, others, entriesOf_bytes16, take_of_length_le number,
    if_neg even, if_pos asks.known]
  split
  · rfl
  · split
    · rfl
    · split
      · rfl
      · split
        · rfl
        · rename_i notGet notSet
          rw [if_pos (last notGet notSet)]

theorem gpioHandleIntConfig_cases (intCfg : UInt16 → UInt8) (command : UInt8)
    (entries : List UInt16) :
    gpioHandleIntConfig intCfg command entries =
        (statusSuccess, applyIntEntries command [] intCfg entries) ∨
      ∃ status, responseStatus status ≠ responseStatus statusSuccess ∧
        gpioHandleIntConfig intCfg command entries = (status, [], intCfg) := by
  unfold gpioHandleIntConfig
  rcases checkIntEntries_statuses command entries with valid | bad | bad
  · rw [valid]
    exact .inl rfl
  · rw [bad]
    exact .inr ⟨statusIntNotSupported, by decide, rfl⟩
  · rw [bad]
    exact .inr ⟨statusInvalidCmd, by decide, rfl⟩

/-- A request that fails leaves the channel as it was, and one that succeeds was applied as a whole,
to entries that the channel exposes and inputs excepted. -/
theorem handleGpioRequest_allOrNothing (configured : gpio.config = some config)
    (asks : Asks req command entries) :
    (Succeeded (handleGpioRequest gpio req).1 ∧
      (∃ values, payload (handleGpioRequest gpio req).1 = command :: values ∧
        Applied entries gpio command values (handleGpioRequest gpio req).2) ∧
      ∀ entry ∈ entries, Exposed config command entry) ∨
    (¬ Succeeded (handleGpioRequest gpio req).1 ∧ (handleGpioRequest gpio req).2 = gpio) := by
  have checks : gpioCheckEntries gpio.config command entries =
      checkEntries config command entries := by
    rw [configured]
    rfl
  rw [handleGpioRequest_asks asks, checks]
  have refused : responseStatus statusInvalidCmd ≠ responseStatus statusSuccess := by decide
  split
  · right
    refine ⟨fun success => absurd (succeeded_buildErrResponse.mp success) (by decide), rfl⟩
  · split
    · rename_i checked
      right
      refine ⟨fun success => ?_, rfl⟩
      have same := succeeded_response.mp success
      rcases checkEntries_statuses config command entries with none | missing | input
      · exact checked none
      · rw [missing] at same
        cases same
      · rw [input] at same
        cases same
    · rename_i checked
      have exposed := checkEntries_success.mp (not_not.mp checked)
      have fails {body : List UInt8} : ¬ Succeeded (response req statusInvalidCmd body) :=
        fun success => refused (succeeded_response.mp success)
      rcases command_cases asks.known with rfl | rfl | rfl | rfl
      · cases registered : gpio.getCb with
        | none => exact .inr ⟨fails, rfl⟩
        | some getCb =>
          refine .inl ⟨succeeded_response.mpr rfl, ⟨_, payload_response _ _ _, ?_⟩, exposed⟩
          rw [flatMap_map]
          exact .getValues getCb registered
      · rw [if_neg (by decide), if_pos rfl]
        split
        · split
          · exact .inr ⟨fails, rfl⟩
          · refine .inl ⟨succeeded_response.mpr rfl, ⟨_, payload_response _ _ _, ?_⟩, exposed⟩
            rw [foldl_set]
            exact .setValues
        · exact .inr ⟨fails, rfl⟩
      · rcases gpioHandleIntConfig_cases gpio.intCfg getIntConfig entries with
          valid | ⟨status, failed, bad⟩
        · rw [valid, applyIntEntries_get]
          refine .inl ⟨succeeded_response.mpr rfl, ⟨_, payload_response _ _ _, ?_⟩, exposed⟩
          rw [if_pos ⟨rfl, rfl⟩, nil_append, flatMap_map]
          exact .getIntConfig
        · rw [bad]
          exact .inr ⟨fun success => failed (succeeded_response.mp success), rfl⟩
      · rcases gpioHandleIntConfig_cases gpio.intCfg setIntConfig entries with
          valid | ⟨status, failed, bad⟩
        · rw [valid, applyIntEntries_set]
          refine .inl ⟨succeeded_response.mpr rfl, ⟨_, payload_response _ _ _, ?_⟩, exposed⟩
          exact .setIntConfig
        · rw [bad]
          exact .inr ⟨fun success => failed (succeeded_response.mp success), rfl⟩

/-- Two pins set by one request. -/
theorem handleGpioRequest_allOrNothing_two :
    let config : ConfigData := ⟨2, [⟨4, 0⟩, ⟨5, 0⟩]⟩
    let gpio : Channel := ⟨some config, none, true, [], fun _ => 0⟩
    let req : List UInt8 := [5, 0, 5, 0, 1, 0x04, 0x10, 0x05, 0x00]
    (handleGpioRequest gpio req).2.sets = [(4, 1), (5, 0)] ∧
      ((Succeeded (handleGpioRequest gpio req).1 ∧
        (∃ values, payload (handleGpioRequest gpio req).1 = setValues :: values ∧
          Applied [0x1004, 0x0005] gpio setValues values (handleGpioRequest gpio req).2) ∧
        ∀ entry ∈ [0x1004, 0x0005], Exposed config setValues entry) ∨
      (¬ Succeeded (handleGpioRequest gpio req).1 ∧ (handleGpioRequest gpio req).2 = gpio)) :=
  ⟨by decide, handleGpioRequest_allOrNothing rfl ⟨by decide, by decide, by decide⟩⟩

end OpenBic.Obmf.Gpio
