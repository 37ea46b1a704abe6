import OpenBic.Library.Machine
import OpenBic.Library.Tiling

/-!
# `req_fw_update_handler`: the firmware data transfer

The loop that requests firmware data piece by piece and passes each piece to the update
function of the component, which also chooses the next piece. Requests are padded to the
baseline transfer size and may reach past the image by the padding the update agent allows;
the pieces applied may not. The voltage regulators' update function copies each piece into a buffer
of the image's size and does not look where it ends; a copy that leaves the buffer is followed no
further. The environment answers each turn of the loop.
-/

namespace OpenBic.Pldm

open Library.Machine Library.Tiling

def minFwUpdateBaselineTransSize : Nat := 32

def updateRequestDataMaxRetryCount : Nat := 3

def sectorSz64K : Nat := 0x10000

def pldmSuccess : UInt8 := 0

def ccDataOutOfRange : UInt8 := 0x82

/-- `fw_update_cfg`. -/
structure FwUpdateCfg where
  /-- `image_size`, from `UpdateComponent`. -/
  imageSize : Nat
  /-- `max_buff_size`, from `RequestUpdate`. -/
  maxBuffSize : Nat

/-- `max_buff_size` as `request_update` sets it: the low 16 bits of the size announced, but not
more than the platform's `MAX_FWUPDATE_RSP_BUF_SIZE`. -/
def requestUpdateBuffSize (maxFwupdateRspBufSize maxTransferSize : Nat) : Nat :=
  let maxBuffSize := maxTransferSize % 2 ^ 16
  if maxFwupdateRspBufSize < maxBuffSize then maxFwupdateRspBufSize else maxBuffSize

/-- The update functions of the components: through a flash, or through a buffer for the whole
image that is passed to a voltage regulator at the end. -/
inductive Component where
  | flash
  | vr

/-- What the environment answers in one turn of the loop. -/
structure Answer where
  /-- `keep_update_flag` when the turn begins. -/
  keepUpdate : Bool
  /-- `read_len`, the length of the response; zero when there is none. -/
  readLen : Nat
  completionCode : UInt8
  /-- Whether `malloc` grants the image buffer. -/
  mallocOk : Bool
  deviceOk : Bool

/-- Where the handler is. -/
inductive Status where
  | running
  /-- Past the loop: `TransferComplete` is sent with success. -/
  | complete
  /-- The update function failed: `TransferComplete` is sent with an error, `STATE_AUX_FAILED`. -/
  | updateFailed
  /-- Left with `STATE_AUX_FAILED`. -/
  | auxFailed
  | fault
  /-- A piece was copied past the end of `hex_buff`. -/
  | overrun
deriving DecidableEq

/-- The local variables of the handler, the image buffer, and what was requested and applied. -/
structure Handler where
  status : Status
  offset : Nat
  length : Nat
  lastOffset : Nat
  retryCount : Nat
  /-- Whether `hex_buff` is allocated. -/
  hexBuff : Bool
  /-- Offset and length of every `RequestFirmwareData` sent. -/
  requests : List (Nat × Nat)
  applied : List (Nat × Nat)
deriving DecidableEq

/-- What an update function returns: the next offset and length and whether the image buffer is
allocated, or failure. -/
structure Applied where
  /-- `next_ofs` and `next_len`, unless the function failed. -/
  next : Option (Nat × Nat)
  /-- Whether `hex_buff` is allocated. -/
  hexBuff : Bool
  /-- Whether the copy of the piece has left `hex_buff`. -/
  overrun : Bool

/-- `next_len` before a sector boundary is considered: `max_buff_size`, or what remains. -/
def nextLen (cfg : FwUpdateCfg) (nextOfs : Nat) : Nat :=
  if cfg.imageSize < (nextOfs + cfg.maxBuffSize) % 2 ^ 32 then cfg.imageSize - nextOfs
  else cfg.maxBuffSize

/-- `next_len`, cut at the end of a 64 KiB sector. -/
def cutAtSector (nextOfs nextLen : Nat) : Nat :=
  if sectorSz64K < nextOfs % sectorSz64K + nextLen then sectorSz64K - nextOfs % sectorSz64K
  else nextLen

def pldmFwUpdate (cfg : FwUpdateCfg) (dataOfs dataLen : Nat) (answer : Answer) :
    Option (Nat × Nat) :=
  let nextOfs := (dataOfs + dataLen) % 2 ^ 32
  let next :=
    if nextOfs < cfg.imageSize then (nextOfs, cutAtSector nextOfs (nextLen cfg nextOfs))
    else (nextOfs, 0)
  if answer.deviceOk then some next else none

/-- `pldm_vr_update` once `hex_buff` is there, with `image_size` bytes. -/
def pldmVrUpdateBuffered (cfg : FwUpdateCfg) (dataOfs dataLen : Nat) (answer : Answer) : Applied :=
  let nextOfs := (dataOfs + dataLen) % 2 ^ 32
  if cfg.imageSize < dataOfs + dataLen then ⟨none, true, true⟩
  else if nextOfs < cfg.imageSize then ⟨some (nextOfs, nextLen cfg nextOfs), true, false⟩
  else if answer.deviceOk then ⟨some (nextOfs, 0), false, false⟩
  else ⟨none, false, false⟩

def pldmVrUpdate (cfg : FwUpdateCfg) (hexBuff : Bool) (dataOfs dataLen : Nat) (answer : Answer) :
    Applied :=
  if dataOfs = 0 then
    if hexBuff then ⟨none, false, false⟩
    else if answer.mallocOk then pldmVrUpdateBuffered cfg dataOfs dataLen answer
    else ⟨none, false, false⟩
  else if hexBuff then pldmVrUpdateBuffered cfg dataOfs dataLen answer
  else ⟨none, false, false⟩

/-- `fw_info->update_func`. -/
def updateFunc (component : Component) (cfg : FwUpdateCfg) (hexBuff : Bool)
    (dataOfs dataLen : Nat) (answer : Answer) : Applied :=
  match component with
  | .flash => ⟨pldmFwUpdate cfg dataOfs dataLen answer, hexBuff, false⟩
  | .vr => pldmVrUpdate cfg hexBuff dataOfs dataLen answer

/-- The length check: a request that reaches past the image and the padding is cut at the image's
end. -/
def cutAtImage (cfg : FwUpdateCfg) (offset length : Nat) : Nat :=
  if (cfg.imageSize + minFwUpdateBaselineTransSize) % 2 ^ 32 < (offset + length) % 2 ^ 32 then
    (cfg.imageSize + 2 ^ 32 - offset) % 2 ^ 32
  else length

/-- `req.length` and `expect_len` as the length check leaves them. -/
def checkLength (cfg : FwUpdateCfg) (offset length : Nat) : Nat × Nat :=
  let length := cutAtImage cfg offset length
  if length ≤ minFwUpdateBaselineTransSize then (minFwUpdateBaselineTransSize, length)
  else if cfg.maxBuffSize < length then (cfg.maxBuffSize, cfg.maxBuffSize)
  else (length, length)

def Handler.start (cfg : FwUpdateCfg) (hexBuff : Bool) : Handler :=
  { status := .running, offset := 0, length := cfg.maxBuffSize, lastOffset := 0xFFFFFFFF,
    retryCount := 0, hexBuff, requests := [], applied := [] }

def applyPiece (component : Component) (cfg : FwUpdateCfg) (handler : Handler) (dataLen : Nat)
    (answer : Answer) : Handler :=
  let update := updateFunc component cfg handler.hexBuff handler.offset dataLen answer
  let handler :=
    { handler with
      hexBuff := update.hexBuff
      applied := handler.applied ++ [(handler.offset, dataLen)] }
  match update.next with
  | none => { handler with status := if update.overrun then .overrun else .updateFailed }
  | some (_, 0) => { handler with status := .complete }
  | some (nextOfs, nextLen) => { handler with offset := nextOfs, length := nextLen }

/-- The retry counter for a response to the request at the handler's offset. -/
def Handler.attempts (handler : Handler) : Nat :=
  if handler.lastOffset = handler.offset then handler.retryCount else 0

/-- A response came: retry when its length is not the one expected, else use its data. -/
def receive (component : Component) (cfg : FwUpdateCfg) (handler : Handler) (expectLen : Nat)
    (answer : Answer) : Handler :=
  let attempts := handler.attempts
  let handler := { handler with lastOffset := handler.offset, retryCount := attempts }
  if answer.readLen ≠ handler.length + 1 then
    if updateRequestDataMaxRetryCount < attempts + 1 then
      { handler with retryCount := attempts + 1, status := .auxFailed }
    else { handler with retryCount := attempts + 1 }
  else if answer.completionCode ≠ pldmSuccess ∧ answer.completionCode ≠ ccDataOutOfRange then
    { handler with status := .auxFailed }
  else if cfg.imageSize = 0 then { handler with status := .fault }
  else applyPiece component cfg handler expectLen answer

/-- One turn of the loop of `req_fw_update_handler`. -/
def reqFwUpdateHandler (component : Component) (cfg : FwUpdateCfg) (handler : Handler)
    (answer : Answer) : Option Handler :=
  if handler.status ≠ .running then none
  else if !answer.keepUpdate then some { handler with status := .auxFailed }
  else
    let lengths := checkLength cfg handler.offset handler.length
    let handler :=
      { handler with
        length := lengths.1
        requests := handler.requests ++ [(handler.offset, lengths.1)] }
    if answer.readLen = 0 then some { handler with status := .auxFailed }
    else some (receive component cfg handler lengths.2 answer)

/-- A transfer of an image that is not empty in pieces that are not empty, of sizes that keep the
sums of the handler within 32 bits. -/
structure Sized (cfg : FwUpdateCfg) : Prop where
  image : 0 < cfg.imageSize
  word : cfg.imageSize + 2 ^ 16 ≤ 2 ^ 32
  buff : 0 < cfg.maxBuffSize
  /-- The buffer size is a `uint16_t`. -/
  half : cfg.maxBuffSize < 2 ^ 16

/-- A request that begins inside the image and is neither empty nor longer than the larger of the
buffer and the baseline size. -/
structure Open (cfg : FwUpdateCfg) (offset length : Nat) : Prop where
  inside : offset < cfg.imageSize
  some : 0 < length
  short : length ≤ max cfg.maxBuffSize minFwUpdateBaselineTransSize

section Lengths

variable {cfg : FwUpdateCfg} (sized : Sized cfg) {offset length : Nat}

include sized

theorem Sized.short : max cfg.maxBuffSize minFwUpdateBaselineTransSize < 2 ^ 16 := by
  have half := sized.half
  simp only [minFwUpdateBaselineTransSize]
  omega

theorem cutAtImage_eq (inside : offset ≤ cfg.imageSize) (short : length < 2 ^ 16) :
    cutAtImage cfg offset length =
      if cfg.imageSize + 32 < offset + length then cfg.imageSize - offset else length := by
  have word := sized.word
  have ends : (cfg.imageSize + 32) % 2 ^ 32 = cfg.imageSize + 32 := Nat.mod_eq_of_lt (by omega)
  have reaches : (offset + length) % 2 ^ 32 = offset + length := Nat.mod_eq_of_lt (by omega)
  have rest : (cfg.imageSize + 2 ^ 32 - offset) % 2 ^ 32 = cfg.imageSize - offset := by omega
  rw [cutAtImage, minFwUpdateBaselineTransSize, ends, reaches, rest]

theorem checkLength_bounds (request : Open cfg offset length) :
    0 < (checkLength cfg offset length).2 ∧
      (checkLength cfg offset length).2 ≤ (checkLength cfg offset length).1 ∧
      (checkLength cfg offset length).1 ≤ max cfg.maxBuffSize minFwUpdateBaselineTransSize := by
  obtain ⟨inside, some, short⟩ := request
  have buff := sized.buff
  have cut := cutAtImage_eq sized (Nat.le_of_lt inside) (Nat.lt_of_le_of_lt short sized.short)
  have positive : 0 < cutAtImage cfg offset length := by
    rw [cut]
    split <;> omega
  unfold checkLength
  dsimp only
  split
  · exact ⟨positive, by assumption, Nat.le_max_right _ _⟩
  split
  · exact ⟨buff, le_rfl, Nat.le_max_left _ _⟩
  · refine ⟨positive, le_rfl, ?_⟩
    omega

theorem checkLength_fits (request : Open cfg offset length)
    (fits : offset + length ≤ cfg.imageSize) :
    checkLength cfg offset length =
      (max length minFwUpdateBaselineTransSize, length) := by
  obtain ⟨inside, some, short⟩ := request
  have cut : cutAtImage cfg offset length = length := by
    rw [cutAtImage_eq sized (Nat.le_of_lt inside) (Nat.lt_of_le_of_lt short sized.short),
      if_neg (by omega)]
  unfold checkLength
  rw [cut]
  dsimp only
  split
  · rw [Nat.max_eq_right (by assumption)]
  · rw [if_neg (by omega), Nat.max_eq_left (by omega)]

theorem nextLen_eq (inside : offset < cfg.imageSize) :
    nextLen cfg offset = min cfg.maxBuffSize (cfg.imageSize - offset) := by
  have word := sized.word
  have half := sized.half
  rw [nextLen, Nat.mod_eq_of_lt (by omega)]
  split <;> omega

theorem cutAtSector_fits (inside : offset < cfg.imageSize) :
    0 < cutAtSector offset (nextLen cfg offset) ∧
      cutAtSector offset (nextLen cfg offset) ≤ cfg.maxBuffSize ∧
      offset + cutAtSector offset (nextLen cfg offset) ≤ cfg.imageSize := by
  have buff := sized.buff
  have sector : offset % sectorSz64K < sectorSz64K := Nat.mod_lt _ (by decide)
  rw [nextLen_eq sized inside, cutAtSector]
  split <;> omega

/-- What the update functions make of a piece: while there is more of the image, a next piece that
is not empty and ends inside it; at its end, none. -/
theorem updateFunc_next {component : Component} {hexBuff : Bool} {dataOfs dataLen : Nat}
    {answer : Answer} {next : Nat × Nat}
    (updated : (updateFunc component cfg hexBuff dataOfs dataLen answer).next = some next) :
    next.1 = (dataOfs + dataLen) % 2 ^ 32 ∧
      ((next.1 < cfg.imageSize ∧ 0 < next.2 ∧ next.2 ≤ cfg.maxBuffSize ∧
          next.1 + next.2 ≤ cfg.imageSize) ∨
        (cfg.imageSize ≤ next.1 ∧ next.2 = 0)) := by
  have buff := sized.buff
  cases component with
  | flash =>
    simp only [updateFunc, pldmFwUpdate] at updated
    split at updated
    · split at updated
      · rename_i inside
        cases updated
        exact ⟨rfl, .inl ⟨inside, cutAtSector_fits sized inside⟩⟩
      · rename_i outside
        cases updated
        exact ⟨rfl, .inr ⟨Nat.le_of_not_lt outside, rfl⟩⟩
    · cases updated
  | vr =>
    have buffered : (pldmVrUpdateBuffered cfg dataOfs dataLen answer).next = some next := by
      simp only [updateFunc, pldmVrUpdate] at updated
      split at updated
      · split at updated
        · cases updated
        split at updated
        · exact updated
        · cases updated
      · split at updated
        · exact updated
        · cases updated
    unfold pldmVrUpdateBuffered at buffered
    dsimp only at buffered
    split at buffered
    · cases buffered
    split at buffered
    · rename_i inside
      cases buffered
      have length := nextLen_eq sized inside
      exact ⟨rfl, .inl ⟨inside, by dsimp only; omega, by dsimp only; omega, by dsimp only; omega⟩⟩
    · rename_i outside
      split at buffered
      · cases buffered
        exact ⟨rfl, .inr ⟨Nat.le_of_not_lt outside, rfl⟩⟩
      · cases buffered

end Lengths

/-- A copy leaves `hex_buff` only when the piece reaches past the image. -/
theorem updateFunc_overrun {component : Component} {cfg : FwUpdateCfg} {hexBuff : Bool}
    {dataOfs dataLen : Nat} {answer : Answer}
    (beyond : (updateFunc component cfg hexBuff dataOfs dataLen answer).overrun = true) :
    component = .vr ∧ cfg.imageSize < dataOfs + dataLen := by
  cases component with
  | flash => cases beyond
  | vr =>
    refine ⟨rfl, ?_⟩
    by_contra inside
    have quiet : (pldmVrUpdateBuffered cfg dataOfs dataLen answer).overrun = false := by
      unfold pldmVrUpdateBuffered
      rw [if_neg inside]
      split
      · rfl
      · split <;> rfl
    simp only [updateFunc, pldmVrUpdate] at beyond
    split at beyond
    · split at beyond
      · cases beyond
      · split at beyond
        · exact absurd (quiet.symm.trans beyond) (by decide)
        · cases beyond
    · split at beyond
      · exact absurd (quiet.symm.trans beyond) (by decide)
      · cases beyond

/-- What one turn of the loop can do to a handler with an open request. -/
inductive Turn (component : Component) (cfg : FwUpdateCfg) (handler : Handler) (answer : Answer)
    (next : Handler) : Prop where
  | auxFailed (status : next.status = .auxFailed) (applied : next.applied = handler.applied)
      (requests : next.requests = handler.requests ∨ next.requests = handler.requests ++
        [(handler.offset, (checkLength cfg handler.offset handler.length).1)])
  | retried (status : next.status = .running) (applied : next.applied = handler.applied)
      (requests : next.requests = handler.requests ++
        [(handler.offset, (checkLength cfg handler.offset handler.length).1)])
      (answered : answer.readLen ≠ 0)
      (unexpected : answer.readLen ≠ (checkLength cfg handler.offset handler.length).1 + 1)
      (offset : next.offset = handler.offset)
      (length : next.length = (checkLength cfg handler.offset handler.length).1)
      (lastOffset : next.lastOffset = handler.offset)
      (retryCount : next.retryCount = handler.attempts + 1)
      (again : handler.attempts + 1 ≤ updateRequestDataMaxRetryCount)
  | ended (applied : next.applied = handler.applied ++
        [(handler.offset, (checkLength cfg handler.offset handler.length).2)])
      (requests : next.requests = handler.requests ++
        [(handler.offset, (checkLength cfg handler.offset handler.length).1)])
      (status : next.status = .updateFailed ∨ (next.status = .complete ∧
        cfg.imageSize ≤ handler.offset + (checkLength cfg handler.offset handler.length).2))
  | overran (status : next.status = .overrun)
      (applied : next.applied = handler.applied ++
        [(handler.offset, (checkLength cfg handler.offset handler.length).2)])
      (buffered : component = .vr)
      (past : cfg.imageSize < handler.offset + (checkLength cfg handler.offset handler.length).2)
  | continued (status : next.status = .running)
      (applied : next.applied = handler.applied ++
        [(handler.offset, (checkLength cfg handler.offset handler.length).2)])
      (requests : next.requests = handler.requests ++
        [(handler.offset, (checkLength cfg handler.offset handler.length).1)])
      (offset : next.offset =
        handler.offset + (checkLength cfg handler.offset handler.length).2)
      (lastOffset : next.lastOffset = handler.offset)
      (retryCount : next.retryCount = handler.attempts)
      (some : 0 < next.length) (short : next.length ≤ cfg.maxBuffSize)
      (fits : next.offset + next.length ≤ cfg.imageSize)

/-- A turn of the loop does one of these. -/
theorem reqFwUpdateHandler_turn {component : Component} {cfg : FwUpdateCfg} (sized : Sized cfg)
    {handler next : Handler} {answer : Answer}
    (request : Open cfg handler.offset handler.length)
    (turned : reqFwUpdateHandler component cfg handler answer = some next) :
    Turn component cfg handler answer next := by
  obtain ⟨some, expected, short⟩ := checkLength_bounds sized request
  have inside := request.inside
  have word := sized.word
  have bound := sized.short
  unfold reqFwUpdateHandler at turned
  split at turned
  · cases turned
  rename_i running
  split at turned
  · cases turned
    exact .auxFailed rfl rfl (.inl rfl)
  split at turned
  · cases turned
    exact .auxFailed rfl rfl (.inr rfl)
  rename_i answered
  cases turned
  unfold receive
  dsimp only
  split
  · rename_i unexpected
    split
    · exact .auxFailed rfl rfl (.inr rfl)
    · rename_i again
      exact .retried (by simpa using running) rfl rfl answered unexpected rfl rfl rfl rfl
        (Nat.le_of_not_lt again)
  split
  · exact .auxFailed rfl rfl (.inr rfl)
  split
  · omega
  unfold applyPiece
  dsimp only
  split
  · by_cases beyond : (updateFunc component cfg handler.hexBuff handler.offset
        (checkLength cfg handler.offset handler.length).2 answer).overrun = true
    · obtain ⟨buffered, past⟩ := updateFunc_overrun beyond
      exact .overran (if_pos beyond) rfl buffered past
    · exact .ended rfl rfl (.inl (if_neg beyond))
  · rename_i updated
    obtain ⟨ofs, bounds⟩ := updateFunc_next sized updated
    refine .ended rfl rfl (.inr ⟨rfl, ?_⟩)
    omega
  · rename_i nextOfs nextLen more updated
    obtain ⟨ofs, bounds⟩ := updateFunc_next sized updated
    rw [Nat.mod_eq_of_lt (by omega)] at ofs
    obtain ⟨-, positive, small, fits⟩ | ⟨-, none⟩ := bounds
    · exact .continued (by simpa using running) rfl rfl ofs rfl rfl positive small fits
    · exact absurd none more

/-- The pieces applied, and what is left to request while the loop runs. -/
structure Covering (cfg : FwUpdateCfg) (handler : Handler) (stop : Nat) : Prop where
  tiles : Tiles 0 handler.applied stop
  inside : stop ≤ cfg.imageSize
  sound : handler.status ≠ .overrun
  complete : handler.status = .complete → stop = cfg.imageSize
  asked : ∀ request ∈ handler.requests, request.1 < cfg.imageSize ∧
    (request.1 + request.2 ≤ cfg.imageSize ∨ request.2 = minFwUpdateBaselineTransSize)
  offset : handler.status = .running → handler.offset = stop
  request : handler.status = .running → Open cfg handler.offset handler.length
  expected : handler.status = .running →
    handler.offset + (checkLength cfg handler.offset handler.length).2 ≤ cfg.imageSize
  padded : handler.status = .running →
    handler.offset + (checkLength cfg handler.offset handler.length).1 ≤ cfg.imageSize ∨
      (checkLength cfg handler.offset handler.length).1 = minFwUpdateBaselineTransSize

/-- The handler has covered the image up to a place. -/
def Covered (cfg : FwUpdateCfg) (handler : Handler) : Prop := ∃ stop, Covering cfg handler stop

/-- A request that reaches past the image is answered with the length asked for, or not at all. -/
def AnswersWhole (cfg : FwUpdateCfg) (handler : Handler) (answer : Answer) : Prop :=
  handler.offset + (checkLength cfg handler.offset handler.length).1 ≤ cfg.imageSize ∨
    answer.readLen = 0 ∨
    answer.readLen = (checkLength cfg handler.offset handler.length).1 + 1

/-- The first request is one of the buffer size, or is cut at the image's end. -/
theorem start_covering {cfg : FwUpdateCfg} (sized : Sized cfg) (hexBuff : Bool)
    (first : cfg.maxBuffSize ≤ cfg.imageSize ∨
      cfg.imageSize + minFwUpdateBaselineTransSize < cfg.maxBuffSize) :
    Covering cfg (.start cfg hexBuff) 0 := by
  have request : Open cfg 0 cfg.maxBuffSize :=
    ⟨sized.image, sized.buff, Nat.le_max_left _ _⟩
  have lengths : (checkLength cfg 0 cfg.maxBuffSize).2 ≤ cfg.imageSize ∧
      ((checkLength cfg 0 cfg.maxBuffSize).1 ≤ cfg.imageSize ∨
        (checkLength cfg 0 cfg.maxBuffSize).1 = minFwUpdateBaselineTransSize) := by
    rcases first with fits | large
    · rw [checkLength_fits sized request (by omega)]
      omega
    · have cut := cutAtImage_eq sized (Nat.zero_le _) sized.half
      rw [if_pos (by simpa [minFwUpdateBaselineTransSize] using large)] at cut
      unfold checkLength
      rw [cut]
      dsimp only
      split
      · exact ⟨le_rfl, .inr rfl⟩
      · rw [if_neg (by omega)]
        exact ⟨le_rfl, .inl le_rfl⟩
  exact
    { tiles := .nil 0
      inside := Nat.zero_le _
      sound := by simp [Handler.start]
      complete := nofun
      asked := nofun
      offset := fun _ => rfl
      request := fun _ => request
      expected := fun _ => by simpa [Handler.start] using lengths.1
      padded := fun _ => by simpa [Handler.start] using lengths.2 }

theorem covering_of_fits {cfg : FwUpdateCfg} (sized : Sized cfg) {handler : Handler}
    (tiles : Tiles 0 handler.applied handler.offset) (status : handler.status = .running)
    (asked : ∀ request ∈ handler.requests, request.1 < cfg.imageSize ∧
      (request.1 + request.2 ≤ cfg.imageSize ∨ request.2 = minFwUpdateBaselineTransSize))
    (request : Open cfg handler.offset handler.length)
    (fits : handler.offset + handler.length ≤ cfg.imageSize) :
    Covering cfg handler handler.offset := by
  have lengths := checkLength_fits sized request fits
  exact
    { tiles
      inside := Nat.le_of_lt request.inside
      sound := by simp [status]
      complete := fun done => by rw [status] at done; cases done
      asked
      offset := fun _ => rfl
      request := fun _ => request
      expected := fun _ => by rw [lengths]; exact fits
      padded := fun _ => by
        rw [lengths]
        omega }

theorem running_of_turned {component : Component} {cfg : FwUpdateCfg} {handler next : Handler}
    {answer : Answer} (turned : reqFwUpdateHandler component cfg handler answer = some next) :
    handler.status = .running := by
  unfold reqFwUpdateHandler at turned
  split at turned
  · cases turned
  · rename_i running
    simpa using running

/-- Every turn keeps the pieces contiguous and inside the image. -/
theorem turn_covering {component : Component} {cfg : FwUpdateCfg} (sized : Sized cfg)
    {handler next : Handler} {answer : Answer} (covered : Covered cfg handler)
    (whole : AnswersWhole cfg handler answer)
    (turned : reqFwUpdateHandler component cfg handler answer = some next) :
    Covered cfg next := by
  obtain ⟨stop, before⟩ := covered
  have running := running_of_turned turned
  obtain rfl := before.offset running
  have request := before.request running
  have expected := before.expected running
  have padded := before.padded running
  obtain ⟨positive, covers, short⟩ := checkLength_bounds sized request
  have asked : ∀ request ∈ handler.requests ++
      [(handler.offset, (checkLength cfg handler.offset handler.length).1)],
      request.1 < cfg.imageSize ∧
        (request.1 + request.2 ≤ cfg.imageSize ∨ request.2 = minFwUpdateBaselineTransSize) := by
    intro other member
    rcases List.mem_append.mp member with earlier | last
    · exact before.asked other earlier
    · obtain rfl := List.mem_singleton.mp last
      exact ⟨request.inside, padded⟩
  have tiles := before.tiles.snoc (checkLength cfg handler.offset handler.length).2
  cases reqFwUpdateHandler_turn sized request turned with
  | auxFailed status applied requests =>
    refine ⟨handler.offset, by rw [applied]; exact before.tiles, before.inside, ?_, ?_, ?_, ?_, ?_,
      ?_, ?_⟩
    · simp [status]
    · simp [status]
    · rcases requests with same | more
      · rw [same]
        exact before.asked
      · rw [more]
        exact asked
    all_goals simp [status]
  | retried status applied requests answered unexpected offset length lastOffset retryCount
      again =>
    have inside : handler.offset + (checkLength cfg handler.offset handler.length).1 ≤
        cfg.imageSize := by
      rcases whole with inside | none | right
      · exact inside
      · exact absurd none answered
      · exact absurd right unexpected
    refine ⟨next.offset, covering_of_fits sized ?_ status ?_ ?_ ?_⟩
    · rw [applied, offset]
      exact before.tiles
    · rw [requests]
      exact asked
    · rw [offset, length]
      exact ⟨request.inside, by omega, short⟩
    · rw [offset, length]
      exact inside
  | ended applied requests status =>
    refine ⟨_, by rw [applied]; exact tiles, expected, ?_, ?_, by rw [requests]; exact asked, ?_,
      ?_, ?_, ?_⟩
    · rcases status with failed | ⟨complete, -⟩
      · simp [failed]
      · simp [complete]
    · intro done
      rcases status with failed | ⟨-, reached⟩
      · rw [failed] at done
        cases done
      · omega
    all_goals
      intro goes
      rcases status with failed | ⟨complete, -⟩
      · rw [failed] at goes
        cases goes
      · rw [complete] at goes
        cases goes
  | overran status applied buffered past => omega
  | continued status applied requests offset lastOffset retryCount some small fits =>
    refine ⟨next.offset, covering_of_fits sized ?_ status ?_ ⟨?_, some, ?_⟩ fits⟩
    · rw [applied, offset]
      exact tiles
    · rw [requests]
      exact asked
    · omega
    · omega

/-- What was written covers the image as far as the handler has come. -/
theorem run_covering {component : Component} {cfg : FwUpdateCfg} (sized : Sized cfg)
    (hexBuff : Bool) (first : cfg.maxBuffSize ≤ cfg.imageSize ∨
      cfg.imageSize + minFwUpdateBaselineTransSize < cfg.maxBuffSize)
    {answers : List Answer} {handler : Handler}
    (whole : Meets (reqFwUpdateHandler component cfg) (AnswersWhole cfg) (.start cfg hexBuff)
      answers)
    (ran : run (reqFwUpdateHandler component cfg) (.start cfg hexBuff) answers = some handler) :
    Covered cfg handler := by
  apply invariant (turn_covering sized) ?_ whole ran
  exact ⟨0, start_covering sized hexBuff first⟩

/-- A piece that reached past the image has left `hex_buff`. -/
def Overruns (component : Component) (cfg : FwUpdateCfg) (handler : Handler) : Prop :=
  component = .vr ∧ ∃ piece ∈ handler.applied, cfg.imageSize < piece.1 + piece.2

/-- While the loop runs its request is open and it has not asked too often; it never divides by
zero. -/
structure Alive (component : Component) (cfg : FwUpdateCfg) (handler : Handler) : Prop where
  request : handler.status = .running → Open cfg handler.offset handler.length
  retries : handler.status = .running → handler.retryCount ≤ updateRequestDataMaxRetryCount
  sound : handler.status ≠ .fault
  overran : handler.status = .overrun → Overruns component cfg handler

def Handler.remaining (cfg : FwUpdateCfg) (handler : Handler) : Nat :=
  if handler.status = .running then
    5 * (cfg.imageSize - handler.offset) +
      (updateRequestDataMaxRetryCount + 2 - handler.attempts)
  else 0

theorem turned_of_running (component : Component) (cfg : FwUpdateCfg) {handler : Handler}
    (running : handler.status = .running) (answer : Answer) :
    ∃ next, reqFwUpdateHandler component cfg handler answer = some next := by
  unfold reqFwUpdateHandler
  rw [if_neg (by simp [running])]
  split
  · exact ⟨_, rfl⟩
  split
  · exact ⟨_, rfl⟩
  · exact ⟨_, rfl⟩

theorem Alive.attempts {component : Component} {cfg : FwUpdateCfg} {handler : Handler}
    (alive : Alive component cfg handler) (running : handler.status = .running) :
    handler.attempts ≤ updateRequestDataMaxRetryCount := by
  unfold Handler.attempts
  split
  · exact alive.retries running
  · exact Nat.zero_le _

section Turns

variable {component : Component} {cfg : FwUpdateCfg} (sized : Sized cfg)
  {handler next : Handler} {answer : Answer}

include sized

/-- Every turn keeps the loop alive and leaves fewer turns. -/
theorem turn_alive (alive : Alive component cfg handler)
    (turned : reqFwUpdateHandler component cfg handler answer = some next) :
    Alive component cfg next ∧ next.remaining cfg < handler.remaining cfg := by
  have running := running_of_turned turned
  have request := alive.request running
  have inside := request.inside
  have attempts := alive.attempts running
  have limit : updateRequestDataMaxRetryCount = 3 := rfl
  obtain ⟨positive, covers, short⟩ := checkLength_bounds sized request
  have before : handler.remaining cfg = 5 * (cfg.imageSize - handler.offset) +
      (updateRequestDataMaxRetryCount + 2 - handler.attempts) := if_pos running
  have settled (ended : next.status ≠ .running) (sound : next.status ≠ .fault)
      (overran : next.status = .overrun → Overruns component cfg next) :
      Alive component cfg next ∧ next.remaining cfg < handler.remaining cfg := by
    refine ⟨⟨fun goes => absurd goes ended, fun goes => absurd goes ended, sound, overran⟩, ?_⟩
    rw [before, Handler.remaining, if_neg ended]
    omega
  cases reqFwUpdateHandler_turn sized request turned with
  | auxFailed status applied requests =>
    exact settled (by simp [status]) (by simp [status]) (by simp [status])
  | retried status applied requests answered unexpected offset length lastOffset retryCount
      again =>
    have count : next.attempts = handler.attempts + 1 := by
      rw [Handler.attempts, if_pos (by rw [lastOffset, offset]), retryCount]
    refine ⟨⟨fun _ => ?_, fun _ => by omega, by simp [status], by simp [status]⟩, ?_⟩
    · rw [offset, length]
      exact ⟨inside, by omega, short⟩
    · rw [before, Handler.remaining, if_pos status, count, offset]
      omega
  | ended applied requests status =>
    rcases status with failed | ⟨complete, -⟩
    · exact settled (by simp [failed]) (by simp [failed]) (by simp [failed])
    · exact settled (by simp [complete]) (by simp [complete]) (by simp [complete])
  | overran status applied buffered past =>
    have last : (handler.offset, (checkLength cfg handler.offset handler.length).2) ∈
        next.applied := by
      rw [applied]
      exact List.mem_append_right _ List.mem_cons_self
    exact settled (by simp [status]) (by simp [status]) fun _ => ⟨buffered, _, last, past⟩
  | continued status applied requests offset lastOffset retryCount some small fits =>
    refine ⟨⟨fun _ => ⟨by omega, some, by omega⟩, fun _ => by omega, by simp [status],
      by simp [status]⟩, ?_⟩
    rw [before, Handler.remaining, if_pos status]
    omega

end Turns

theorem start_alive (component : Component) {cfg : FwUpdateCfg} (sized : Sized cfg)
    (hexBuff : Bool) : Alive component cfg (.start cfg hexBuff) :=
  { request := fun _ => ⟨sized.image, sized.buff, Nat.le_max_left _ _⟩
    retries := fun _ => Nat.zero_le _
    sound := by simp [Handler.start]
    overran := by simp [Handler.start] }

/-- What the firmware data transfer achieves. -/
structure TransfersExactly (component : Component) (cfg : FwUpdateCfg) (hexBuff : Bool) : Prop where
  /-- It ends: no run is longer than five turns for each byte and five more, and after every run
  the handler takes another turn on any answer unless it has ended. It never divides by zero, and
  leaves `hex_buff` only with a piece that reaches past the image. -/
  terminates : ∀ answers handler,
    run (reqFwUpdateHandler component cfg) (.start cfg hexBuff) answers = some handler →
    answers.length ≤ 5 * cfg.imageSize + 5 ∧ handler.status ≠ .fault ∧
      (handler.status = .overrun → Overruns component cfg handler) ∧
      (handler.status = .running → ∀ answer,
        ∃ next, reqFwUpdateHandler component cfg handler answer = some next)
  /-- The pieces applied follow one another from 0 without gap or overlap and end inside the
  image, so none leaves `hex_buff`; requests begin inside the image, and reach past it only when they
  are padded to the baseline size; a complete transfer has applied every byte of the image exactly once. -/
  covers : (cfg.maxBuffSize ≤ cfg.imageSize ∨
      cfg.imageSize + minFwUpdateBaselineTransSize < cfg.maxBuffSize) →
    ∀ answers handler,
    Meets (reqFwUpdateHandler component cfg) (AnswersWhole cfg) (.start cfg hexBuff) answers →
    run (reqFwUpdateHandler component cfg) (.start cfg hexBuff) answers = some handler →
    (∃ stop ≤ cfg.imageSize, Tiles 0 handler.applied stop) ∧ handler.status ≠ .overrun ∧
      (∀ request ∈ handler.requests, request.1 < cfg.imageSize ∧
        (request.1 + request.2 ≤ cfg.imageSize ∨ request.2 = minFwUpdateBaselineTransSize)) ∧
      (handler.status = .complete → ∀ address,
        handler.applied.countP (fun piece => piece.1 ≤ address ∧ address < piece.1 + piece.2) =
          if address < cfg.imageSize then 1 else 0)

/-- For every image that is not empty and leaves room for a piece below 2^32, and every size
announced whose low 16 bits are not zero, the transfer ends and covers the image. -/
theorem transfer_exact (component : Component) (hexBuff : Bool)
    (maxFwupdateRspBufSize maxTransferSize imageSize : Nat) (image : 0 < imageSize)
    (word : imageSize + 2 ^ 16 ≤ 2 ^ 32) (platform : 0 < maxFwupdateRspBufSize)
    (announced : 0 < maxTransferSize % 2 ^ 16) :
    TransfersExactly component
      ⟨imageSize, requestUpdateBuffSize maxFwupdateRspBufSize maxTransferSize⟩ hexBuff := by
  have sized : Sized
      ⟨imageSize, requestUpdateBuffSize maxFwupdateRspBufSize maxTransferSize⟩ := by
    refine ⟨image, word, ?_, ?_⟩
    all_goals
      simp only [requestUpdateBuffSize]
      split <;> omega
  refine ⟨?_, ?_⟩
  · intro answers handler ran
    have alive := invariant_of_step (fun before moved => (turn_alive sized before moved).1)
      (start_alive component sized hexBuff) ran
    refine ⟨length_le_of_decreases (fun before moved => (turn_alive sized before moved).1)
      (fun before moved => (turn_alive sized before moved).2) (start_alive component sized hexBuff)
      ran, alive.sound, alive.overran, ?_⟩
    intro running answer
    exact turned_of_running component _ running answer
  · intro first answers handler whole ran
    obtain ⟨stop, covering⟩ := run_covering sized hexBuff first whole ran
    refine ⟨⟨stop, covering.inside, covering.tiles⟩, covering.sound, covering.asked, ?_⟩
    intro complete address
    have reached := covering.complete complete
    rw [covering.tiles.countP_eq, reached]
    simp

/-- A response of the length asked for, whose data the device takes. -/
def goodAnswer (length : Nat) : Answer := ⟨true, length + 1, pldmSuccess, true, true⟩

example : (run (reqFwUpdateHandler .flash ⟨40, 32⟩) (.start ⟨40, 32⟩ false)
    [goodAnswer 32, goodAnswer 32]).map (fun handler => (handler.status, handler.applied)) =
      some (.complete, [(0, 32), (32, 8)]) := by decide

/-- A first piece of the buffer size, and a padded piece asked for again, leave `hex_buff`. -/
example : ((run (reqFwUpdateHandler .vr ⟨100, 132⟩) (.start ⟨100, 132⟩ false)
      [goodAnswer 132]).map Handler.status,
    (run (reqFwUpdateHandler .vr ⟨40, 32⟩) (.start ⟨40, 32⟩ false)
      [goodAnswer 32, goodAnswer 8, goodAnswer 32]).map Handler.status) =
        (some .overrun, some .overrun) := by decide

/-- An image of a thousand bytes for a flash. -/
theorem transfer_exact_thousand :
    TransfersExactly .flash ⟨1000, requestUpdateBuffSize 256 512⟩ false :=
  transfer_exact .flash false 256 512 1000 (by decide) (by decide) (by decide) (by decide)

/-- The second request for an image of 40 bytes, 32 bytes at a time, is padded and asks for bytes
past the image. -/
theorem transfer_asks_past_image :
    ¬ ∀ (component : Component) (hexBuff : Bool)
        (maxFwupdateRspBufSize maxTransferSize imageSize : Nat) (answers : List Answer)
        (handler : Handler), 0 < maxFwupdateRspBufSize →
      run (reqFwUpdateHandler component
          ⟨imageSize, requestUpdateBuffSize maxFwupdateRspBufSize maxTransferSize⟩)
        (.start ⟨imageSize, requestUpdateBuffSize maxFwupdateRspBufSize maxTransferSize⟩ hexBuff)
        answers = some handler →
      (∃ stop ≤ imageSize, Tiles 0 handler.applied stop) ∧
        (∀ request ∈ handler.requests, request.1 + request.2 ≤ imageSize) ∧
        (handler.status = .complete → Tiles 0 handler.applied imageSize) := by
  intro always
  obtain ⟨-, asked, -⟩ := always .flash false 256 32 40 [goodAnswer 32, goodAnswer 32]
    { status := .complete, offset := 32, length := 32, lastOffset := 32, retryCount := 0,
      hexBuff := false, requests := [(0, 32), (32, 32)], applied := [(0, 32), (32, 8)] }
    (by decide) (by decide)
  exact absurd (asked (32, 32) (by decide)) (by decide)

end OpenBic.Pldm
