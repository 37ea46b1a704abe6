import OpenBic.Obmf.MemDevice

/-!
# Sending on a serial channel

`obmf_serial_send`: the staging buffer, the refill callback, and the attempts, each with what the
host makes of it. A request that is refused part of its characters is sent again from the first
character that was not accepted, with more characters behind them.
-/

namespace OpenBic.Obmf.SerialSend

open List

/-- `OBMF_SERIAL_MAX_CHARS`, with the size of `obmf_serial_request_t`. -/
def serialMaxChars : Nat := 256 - 3

def serialRspSize : Nat := 3

/-- A response on a serial channel, as the handler reads it. -/
structure SerialRsp where
  status : UInt8
  payloadLen : Nat
  ackNack : UInt8
  acceptedCount : UInt16

/-- What a response leaves for the sender in `struct serial_ch_state`. -/
structure SerialChState where
  lastWasError : Bool
  lastAckNack : UInt8
  lastAccepted : UInt16

def serialSignalError : SerialChState := ⟨true, 1, 0⟩

def handleSerialResponse (rsp : SerialRsp) : SerialChState :=
  if rsp.status ≠ 0 then serialSignalError
  else if rsp.payloadLen < serialRspSize then serialSignalError
  else ⟨false, rsp.ackNack &&& 0x01, rsp.acceptedCount⟩

/-- `staging` up to `buf_len`. -/
structure Staging where
  chars : List UInt8
  fits : chars.length ≤ serialMaxChars

/-- `obmf_serial_refill_cb_t`: the characters that are appended, and what is left of the source. -/
structure Refill (σ : Type) where
  take : σ → Nat → List UInt8 × σ
  bounded : ∀ source space, (take source space).1.length ≤ space

/-- One attempt: what the tries of `obmf_send_request` return, and the response before the
timeout. -/
structure Attempt where
  /-- What `obmf_send_request` returns each time. -/
  sends : Nat → SendResult
  answer : Option SerialRsp
  unsaid : Nat

def Attempt.took (attempt : Attempt) (len : Nat) : Nat :=
  match attempt.answer with
  | none => min attempt.unsaid len
  | some rsp =>
    if rsp.status ≠ 0 ∨ rsp.payloadLen < serialRspSize then min attempt.unsaid len
    else if rsp.ackNack &&& 0x01 = 0 then len
    else min rsp.acceptedCount.toNat len

/-- What a serial send returns. -/
inductive SerialResult where
  | ok
  | inval
  | msgSize
  /-- An error of `obmf_send_request`. -/
  | refused (rc : SendResult)
  | timedOut
  | io

/-- The sender between two attempts, with what went through it. -/
structure Sending (σ : Type) where
  staging : Staging
  source : σ
  taken : List UInt8
  accepted : List (List UInt8)

/-- How a call comes out. -/
structure Sent where
  result : SerialResult
  taken : List UInt8
  accepted : List (List UInt8)

variable {σ : Type}

def refilled (refill : Option (Refill σ)) (staging : Staging) (source : σ) : List UInt8 × σ :=
  match refill with
  | none => ([], source)
  | some refill =>
    let space := serialMaxChars - staging.chars.length
    if 0 < space then refill.take source space else ([], source)

theorem length_refilled (refill : Option (Refill σ)) (staging : Staging) (source : σ) :
    (refilled refill staging source).1.length ≤ serialMaxChars - staging.chars.length := by
  unfold refilled
  split
  · exact Nat.zero_le _
  · rename_i refill
    dsimp only
    split
    · exact refill.bounded _ _
    · exact Nat.zero_le _

def Sending.append (sending : Sending σ) (refill : Option (Refill σ)) : Sending σ :=
  { sending with
    staging := ⟨sending.staging.chars ++ (refilled refill sending.staging sending.source).1, by
      have room := length_refilled refill sending.staging sending.source
      have fits := sending.staging.fits
      rw [length_append]
      omega⟩
    source := (refilled refill sending.staging sending.source).2
    taken := sending.taken ++ (refilled refill sending.staging sending.source).1 }

def Sending.advance (sending : Sending σ) (accepted : Nat) : Sending σ :=
  { sending with
    staging := ⟨sending.staging.chars.drop accepted, by
      rw [length_drop]
      exact Nat.le_trans (Nat.sub_le _ _) sending.staging.fits⟩ }

/-- The loop around `obmf_send_request`, from a try on with so many retries left. -/
def sendTries (sends : Nat → SendResult) (index : Nat) : Nat → SendResult
  | 0 => sends index
  | retries + 1 =>
    match sends index with
    | .busy => sendTries sends (index + 1) retries
    | rc => rc

def attempts (refill : Option (Refill σ)) (host : Nat → Attempt) (index : Nat)
    (sending : Sending σ) : Nat → SerialResult × Sending σ
  | 0 => (.io, sending)
  | left + 1 =>
    let attempt := host index
    match sendTries attempt.sends 0 (requestMaxRetry - 1) with
    | .ok =>
      let chars := sending.staging.chars
      let took := chars.take (attempt.took chars.length)
      let sending := { sending with accepted := sending.accepted ++ [took] }
      match attempt.answer with
      | none => (.timedOut, sending)
      | some rsp =>
        let st := handleSerialResponse rsp
        if st.lastWasError then (.io, sending)
        else if st.lastAckNack = 0 then (.ok, sending)
        else if chars.length ≤ st.lastAccepted.toNat then (.ok, sending)
        else
          attempts refill host (index + 1)
            ((sending.advance st.lastAccepted.toNat).append refill) left
    | rc => (.refused rc, sending)

/-- `obmf_serial_send`, with no data for a null pointer. -/
def obmfSerialSend (channel : UInt8) (data : Option (List UInt8)) (refill : Option (Refill σ))
    (source : σ) (host : Nat → Attempt) : Sent :=
  if channel ≠ 2 ∧ channel ≠ 16 then ⟨.inval, [], []⟩
  else
    match data with
    | none => ⟨.ok, [], []⟩
    | some data =>
      if data.length = 0 then ⟨.ok, [], []⟩
      else if fits : data.length ≤ serialMaxChars then
        let sending := (Sending.mk ⟨data, fits⟩ source [] []).append refill
        let sent := attempts refill host 0 sending (requestMaxRetry + 1)
        ⟨sent.1, sent.2.taken, sent.2.accepted⟩
      else ⟨.msgSize, [], []⟩

/-- What the host took and what is to be sent are the data and what was taken from the source. -/
def Accounts (data : List UInt8) (sending : Sending σ) : Prop :=
  sending.accepted.flatten ++ sending.staging.chars = data ++ sending.taken

variable {refill : Option (Refill σ)} {data : List UInt8} {sending : Sending σ}

theorem Accounts.append (accounts : Accounts data sending) :
    Accounts data (sending.append refill) := by
  unfold Accounts Sending.append
  rw [← append_assoc, accounts, append_assoc]

theorem Accounts.advance (accounts : Accounts data sending) {count : Nat} :
    Accounts data ({ sending with
      accepted := sending.accepted ++ [sending.staging.chars.take count] }.advance count) := by
  unfold Accounts Sending.advance
  rw [flatten_append, flatten_singleton, append_assoc, take_append_drop]
  exact accounts

theorem took_answered {attempt : Attempt} {rsp : SerialRsp} (answered : attempt.answer = some rsp)
    (good : (handleSerialResponse rsp).lastWasError = false) (len : Nat) :
    attempt.took len =
      if (handleSerialResponse rsp).lastAckNack = 0 then len
      else min (handleSerialResponse rsp).lastAccepted.toNat len := by
  unfold Attempt.took
  rw [answered]
  dsimp only
  unfold handleSerialResponse at good ⊢
  split at good
  · cases good
  · split at good
    · cases good
    · rename_i success long
      rw [if_neg (by rintro (failed | short); exacts [success failed, long short]),
        if_neg success, if_neg long]

/-- What the host took is a prefix of what there was, and all of it when 0 is returned. -/
def Accounted (data : List UInt8) (result : SerialResult) (taken : List UInt8)
    (accepted : List (List UInt8)) : Prop :=
  accepted.flatten <+: data ++ taken ∧ (result = .ok → accepted.flatten = data ++ taken)

theorem Accounts.part (accounts : Accounts data sending) (result : SerialResult)
    (failed : result ≠ .ok) (count : Nat) :
    Accounted data result sending.taken
      (sending.accepted ++ [sending.staging.chars.take count]) := by
  refine ⟨?_, fun ok => absurd ok failed⟩
  rw [← accounts, flatten_append, flatten_singleton]
  exact (prefix_append_right_inj _).mpr (List.take_prefix _ _)

theorem Accounts.whole (accounts : Accounts data sending) :
    Accounted data .ok sending.taken
      (sending.accepted ++ [sending.staging.chars.take sending.staging.chars.length]) := by
  have all : (sending.accepted ++
      [sending.staging.chars.take sending.staging.chars.length]).flatten =
        data ++ sending.taken := by
    rw [← accounts, flatten_append, flatten_singleton, take_length]
  exact ⟨⟨[], by rw [append_nil, all]⟩, fun _ => all⟩

theorem Accounts.refused {result : SerialResult} (accounts : Accounts data sending)
    (failed : result ≠ .ok) : Accounted data result sending.taken sending.accepted :=
  ⟨⟨_, accounts⟩, fun ok => absurd ok failed⟩

theorem attempts_accounts (refill : Option (Refill σ)) (host : Nat → Attempt) (left : Nat) :
    ∀ (index : Nat) {sending : Sending σ}, Accounts data sending →
      Accounted data (attempts refill host index sending left).1
        (attempts refill host index sending left).2.taken
        (attempts refill host index sending left).2.accepted := by
  induction left with
  | zero =>
    intro index sending accounts
    exact accounts.refused nofun
  | succ left ih =>
    intro index sending accounts
    unfold attempts
    cases tried : sendTries (host index).sends 0 (requestMaxRetry - 1) with
    | ok =>
      cases answered : (host index).answer with
      | none =>
        simp only [tried, answered]
        exact accounts.part .timedOut nofun _
      | some rsp =>
        cases wasError : (handleSerialResponse rsp).lastWasError with
        | true =>
          simp only [tried, answered, wasError, if_true]
          exact accounts.part .io nofun _
        | false =>
          have took := took_answered answered wasError sending.staging.chars.length
          simp only [tried, answered, wasError, took, Bool.false_eq_true, if_false]
          by_cases ack : (handleSerialResponse rsp).lastAckNack = 0
          · simp only [if_pos ack]
            exact accounts.whole
          · by_cases more : sending.staging.chars.length ≤
                (handleSerialResponse rsp).lastAccepted.toNat
            · simp only [if_neg ack, if_pos more, Nat.min_eq_right more]
              exact accounts.whole
            · simp only [if_neg ack, if_neg more, Nat.min_eq_left (Nat.le_of_not_le more)]
              exact ih (index + 1) accounts.advance.append
    | netDown =>
      simp only [tried]
      exact accounts.refused nofun
    | busy =>
      simp only [tried]
      exact accounts.refused nofun
    | noMem =>
      simp only [tried]
      exact accounts.refused nofun
    | noBufs =>
      simp only [tried]
      exact accounts.refused nofun

/-- What the host took is a prefix of the data and what was taken from the refill source, and all of
it when 0 is returned. -/
theorem obmfSerialSend_accounts (channel : UInt8) (data : Option (List UInt8))
    (refill : Option (Refill σ)) (source : σ) (host : Nat → Attempt) :
    Accounted (data.getD []) (obmfSerialSend channel data refill source host).result
      (obmfSerialSend channel data refill source host).taken
      (obmfSerialSend channel data refill source host).accepted := by
  unfold obmfSerialSend
  split
  · exact ⟨List.nil_prefix, nofun⟩
  · cases data with
    | none => exact ⟨List.nil_prefix, fun _ => rfl⟩
    | some data =>
      dsimp only
      split
      · rename_i none
        obtain rfl := eq_nil_of_length_eq_zero none
        exact ⟨List.nil_prefix, fun _ => rfl⟩
      · split
        · rename_i fits
          have start : Accounts data (Sending.mk ⟨data, fits⟩ source [] []) := by
            unfold Accounts
            rw [append_nil]
            rfl
          exact attempts_accounts refill host (requestMaxRetry + 1) 0 start.append
        · exact ⟨List.nil_prefix, nofun⟩

end OpenBic.Obmf.SerialSend
