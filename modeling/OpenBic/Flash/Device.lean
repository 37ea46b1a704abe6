import OpenBic.Library.Splice

/-!
# The flash device behind the Zephyr driver calls

The device is the memory of its cells and the answers its calls will give. Each library
call takes the next answer: zero performs the call, anything else is the error code it
returns. The flash is assumed to behave as usual: a read returns the cells, an erase sets
a range to 0xFF, a write stores its bytes, and a range that leaves the flash is refused.
-/

namespace OpenBic.Flash

open Library.Splice

/-- A stretch of memory, from a pointer on. -/
abbrev Memory := Nat → UInt8

/-- What the driver reports of the flash: its size and its sector size. -/
structure Geometry where
  flashSz : Nat
  sectorSz : Nat
  positive : 0 < sectorSz
  whole : sectorSz ∣ flashSz
  /-- The size is a `uint32_t`. -/
  word : flashSz < 2 ^ 32

/-- The flash and the return codes of the calls to come. -/
structure Device where
  content : Memory
  answers : Nat → Int
  calls : Nat

/-- Code that talks to the device and may leave with an error code. -/
abbrev Driver := EStateM Int Device

def einval : Int := -22

/-- Take the answer of the next call; a nonzero one is the error the call returns. -/
def call : Driver Unit := fun device =>
  let later := { device with calls := device.calls + 1 }
  if device.answers device.calls = 0 then .ok () later
  else .error (device.answers device.calls) later

/-- `malloc`; the callers turn a refusal into `-EINVAL`. -/
def malloc : Driver Unit := fun device =>
  let later := { device with calls := device.calls + 1 }
  if device.answers device.calls = 0 then .ok () later else .error einval later

def inRange (geometry : Geometry) (addr len : Nat) : Driver Unit :=
  if addr + len ≤ geometry.flashSz then pure () else throw einval

def flashRead (geometry : Geometry) (addr len : Nat) : Driver Memory := do
  call
  inRange geometry addr len
  return view (← get).content addr

def flashErase (geometry : Geometry) (addr len : Nat) : Driver Unit := do
  call
  inRange geometry addr len
  modify fun device =>
    { device with content := overwrite device.content addr len fun _ => 0xFF }

def flashWrite (geometry : Geometry) (addr : Nat) (buf : Memory) (len : Nat) : Driver Unit := do
  call
  inRange geometry addr len
  modify fun device => { device with content := overwrite device.content addr len buf }

theorem bind_eq_ok {α β : Type} {first : Driver α} {second : α → Driver β} {device final : Device}
    {value : β} : (first >>= second) device = .ok value final ↔
      ∃ middle later, first device = .ok middle later ∧ second middle later = .ok value final := by
  change (EStateM.bind first second) device = _ ↔ _
  simp only [EStateM.bind]
  cases first device with
  | ok middle later => simp
  | error code later => simp

theorem call_ok {device final : Device} (done : call device = .ok () final) :
    final = { device with calls := device.calls + 1 } := by
  unfold call at done
  split at done
  · cases done
    rfl
  · cases done

theorem malloc_ok {device final : Device} (done : malloc device = .ok () final) :
    final = { device with calls := device.calls + 1 } := by
  unfold malloc at done
  split at done
  · cases done
    rfl
  · cases done

theorem inRange_ok {geometry : Geometry} {addr len : Nat} {device final : Device}
    (done : inRange geometry addr len device = .ok () final) :
    addr + len ≤ geometry.flashSz ∧ final = device := by
  unfold inRange at done
  split at done
  · rename_i fits
    cases done
    exact ⟨fits, rfl⟩
  · cases done

theorem flashRead_ok {geometry : Geometry} {addr len : Nat} {device final : Device} {buf : Memory}
    (done : flashRead geometry addr len device = .ok buf final) :
    addr + len ≤ geometry.flashSz ∧ buf = view device.content addr ∧
      final = { device with calls := device.calls + 1 } := by
  obtain ⟨_, called, calling, done⟩ := bind_eq_ok.mp done
  obtain ⟨_, checked, checking, done⟩ := bind_eq_ok.mp done
  obtain rfl := call_ok calling
  obtain ⟨fits, rfl⟩ := inRange_ok checking
  cases done
  exact ⟨fits, rfl, rfl⟩

theorem flashErase_ok {geometry : Geometry} {addr len : Nat} {device final : Device}
    (done : flashErase geometry addr len device = .ok () final) :
    final = { device with
      content := overwrite device.content addr len fun _ => 0xFF
      calls := device.calls + 1 } := by
  obtain ⟨_, called, calling, done⟩ := bind_eq_ok.mp done
  obtain ⟨_, checked, checking, done⟩ := bind_eq_ok.mp done
  obtain rfl := call_ok calling
  obtain ⟨-, rfl⟩ := inRange_ok checking
  cases done
  rfl

theorem flashWrite_ok {geometry : Geometry} {addr len : Nat} {buf : Memory} {device final : Device}
    (done : flashWrite geometry addr buf len device = .ok () final) :
    final = { device with
      content := overwrite device.content addr len buf
      calls := device.calls + 1 } := by
  obtain ⟨_, called, calling, done⟩ := bind_eq_ok.mp done
  obtain ⟨_, checked, checking, done⟩ := bind_eq_ok.mp done
  obtain rfl := call_ok calling
  obtain ⟨-, rfl⟩ := inRange_ok checking
  cases done
  rfl

theorem inRange_fits {geometry : Geometry} {addr len : Nat} (device : Device)
    (fits : addr + len ≤ geometry.flashSz) : inRange geometry addr len device = .ok () device :=
  congrFun (if_pos fits) device

/-- Code whose errors are `-EINVAL` or the driver's, and which leaves the answers alone. -/
structure Reporting {α : Type} (code : Driver α) : Prop where
  error : ∀ device error final, code device = .error error final →
    error = einval ∨ ∃ index, device.answers index ≠ 0 ∧ error = device.answers index
  answers : ∀ device value final, code device = .ok value final → final.answers = device.answers

theorem Reporting.bind {α β : Type} {first : Driver α} {second : α → Driver β}
    (one : Reporting first) (two : ∀ value, Reporting (second value)) :
    Reporting (first >>= second) where
  error := fun device error final raised => by
    change EStateM.bind first second device = _ at raised
    simp only [EStateM.bind] at raised
    split at raised
    · rename_i value middle done
      rcases (two value).error _ _ _ raised with invalid | answered
      · exact .inl invalid
      · rw [one.answers _ _ _ done] at answered
        exact .inr answered
    · rename_i code middle failed
      obtain ⟨rfl, -⟩ := EStateM.Result.error.inj raised
      exact one.error _ _ _ failed
  answers := fun device value final done => by
    obtain ⟨middle, later, head, tail⟩ := bind_eq_ok.mp done
    rw [(two middle).answers _ _ _ tail, one.answers _ _ _ head]

theorem Reporting.pure {α : Type} (value : α) : Reporting (Pure.pure value : Driver α) where
  error := nofun
  answers := fun _ _ _ done => by cases done; rfl

theorem Reporting.refuse {α : Type} : Reporting (throw einval : Driver α) where
  error := fun _ _ _ raised => by cases raised; exact .inl rfl
  answers := nofun

theorem Reporting.call : Reporting call where
  error := fun device error final raised => by
    unfold Flash.call at raised
    split at raised
    · cases raised
    · rename_i nonzero
      obtain ⟨rfl, -⟩ := EStateM.Result.error.inj raised
      exact .inr ⟨_, nonzero, rfl⟩
  answers := fun device value final done => by rw [call_ok done]

theorem Reporting.malloc : Reporting malloc where
  error := fun device error final raised => by
    unfold Flash.malloc at raised
    split at raised
    · cases raised
    · obtain ⟨rfl, -⟩ := EStateM.Result.error.inj raised
      exact .inl rfl
  answers := fun device value final done => by rw [malloc_ok done]

section Drivers

variable {geometry : Geometry} {addr len : Nat}

theorem Reporting.inRange : Reporting (inRange geometry addr len) := by
  unfold Flash.inRange
  split
  · exact .pure ()
  · exact .refuse

theorem Reporting.flashRead : Reporting (flashRead geometry addr len) := by
  refine Reporting.call.bind fun _ => Reporting.inRange.bind fun _ => ⟨?_, ?_⟩
  · exact nofun
  · exact fun _ _ _ done => by cases done; rfl

theorem Reporting.flashErase : Reporting (flashErase geometry addr len) := by
  refine Reporting.call.bind fun _ => Reporting.inRange.bind fun _ => ⟨?_, ?_⟩
  · exact nofun
  · exact fun _ _ _ done => by cases done; rfl

theorem Reporting.flashWrite {buf : Memory} : Reporting (flashWrite geometry addr buf len) := by
  refine Reporting.call.bind fun _ => Reporting.inRange.bind fun _ => ⟨?_, ?_⟩
  · exact nofun
  · exact fun _ _ _ done => by cases done; rfl

end Drivers

section Answering

variable {device : Device} (answering : ∀ index, device.answers index = 0)

include answering

theorem call_answering : call device = .ok () { device with calls := device.calls + 1 } :=
  if_pos (answering _)

theorem malloc_answering : malloc device = .ok () { device with calls := device.calls + 1 } :=
  if_pos (answering _)

theorem flashRead_answering {geometry : Geometry} {addr len : Nat}
    (fits : addr + len ≤ geometry.flashSz) :
    flashRead geometry addr len device =
      .ok (view device.content addr) { device with calls := device.calls + 1 } :=
  bind_eq_ok.mpr ⟨(), _, call_answering answering,
    bind_eq_ok.mpr ⟨(), _, inRange_fits _ fits, rfl⟩⟩

theorem flashErase_answering {geometry : Geometry} {addr len : Nat}
    (fits : addr + len ≤ geometry.flashSz) :
    flashErase geometry addr len device = .ok () { device with
      content := overwrite device.content addr len fun _ => 0xFF
      calls := device.calls + 1 } :=
  bind_eq_ok.mpr ⟨(), _, call_answering answering,
    bind_eq_ok.mpr ⟨(), _, inRange_fits _ fits, rfl⟩⟩

theorem flashWrite_answering {geometry : Geometry} {addr len : Nat} {buf : Memory}
    (fits : addr + len ≤ geometry.flashSz) :
    flashWrite geometry addr buf len device = .ok () { device with
      content := overwrite device.content addr len buf
      calls := device.calls + 1 } :=
  bind_eq_ok.mpr ⟨(), _, call_answering answering,
    bind_eq_ok.mpr ⟨(), _, inRange_fits _ fits, rfl⟩⟩

end Answering

end OpenBic.Flash
