import OpenBic.Library.Field

/-!
# Checked reads and writes

A computation that reads data through `byteAt`, `fieldAt` and `rangeAt`, and writes it through
`writeAt`, comes to nothing as soon as it reaches past the end of the data, so that it returns only
if it never does. `Returns` says that a computation returns, with a result that has a property; the
rules follow the computation. A `Buffer` is an array of a fixed size.
-/

namespace Library.Checked

open Library.Field

variable {α β : Type}

/-- A computation has a result, and one with a property. -/
def Returns (run : Option α) (post : α → Prop) : Prop := ∃ value ∈ run, post value

variable {run first second : Option α} {next : α → Option β} {post : α → Prop}
  {after : β → Prop}

theorem Returns.intro {value : α} (holds : post value) : Returns (some value) post :=
  ⟨value, rfl, holds⟩

theorem Returns.of_some {value : α} (returns : Returns (some value) post) : post value := by
  obtain ⟨result, ran, holds⟩ := returns
  cases ran
  exact holds

theorem Returns.bind (returns : Returns run post)
    (onward : ∀ value, post value → Returns (next value) after) : Returns (run >>= next) after := by
  obtain ⟨value, ran, holds⟩ := returns
  obtain ⟨result, onwardRan, result'⟩ := onward value holds
  refine ⟨result, ?_, result'⟩
  obtain rfl : run = some value := ran
  exact onwardRan

theorem Returns.of_bind (returns : Returns (run >>= next) after) :
    ∃ value, run = some value ∧ Returns (next value) after := by
  obtain ⟨result, ran, holds⟩ := returns
  cases run with
  | none => cases ran
  | some value => exact ⟨value, rfl, result, ran, holds⟩

theorem Returns.ite {cond : Prop} [Decidable cond] (yes : cond → Returns first post)
    (no : ¬ cond → Returns second post) : Returns (if cond then first else second) post := by
  split
  · rename_i holds
    exact yes holds
  · rename_i fails
    exact no fails

theorem Returns.mono {weaker : α → Prop} (returns : Returns run post)
    (weakens : ∀ value, post value → weaker value) : Returns run weaker := by
  obtain ⟨value, ran, holds⟩ := returns
  exact ⟨value, ran, weakens value holds⟩

theorem Returns.and {other : α → Prop} (returns : Returns run post) (also : Returns run other) :
    Returns run fun value => post value ∧ other value := by
  obtain ⟨value, ran, holds⟩ := returns
  obtain ⟨same, ranSame, holdsSame⟩ := also
  obtain rfl : value = same := Option.mem_unique ran ranSame
  exact ⟨value, ran, holds, holdsSame⟩

theorem length_of_mapM {γ : Type} {items : List γ} {act : γ → Option α} {results : List α}
    (ran : items.mapM act = some results) : results.length = items.length := by
  induction items generalizing results with
  | nil =>
    obtain rfl : [] = results := Option.some.inj ran
    rfl
  | cons item rest ih =>
    rw [List.mapM_cons] at ran
    obtain ⟨head, -, ran⟩ := Option.bind_eq_some_iff.mp ran
    obtain ⟨tail, later, ran⟩ := Option.bind_eq_some_iff.mp ran
    obtain rfl : head :: tail = results := Option.some.inj ran
    rw [List.length_cons, List.length_cons, ih later]

theorem mapM_eq_map {γ : Type} {items : List γ} {act : γ → Option α} {result : γ → α}
    (each : ∀ item ∈ items, act item = some (result item)) :
    items.mapM act = some (items.map result) := by
  induction items with
  | nil => rfl
  | cons item rest ih =>
    have first := each item List.mem_cons_self
    have others := ih fun other listed => each other (List.mem_cons_of_mem _ listed)
    rw [List.mapM_cons, first, others]
    rfl

theorem mapM_eq_none {γ : Type} {items : List γ} {act : γ → Option α} {item : γ}
    (listed : item ∈ items) (strays : act item = none) : items.mapM act = none := by
  induction items with
  | nil => exact absurd listed List.not_mem_nil
  | cons first rest ih =>
    rw [List.mapM_cons]
    rcases List.mem_cons.mp listed with rfl | later
    · rw [strays]
      rfl
    · rw [ih later]
      cases act first <;> rfl

/-! ## Reads -/

def byteAt (data : List UInt8) (index : Nat) : Option UInt8 := data[index]?

def fieldAt (data : List UInt8) (start width : Nat) : Option Nat :=
  if start + width ≤ data.length then some (load (fun index => data.getD index 0) start width)
  else none

def rangeAt (data : List UInt8) (start count : Nat) : Option (List UInt8) :=
  if start + count ≤ data.length then some ((data.drop start).take count) else none

variable {data : List UInt8}

theorem byteAt_eq {index : Nat} (inside : index < data.length) :
    byteAt data index = some (data.getD index 0) := by
  rw [byteAt, List.getElem?_eq_getElem inside, List.getD_eq_getElem _ _ inside]

theorem fieldAt_eq {start width : Nat} (inside : start + width ≤ data.length) :
    fieldAt data start width = some (load (fun index => data.getD index 0) start width) :=
  if_pos inside

theorem lt_of_byteAt {index : Nat} {byte : UInt8} (read : byteAt data index = some byte) :
    index < data.length :=
  (List.getElem?_eq_some_iff.mp read).1

theorem le_of_rangeAt {start count : Nat} {bytes : List UInt8}
    (read : rangeAt data start count = some bytes) : start + count ≤ data.length := by
  unfold rangeAt at read
  split at read
  · assumption
  · cases read

theorem length_of_rangeAt {start count : Nat} {bytes : List UInt8}
    (read : rangeAt data start count = some bytes) : bytes.length = count := by
  have inside := le_of_rangeAt read
  rw [rangeAt, if_pos inside] at read
  cases read
  rw [List.length_take, List.length_drop]
  omega

def fitting (size : Nat) (bytes : List UInt8) : Option (List UInt8) :=
  if bytes.length ≤ size then some bytes else none

theorem not_returns_none : ¬ Returns none post := by
  rintro ⟨value, ran, -⟩
  cases ran

theorem returns_bind_iff :
    Returns (run >>= next) after ↔ ∃ value, run = some value ∧ Returns (next value) after := by
  refine ⟨Returns.of_bind, ?_⟩
  rintro ⟨value, ran, onward⟩
  rw [ran]
  exact onward

theorem returns_byteAt_iff {index : Nat} {next : UInt8 → Option α} :
    Returns (byteAt data index >>= next) post ↔
      index < data.length ∧ Returns (next (data.getD index 0)) post := by
  rw [returns_bind_iff]
  constructor
  · rintro ⟨byte, read, onward⟩
    have inside := lt_of_byteAt read
    cases (byteAt_eq inside).symm.trans read
    exact ⟨inside, onward⟩
  · rintro ⟨inside, onward⟩
    exact ⟨_, byteAt_eq inside, onward⟩

theorem returns_fieldAt_iff {start width : Nat} {next : Nat → Option α} :
    Returns (fieldAt data start width >>= next) post ↔
      start + width ≤ data.length ∧
        Returns (next (load (fun index => data.getD index 0) start width)) post := by
  rw [returns_bind_iff]
  unfold fieldAt
  constructor
  · rintro ⟨field, read, onward⟩
    split at read
    · rename_i inside
      cases read
      exact ⟨inside, onward⟩
    · cases read
  · rintro ⟨inside, onward⟩
    exact ⟨_, if_pos inside, onward⟩

theorem returns_rangeAt_iff {start count : Nat} {next : List UInt8 → Option α} :
    Returns (rangeAt data start count >>= next) post ↔
      start + count ≤ data.length ∧ Returns (next ((data.drop start).take count)) post := by
  rw [returns_bind_iff]
  unfold rangeAt
  constructor
  · rintro ⟨bytes, read, onward⟩
    split at read
    · rename_i inside
      cases read
      exact ⟨inside, onward⟩
    · cases read
  · rintro ⟨inside, onward⟩
    exact ⟨_, if_pos inside, onward⟩

theorem returns_fitting_iff {size : Nat} {bytes : List UInt8} {next : List UInt8 → Option α} :
    Returns (fitting size bytes >>= next) post ↔
      bytes.length ≤ size ∧ Returns (next bytes) post := by
  rw [returns_bind_iff]
  unfold fitting
  constructor
  · rintro ⟨same, fits, onward⟩
    split at fits
    · rename_i inside
      cases fits
      exact ⟨inside, onward⟩
    · cases fits
  · rintro ⟨inside, onward⟩
    exact ⟨_, if_pos inside, onward⟩

/-! ## Ranges -/

/-- The data has the bytes of each range, which is given by its start and its length. -/
def Covers (data : List UInt8) (ranges : List (Nat × Nat)) : Prop :=
  ∀ range ∈ ranges, range.1 + range.2 ≤ data.length

instance (data : List UInt8) (ranges : List (Nat × Nat)) : Decidable (Covers data ranges) :=
  inferInstanceAs (Decidable (∀ range ∈ ranges, _))

def reading (data : List UInt8) (ranges : List (Nat × Nat)) (value : α) : Option α :=
  if Covers data ranges then some value else none

@[simp]
theorem covers_nil (data : List UInt8) : Covers data [] := nofun

@[simp]
theorem covers_cons {range : Nat × Nat} {ranges : List (Nat × Nat)} :
    Covers data (range :: ranges) ↔ range.1 + range.2 ≤ data.length ∧ Covers data ranges :=
  List.forall_mem_cons

theorem Returns.reading {ranges : List (Nat × Nat)} {value : α} (covers : Covers data ranges)
    (holds : post value) : Returns (reading data ranges value) post := by
  rw [Checked.reading, if_pos covers]
  exact .intro holds

theorem covers_of_reading {ranges : List (Nat × Nat)} {value : α}
    (returns : Returns (reading data ranges value) post) : Covers data ranges := by
  unfold reading at returns
  split at returns
  · assumption
  · obtain ⟨result, ran, -⟩ := returns
    cases ran

/-! ## Writes -/

def splice (data : List UInt8) (start : Nat) (bytes : List UInt8) : List UInt8 :=
  data.take start ++ bytes ++ data.drop (start + bytes.length)

def writeAt (data : List UInt8) (start : Nat) (bytes : List UInt8) : Option (List UInt8) :=
  if start + bytes.length ≤ data.length then some (splice data start bytes) else none

variable {start : Nat} {bytes : List UInt8}

theorem writeAt_eq (inside : start + bytes.length ≤ data.length) :
    writeAt data start bytes = some (splice data start bytes) :=
  if_pos inside

theorem rangeAt_eq {count : Nat} (inside : start + count ≤ data.length) :
    rangeAt data start count = some ((data.drop start).take count) :=
  if_pos inside

theorem rangeAt_eq_none {count : Nat} (outside : data.length < start + count) :
    rangeAt data start count = none :=
  if_neg (by omega)

theorem length_splice (inside : start + bytes.length ≤ data.length) :
    (splice data start bytes).length = data.length := by
  simp only [splice, List.length_append, List.length_take, List.length_drop]
  omega

theorem length_of_writeAt {after : List UInt8} (wrote : writeAt data start bytes = some after) :
    after.length = data.length := by
  unfold writeAt at wrote
  split at wrote
  · rename_i inside
    cases wrote
    exact length_splice inside
  · cases wrote

theorem splice_zero (data bytes : List UInt8) :
    splice data 0 bytes = bytes ++ data.drop bytes.length := by
  simp [splice]

theorem splice_before {first : List UInt8} (behind : first.length = start)
    (inside : start ≤ data.length) :
    splice (splice data start bytes) 0 first = splice data 0 (first ++ bytes) := by
  rw [splice_zero, splice_zero, splice, List.append_assoc, behind]
  rw [List.drop_append_of_le_length (by rw [List.length_take]; omega)]
  rw [List.drop_of_length_le (by rw [List.length_take]; omega), List.nil_append,
    List.length_append, behind, List.append_assoc]

theorem drop_splice {place : Nat} (inside : start + bytes.length ≤ data.length)
    (behind : start + bytes.length ≤ place) :
    (splice data start bytes).drop place = data.drop place := by
  have front : (data.take start ++ bytes).length = start + bytes.length := by
    rw [List.length_append, List.length_take]
    omega
  rw [splice, List.drop_append, List.drop_of_length_le (by omega), List.nil_append, List.drop_drop]
  congr 1
  omega

theorem take_splice {place : Nat} (inside : start ≤ data.length) (before : place ≤ start) :
    (splice data start bytes).take place = data.take place := by
  have front : (data.take start).length = start := by
    rw [List.length_take]
    omega
  rw [splice, List.append_assoc, List.take_append_of_le_length (by omega), List.take_take]
  congr 1
  omega

theorem splice_behind {next : List UInt8} {place : Nat} (behind : place = start + bytes.length)
    (inside : place ≤ data.length) :
    splice (splice data start bytes) place next = splice data start (bytes ++ next) := by
  have front : (data.take start ++ bytes).length = place := by
    rw [List.length_append, List.length_take]
    omega
  have kept : (splice data start bytes).take place = data.take start ++ bytes := by
    rw [splice, List.take_append_of_le_length (by omega), List.take_of_length_le (by omega)]
  have behindBoth : (splice data start bytes).drop (place + next.length) =
      data.drop (place + next.length) := by
    rw [splice, List.drop_append, List.drop_of_length_le (by omega), List.nil_append,
      List.drop_drop]
    congr 1
    omega
  rw [splice, kept, behindBoth, splice, List.length_append, behind, Nat.add_assoc]
  simp only [List.append_assoc]

theorem rangeAt_splice (first middle last : List UInt8) {place count : Nat}
    (inside : start + bytes.length ≤ data.length) (parts : bytes = first ++ middle ++ last)
    (behind : place = start + first.length) (sized : count = middle.length) :
    rangeAt (splice data start bytes) place count = some middle := by
  subst parts
  simp only [List.length_append] at inside
  have front : (data.take start ++ first).length = place := by
    rw [List.length_append, List.length_take]
    omega
  rw [rangeAt_eq]
  · congr 1
    have shape : splice data start (first ++ middle ++ last) = (data.take start ++ first) ++
        (middle ++ (last ++ data.drop (start + (first ++ middle ++ last).length))) := by
      simp only [splice, List.append_assoc]
    rw [shape, ← front, List.drop_left, sized, List.take_left]
  · rw [length_splice (by simp only [List.length_append]; omega)]
    omega

theorem getD_splice (inside : start + bytes.length ≤ data.length) (index : Nat) :
    (splice data start bytes).getD index 0 =
      if start ≤ index ∧ index < start + bytes.length then bytes.getD (index - start) 0
      else data.getD index 0 := by
  have front : (data.take start).length = start := by
    rw [List.length_take]
    omega
  have both : (data.take start ++ bytes).length = start + bytes.length := by
    rw [List.length_append, front]
  simp only [List.getD_eq_getElem?_getD]
  split
  · rw [splice, List.getElem?_append_left (by omega), List.getElem?_append_right (by omega), front]
  · congr 1
    by_cases before : index < start
    · rw [splice, List.getElem?_append_left (by omega), List.getElem?_append_left (by omega),
        List.getElem?_take_of_lt before]
    · rw [splice, List.getElem?_append_right (by omega), both, List.getElem?_drop]
      congr 1
      omega

/-! ## Buffers -/

/-- An array of so many bytes. -/
structure Buffer (size : Nat) where
  bytes : List UInt8
  sized : bytes.length = size

namespace Buffer

variable {size : Nat} {buffer after : Buffer size}

def zero (size : Nat) : Buffer size := ⟨List.replicate size 0, List.length_replicate⟩

def write (buffer : Buffer size) (start : Nat) (bytes : List UInt8) : Option (Buffer size) :=
  if inside : start + bytes.length ≤ buffer.bytes.length then
    some ⟨splice buffer.bytes start bytes, (length_splice inside).trans buffer.sized⟩
  else none

def read (buffer : Buffer size) (start count : Nat) : Option (List UInt8) :=
  rangeAt buffer.bytes start count

theorem write_some (wrote : buffer.write start bytes = some after) :
    start + bytes.length ≤ size ∧ after.bytes = splice buffer.bytes start bytes := by
  unfold write at wrote
  split at wrote
  · rename_i inside
    rw [buffer.sized] at inside
    exact ⟨inside, congrArg Buffer.bytes (Option.some.inj wrote).symm⟩
  · cases wrote

theorem write_eq (buffer : Buffer size) (bytes : List UInt8)
    (inside : start + bytes.length ≤ size) :
    ∃ after, buffer.write start bytes = some after ∧
      after.bytes = splice buffer.bytes start bytes := by
  rw [← buffer.sized] at inside
  exact ⟨⟨_, (length_splice inside).trans buffer.sized⟩, dif_pos inside, rfl⟩

theorem write_behind {data : List UInt8} (place : Nat) (next : List UInt8)
    (earlier : buffer.bytes = splice data start bytes) (sized : data.length = size)
    (behind : place = start + bytes.length) (inside : place + next.length ≤ size) :
    ∃ after, buffer.write place next = some after ∧
      after.bytes = splice data start (bytes ++ next) := by
  obtain ⟨after, wrote, spliced⟩ := buffer.write_eq next inside
  refine ⟨after, wrote, ?_⟩
  rw [spliced, earlier]
  exact splice_behind behind (by omega)

theorem write_eq_none (outside : size < start + bytes.length) :
    buffer.write start bytes = none := by
  rw [← buffer.sized] at outside
  exact dif_neg (by omega)

theorem read_eq {count : Nat} (inside : start + count ≤ size) :
    buffer.read start count = some ((buffer.bytes.drop start).take count) :=
  rangeAt_eq (by rw [buffer.sized]; exact inside)

theorem drop_of_write {place : Nat} (wrote : buffer.write start bytes = some after)
    (behind : start + bytes.length ≤ place) : after.bytes.drop place = buffer.bytes.drop place := by
  obtain ⟨inside, spliced⟩ := write_some wrote
  rw [← buffer.sized] at inside
  rw [spliced, drop_splice inside behind]

theorem take_drop_write (wrote : buffer.write start bytes = some after) :
    (after.bytes.drop start).take bytes.length = bytes := by
  obtain ⟨inside, spliced⟩ := write_some wrote
  rw [← buffer.sized] at inside
  have read : rangeAt (splice buffer.bytes start bytes) start bytes.length = some bytes :=
    rangeAt_splice [] bytes [] inside (by simp) rfl rfl
  rw [rangeAt_eq (by rw [length_splice inside]; exact inside)] at read
  rw [spliced]
  exact Option.some.inj read

/-! ## What an array has at a place -/

variable {place : Nat} {other : List UInt8}

/-- A buffer has these bytes at a place. -/
def Holds (buffer : Buffer size) (place : Nat) (bytes : List UInt8) : Prop :=
  buffer.read place bytes.length = some bytes

theorem Holds.inside (holds : buffer.Holds place bytes) : place + bytes.length ≤ size := by
  have inside := le_of_rangeAt holds
  rwa [buffer.sized] at inside

theorem holds_of_eq (inside : place + bytes.length ≤ size)
    (same : (buffer.bytes.drop place).take bytes.length = bytes) : buffer.Holds place bytes := by
  rw [Holds, read_eq inside, same]

theorem Holds.take_drop (holds : buffer.Holds place bytes) :
    (buffer.bytes.drop place).take bytes.length = bytes := by
  have inside := holds.inside
  rw [Holds, read_eq inside] at holds
  exact Option.some.inj holds

theorem holds_write (wrote : buffer.write start bytes = some after) : after.Holds start bytes :=
  holds_of_eq (write_some wrote).1 (take_drop_write wrote)

theorem Holds.write_apart (holds : buffer.Holds place other)
    (wrote : buffer.write start bytes = some after)
    (apart : start + bytes.length ≤ place ∨ place + other.length ≤ start) :
    after.Holds place other := by
  have here := holds.take_drop
  have room := holds.inside
  obtain ⟨inside, spliced⟩ := write_some wrote
  have sized := buffer.sized
  apply holds_of_eq room
  rw [spliced]
  cases apart with
  | inl behind => rw [drop_splice (by omega) behind, here]
  | inr before =>
    rw [List.take_drop, take_splice (by omega) before, ← List.take_drop, here]

theorem Holds.append (first : buffer.Holds place bytes)
    (second : buffer.Holds (place + bytes.length) other) :
    buffer.Holds place (bytes ++ other) := by
  have room := second.inside
  apply holds_of_eq (by rw [List.length_append]; omega)
  rw [List.length_append, List.take_add, first.take_drop, List.drop_drop, second.take_drop]

/-- What stands before a limit still stands there. -/
def KeptBefore (limit : Nat) (buffer after : Buffer size) : Prop :=
  ∀ place bytes, place + bytes.length ≤ limit → buffer.Holds place bytes → after.Holds place bytes

theorem keptBefore_write (wrote : buffer.write start bytes = some after) :
    KeptBefore start buffer after :=
  fun _ _ before holds => holds.write_apart wrote (.inr before)

theorem KeptBefore.earlier {limit earlier : Nat} (kept : KeptBefore limit buffer after)
    (shorter : earlier ≤ limit) : KeptBefore earlier buffer after :=
  fun place bytes before => kept place bytes (Nat.le_trans before shorter)

theorem KeptBefore.trans {last : Buffer size} {limit : Nat} (first : KeptBefore limit buffer after)
    (second : KeptBefore limit after last) : KeptBefore limit buffer last :=
  fun place bytes before holds => second place bytes before (first place bytes before holds)

end Buffer

end Library.Checked

/-!
## Numbers in arrays

The bytes of a number, low byte first, as a list that can be written into an array, and what a
field of data that has these bytes is.
-/

namespace Library.Number

open Library.Checked Library.Field

def digits (value width : Nat) : List UInt8 := (List.range width).map (digit value)

variable {data : List UInt8} {value width start : Nat}

@[simp]
theorem length_digits (value width : Nat) : (digits value width).length = width := by
  rw [digits, List.length_map, List.length_range]

theorem fieldAt_of_rangeAt (read : rangeAt data start width = some (digits value width))
    (fits : value < 256 ^ width) : fieldAt data start width = some value := by
  have inside := le_of_rangeAt read
  rw [rangeAt_eq inside] at read
  have same := Option.some.inj read
  rw [fieldAt_eq inside]
  congr 1
  apply load_eq_of_digit fits
  intro index before
  have member : (digits value width)[index]? = some (digit value index) := by
    rw [digits, List.getElem?_map, List.getElem?_range before, Option.map_some]
  rw [← same, List.getElem?_take_of_lt before, List.getElem?_drop] at member
  rw [List.getD_eq_getElem?_getD, member, Option.getD_some]

theorem byteAt_of_rangeAt {byte : UInt8} (read : rangeAt data start 1 = some [byte]) :
    byteAt data start = some byte := by
  have inside := le_of_rangeAt read
  rw [rangeAt_eq inside] at read
  have same := congrArg (·[0]?) (Option.some.inj read)
  simpa [byteAt] using same

variable {size : Nat} {buffer : Buffer size} {bytes : List UInt8} {place length : Nat}

theorem rangeAt_of_holds (read : buffer.read start length = some data)
    (holds : buffer.Holds (start + place) bytes) (inside : place + bytes.length ≤ length) :
    rangeAt data place bytes.length = some bytes := by
  have here := holds.take_drop
  have sized := length_of_rangeAt read
  have whole := le_of_rangeAt read
  rw [Buffer.read, rangeAt_eq whole] at read
  have same := Option.some.inj read
  rw [rangeAt_eq (by omega), ← same, List.drop_take, List.drop_drop, List.take_take,
    Nat.min_eq_left (by omega), here]

theorem fieldAt_of_holds (holds : buffer.Holds place (digits value width))
    (fits : value < 256 ^ width) : fieldAt buffer.bytes place width = some value := by
  rw [Buffer.Holds, length_digits] at holds
  exact fieldAt_of_rangeAt holds fits

end Library.Number
