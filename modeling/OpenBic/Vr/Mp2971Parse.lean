import OpenBic.Library.Lines
import OpenBic.Library.Checked
import OpenBic.Library.Walk
import OpenBic.Vr.Mp2971

/-!
# The image of an MP2971

`parsing_image` of `mp2971.c`. The text is lines of columns, which the parser goes through character
by character: it gathers the digits of a column and stores them where the column ends. The records
are filled one after another in a table, which is not initialised.
-/

namespace OpenBic.Mp2971

open List Library Library.Number Library.Reading Library.Walk Vr

/-! ## The code -/

def maxCmdLine : Nat := 720

def ateConfId : Nat := 0

def ateWriteType : Nat := 7

def ateColMax : Nat := 8

def tab : UInt8 := 0x09

def carriageReturn : UInt8 := 0x0D

def blockMark : UInt8 := 0x42

def endMark : List UInt8 := [0x45, 0x4E, 0x44]

/-- Why the parser stops. -/
inductive ParseStop where
  | strays
  | rejected
deriving DecidableEq

/-- The variables of the parser. -/
structure ParseState where
  /-- The records behind which `cur_line` is. Their number is `wr_cnt`. -/
  done : List Mp2856Data
  /-- The record at `cur_line`. -/
  curLine : Mp2856Data
  curEleIdx : Nat
  dataStore : UInt32
  dataIdx : UInt8
  skip : Bool

def Mp2856Data.block (record : Mp2856Data) : Mp2856Data :=
  { record with
    regData := record.regLen :: record.regData.take record.regLen.toNat ++
      record.regData.drop (record.regLen.toNat + 1)
    regLen := record.regLen + 1 }

/-- What is stored at the end of a column, or at a character of the write type. Nothing is returned
where the data are moved beyond their field. -/
def storeColumn (index : Nat) (dataStore : UInt32) (dataIdx char : UInt8)
    (record : Mp2856Data) : Option Mp2856Data :=
  match index with
  | 0 => some { record with cfgId := dataStore.toUInt16 }
  | 1 => some { record with page := dataStore.toUInt8 }
  | 2 => some { record with regAddr := dataStore.toUInt8 }
  | 5 => some { record with
      regData := digits dataStore.toNat 4
      regLen := if dataIdx % 2 = 0 then dataIdx / 2 else dataIdx / 2 + 1 }
  | 7 =>
    if char = blockMark then if 3 < record.regLen then none else some record.block
    else some record
  | _ => some record

def stores (index : Nat) (char : UInt8) : Bool :=
  index ≤ 2 || index == 5 || (index == 7 && char == blockMark)

def nextLine (garbage : Nat → Mp2856Data) (done : List Mp2856Data) (skip : Bool) : ParseState :=
  ⟨done, garbage done.length, ateConfId, 0, 0, skip⟩

/-- What the parser does with a character, unless END is there. What the table has in a place that
was not written yet is `garbage`. -/
def parseStep (garbage : Nat → Mp2856Data) (state : ParseState) (char : UInt8) :
    Except ParseStop ParseState :=
  if state.skip then .ok { state with skip := false }
  else if char = 0 then .error .rejected
  else if char ≠ tab ∧ char ≠ carriageReturn ∧ state.curEleIdx ≠ ateWriteType then
    match asciiToVal char with
    | none => .ok state
    | some val => .ok { state with
        dataStore := state.dataStore <<< 4 ||| UInt32.ofNat val
        dataIdx := state.dataIdx + 1 }
  else if ateColMax ≤ state.curEleIdx then .error .rejected
  -- `cur_line` is behind the table once it is full, and the count is checked at the end of the line
  else if maxCmdLine ≤ state.done.length ∧ stores state.curEleIdx char then .error .strays
  else
    match storeColumn state.curEleIdx state.dataStore state.dataIdx char state.curLine with
    | none => .error .strays
    | some curLine =>
      if char = tab then
        .ok ⟨state.done, curLine, state.curEleIdx + 1, 0, 0, false⟩
      else if char = carriageReturn then
        if maxCmdLine < state.done.length + 1 then .error .rejected
        else .ok (nextLine garbage (state.done ++ [curLine]) true)
      else .ok { state with curLine, dataStore := 0, dataIdx := 0 }

/-- The loop of `parsing_image`. -/
def parseLoop (garbage : Nat → Mp2856Data) :
    ParseState → List UInt8 → Except ParseStop ParseState
  | state, [] => .ok state
  | state, char :: rest =>
    if !state.skip && state.curEleIdx == ateConfId && (char :: rest).take 3 == endMark then
      .ok state
    else
      match parseStep garbage state char with
      | .error stop => .error stop
      | .ok next => parseLoop garbage next rest

/-- `parsing_image`: the records, unless it stops. -/
def parsingImage (garbage : Nat → Mp2856Data) (mallocOk : Bool) (image : List UInt8) :
    Except ParseStop (List Mp2856Data) :=
  if !mallocOk then .error .rejected
  else (parseLoop garbage (nextLine garbage [] false) image).map (·.done)

/-! ## What is claimed -/

/-- The text up to the END in the first column of a line, if there is one. The first character of a
line is skipped, but for the first line. -/
def uptoEnd : Bool → Bool → List UInt8 → List UInt8
  | _, _, [] => []
  | atFirst, true, char :: rest => char :: uptoEnd atFirst false rest
  | atFirst, false, char :: rest =>
    if atFirst && (char :: rest).take 3 == endMark then []
    else char :: uptoEnd (if char = tab then false else atFirst || char == carriageReturn)
      (char == carriageReturn) rest

def textOf (image : List UInt8) : List UInt8 := uptoEnd true false image

/-- The line at the front of a text. Its carriage return and the character behind that are not part
of it. -/
def takeLine : Taker (List UInt8) := fun text =>
  if carriageReturn ∈ text then
    some (text.takeWhile (· ≠ carriageReturn), (text.dropWhile (· ≠ carriageReturn)).drop 2)
  else none

def linesOf (text : List UInt8) : List (List UInt8) :=
  (pieces takeLine (text.length + 1) text).1

def leftover (text : List UInt8) : List UInt8 := (pieces takeLine (text.length + 1) text).2

def columnsOf : List UInt8 → List (List UInt8)
  | [] => [[]]
  | char :: rest =>
    if char = tab then [] :: columnsOf rest
    else (columnsOf rest).modifyHead (char :: ·)

def columnDigits (column : List UInt8) : List Nat := column.filterMap asciiToVal

def columnNumber (column : List UInt8) : Nat :=
  (columnDigits column).foldl (fun number val => number * 16 + val) 0

def columnBytes (column : List UInt8) : Nat := ((columnDigits column).length + 1) / 2

def columnAt (line : List UInt8) (index : Nat) : List UInt8 := (columnsOf line).getD index []

/-- The line is a block write. -/
def IsBlock (line : List UInt8) : Prop := blockMark ∈ columnAt line ateWriteType

instance (line : List UInt8) : Decidable (IsBlock line) :=
  inferInstanceAs (Decidable (_ ∈ _))

/-- What is to be written of a line: its data, the lowest byte first, with their number before them
where it is a block write. -/
def lineBytes (line : List UInt8) : List UInt8 :=
  let data := columnAt line 5
  (if IsBlock line then [UInt8.ofNat (columnBytes data)] else []) ++
    digits (columnNumber data) (columnBytes data)

/-- A line that a record can have: it has the columns up to the data, its numbers fit their fields,
and it is marked as a block write once at most. -/
structure Complete (line : List UInt8) : Prop where
  columns : 6 ≤ (columnsOf line).length
  cfgId : columnNumber (columnAt line 0) < 65536
  page : columnNumber (columnAt line 1) < 256
  regAddr : columnNumber (columnAt line 2) < 256
  narrow : (lineBytes line).length ≤ 4
  mark : (columnAt line ateWriteType).count blockMark ≤ 1

/-- A record has what a line says. -/
structure Matches (line : List UInt8) (record : Mp2856Data) : Prop where
  complete : Complete line
  cfgId : record.cfgId.toNat = columnNumber (columnAt line 0)
  page : record.page.toNat = columnNumber (columnAt line 1)
  regAddr : record.regAddr.toNat = columnNumber (columnAt line 2)
  bytes : record.bytes = lineBytes line

/-- The text has an end, or nothing is left over behind its last line. -/
def Ended (image : List UInt8) : Prop :=
  (textOf image).length < image.length ∨ leftover (textOf image) = []

/-- The parser stays in the table and in the fields of its records, its records have what the lines
say when it succeeds, and it rejects an image with too many lines or too much data in one. -/
structure ParsesRight (garbage : Nat → Mp2856Data) (mallocOk : Bool) (image : List UInt8) :
    Prop where
  inside : parsingImage garbage mallocOk image ≠ .error .strays
  records : ∀ records, parsingImage garbage mallocOk image = .ok records →
    Ended image ∧ List.Forall₂ Matches (linesOf (textOf image)) records
  many : maxCmdLine < (linesOf (textOf image)).length →
    parsingImage garbage mallocOk image = .error .rejected
  wide : ∀ line ∈ linesOf (textOf image), 4 < (lineBytes line).length →
    parsingImage garbage mallocOk image = .error .rejected

/-- The parser comes to a character in this state. -/
def ComesTo (garbage : Nat → Mp2856Data) (image : List UInt8) (state : ParseState)
    (char : UInt8) : Prop :=
  ∃ first rest, textOf image = first ++ char :: rest ∧
    first.foldlM (parseStep garbage) (nextLine garbage [] false) = .ok state

/-- A character at which something is stored behind the table, or data are moved beyond their
field. -/
def Overflows (state : ParseState) (char : UInt8) : Prop :=
  state.skip = false ∧ char ≠ 0 ∧
    (char = tab ∨ char = carriageReturn ∨ state.curEleIdx = ateWriteType) ∧
    (maxCmdLine ≤ state.done.length ∧ stores state.curEleIdx char = true ∨
      state.curEleIdx = ateWriteType ∧ char = blockMark ∧ 3 < state.curLine.regLen)

/-- Lines, and what is behind them, in which no character is 0 and that have no more columns than
the parser knows. It counts the last column where it ends. -/
structure Takes (lines : List (List UInt8)) (behind : List UInt8) : Prop where
  lines : ∀ line ∈ lines, 0 ∉ line ∧ (columnsOf line).length ≤ ateColMax
  behind : 0 ∉ behind ∧ (columnsOf behind).length ≤ ateColMax + 1

/-! ## Columns -/

section Columns

variable {past before : List UInt8} {char : UInt8} {columns : List (List UInt8)}
  {current : List UInt8} {number length : Nat}

theorem length_columnsOf (line : List UInt8) : (columnsOf line).length = line.count tab + 1 := by
  induction line with
  | nil => rfl
  | cons char rest ih =>
    unfold columnsOf
    split
    · rename_i same
      rw [same, length_cons, ih, count_cons_self]
    · rename_i other
      rw [length_modifyHead, ih, count_cons_of_ne other]

theorem columnsOf_tab (past : List UInt8) : columnsOf (past ++ [tab]) = columnsOf past ++ [[]] := by
  induction past with
  | nil => rfl
  | cons char rest ih =>
    rw [cons_append]
    unfold columnsOf
    split
    · rw [ih, cons_append]
    · rw [ih]
      cases parts : columnsOf rest with
      | nil => exact absurd (congrArg List.length parts) (by simp [length_columnsOf])
      | cons first others => rfl

theorem columnsOf_char (other : char ≠ tab) (parts : columnsOf past = columns ++ [current]) :
    columnsOf (past ++ [char]) = columns ++ [current ++ [char]] := by
  induction past generalizing columns current with
  | nil =>
    have single : columns = [] ∧ current = [] := by
      cases columns with
      | nil => exact ⟨rfl, (List.cons.inj parts).1.symm⟩
      | cons first others => exact absurd (List.cons.inj parts).2 (by simp)
    rw [single.1, single.2]
    simp [columnsOf, other]
  | cons head rest ih =>
    rw [cons_append]
    unfold columnsOf at parts ⊢
    split at parts
    · rename_i same
      rw [if_pos same]
      cases columns with
      | nil => exact absurd (congrArg List.length parts) (by simp [length_columnsOf])
      | cons first others =>
        have split := List.cons.inj parts
        rw [ih split.2, ← split.1]
        rfl
    · rename_i differs
      rw [if_neg differs]
      cases columns with
      | nil =>
        obtain ⟨tail, whole⟩ : ∃ tail, columnsOf rest = [tail] := by
          have one := congrArg List.length parts
          rw [length_modifyHead] at one
          exact List.length_eq_one_iff.mp one
        rw [whole] at parts
        have split : columnsOf rest = [] ++ [tail] := whole
        rw [ih split, ← (List.cons.inj parts).1]
        rfl
      | cons first others =>
        obtain ⟨tail, whole⟩ : ∃ tail, columnsOf rest = (tail :: others) ++ [current] ∧
            first = head :: tail := by
          cases rests : columnsOf rest with
          | nil => exact absurd (congrArg List.length rests) (by simp [length_columnsOf])
          | cons tail behind =>
            rw [rests] at parts
            have split := List.cons.inj parts
            exact ⟨tail, by rw [split.2]; rfl, split.1.symm⟩
        rw [ih whole.1, whole.2]
        rfl

theorem columnsOf_last (line : List UInt8) :
    ∃ columns current, columnsOf line = columns ++ [current] ∧ columns.length = line.count tab := by
  have sized := length_columnsOf line
  have filled : columnsOf line ≠ [] := by
    intro none
    rw [none] at sized
    cases sized
  refine ⟨(columnsOf line).dropLast, (columnsOf line).getLast filled,
    (dropLast_append_getLast filled).symm, ?_⟩
  rw [length_dropLast, sized]
  omega

end Columns

/-! ## The digits of a column -/

section Digits

variable {column : List UInt8} {char : UInt8} {dataStore : UInt32} {dataIdx : UInt8} {val : Nat}

/-- What the parser has of the digits of a column. -/
structure Gathered (column : List UInt8) (dataStore : UInt32) (dataIdx : UInt8) : Prop where
  store : dataStore = UInt32.ofNat (columnNumber column)
  count : dataIdx = UInt8.ofNat (columnDigits column).length

theorem gathered_nil : Gathered [] 0 0 := ⟨rfl, rfl⟩

theorem asciiToVal_lt (digit : asciiToVal char = some val) : val < 16 := by
  unfold asciiToVal at digit
  split at digit
  · rename_i range
    have above := UInt8.lt_iff_toNat_lt.mp range.2
    cases digit
    have least := UInt8.le_iff_toNat_le.mp range.1
    simp at above least ⊢
    omega
  · split at digit
    · rename_i range
      have above := UInt8.lt_iff_toNat_lt.mp range.2
      cases digit
      have least := UInt8.le_iff_toNat_le.mp range.1
      simp at above least ⊢
      omega
    · cases digit

theorem shift_digit {number : Nat} (small : val < 16) :
    UInt32.ofNat number <<< 4 ||| UInt32.ofNat val = UInt32.ofNat (number * 16 + val) := by
  apply UInt32.toNat_inj.mp
  have shifted : (number % 2 ^ 32) <<< 4 % 2 ^ 32 = (number % 2 ^ 28) <<< 4 := by
    omega
  have joined : (number % 2 ^ 28) <<< 4 ||| val = (number % 2 ^ 28) <<< 4 + val :=
    (Nat.shiftLeft_add_eq_or_of_lt (show val < 2 ^ 4 from small) _).symm
  rw [UInt32.toNat_or, UInt32.toNat_shiftLeft, UInt32.toNat_ofNat', UInt32.toNat_ofNat',
    UInt32.toNat_ofNat', show (4 : UInt32).toNat % 32 = 4 from rfl, shifted,
    Nat.mod_eq_of_lt (show val < 2 ^ 32 by omega), joined, Nat.shiftLeft_eq]
  omega

theorem Gathered.pass (gathered : Gathered column dataStore dataIdx)
    (other : asciiToVal char = none) : Gathered (column ++ [char]) dataStore dataIdx := by
  have same : columnDigits (column ++ [char]) = columnDigits column := by
    simp [columnDigits, filterMap_append, other]
  exact ⟨by rw [columnNumber, same]; exact gathered.store, by rw [same]; exact gathered.count⟩

theorem Gathered.digit (gathered : Gathered column dataStore dataIdx)
    (digit : asciiToVal char = some val) :
    Gathered (column ++ [char]) (dataStore <<< 4 ||| UInt32.ofNat val) (dataIdx + 1) := by
  have more : columnDigits (column ++ [char]) = columnDigits column ++ [val] := by
    simp [columnDigits, filterMap_append, digit]
  constructor
  · rw [gathered.store, shift_digit (asciiToVal_lt digit), columnNumber, columnNumber, more,
      foldl_append]
    rfl
  · rw [gathered.count, more, length_append, UInt8.ofNat_add]
    rfl

theorem columnNumber_lt (column : List UInt8) :
    columnNumber column < 16 ^ (columnDigits column).length := by
  have range : ∀ vals : List Nat, (∀ val ∈ vals, val < 16) → ∀ number,
      vals.foldl (fun number val => number * 16 + val) number <
        (number + 1) * 16 ^ vals.length := by
    intro vals
    induction vals with
    | nil => intro _ number; simp
    | cons val vals ih =>
      intro small number
      have here := small val mem_cons_self
      have later := ih (fun other listed => small other (mem_cons_of_mem _ listed))
        (number * 16 + val)
      rw [foldl_cons, length_cons, Nat.pow_succ']
      have bound : (number * 16 + val + 1) * 16 ^ vals.length ≤
          (number + 1) * 16 * 16 ^ vals.length :=
        Nat.mul_le_mul_right _ (by omega)
      rw [← Nat.mul_assoc]
      omega
  have digits : ∀ val ∈ columnDigits column, val < 16 := by
    intro val listed
    obtain ⟨char, -, digit⟩ := List.mem_filterMap.mp listed
    exact asciiToVal_lt digit
  have bound := range (columnDigits column) digits 0
  rwa [Nat.zero_add, Nat.one_mul] at bound

theorem Gathered.length (gathered : Gathered column dataStore dataIdx)
    (narrow : columnBytes column ≤ 4) :
    (if dataIdx % 2 = 0 then dataIdx / 2 else dataIdx / 2 + 1) =
      UInt8.ofNat (columnBytes column) := by
  have few : (columnDigits column).length ≤ 8 := by
    rw [columnBytes] at narrow
    omega
  have table : ∀ count < 9, (if UInt8.ofNat count % 2 = 0 then UInt8.ofNat count / 2
      else UInt8.ofNat count / 2 + 1) = UInt8.ofNat ((count + 1) / 2) := by decide
  rw [gathered.count]
  exact table _ (Nat.lt_succ_of_le few)

theorem Gathered.number (gathered : Gathered column dataStore dataIdx)
    (narrow : columnBytes column ≤ 4) : dataStore.toNat = columnNumber column := by
  have small : columnNumber column < 2 ^ 32 := calc
    columnNumber column < 16 ^ (columnDigits column).length := columnNumber_lt column
    _ ≤ 16 ^ 8 := Nat.pow_le_pow_right (by decide) (by rw [columnBytes] at narrow; omega)
    _ = 2 ^ 32 := by decide
  rw [gathered.store, UInt32.toNat_ofNat', Nat.mod_eq_of_lt small]

end Digits

/-! ## The record of a line -/

section Records

variable {columns : List (List UInt8)} {current : List UInt8} {marks : Nat}
  {record stored : Mp2856Data} {dataStore : UInt32} {dataIdx char : UInt8}

def marksOf (columns : List (List UInt8)) : Nat := (columns.getD ateWriteType []).count blockMark

/-- A record has what its line says in the columns that are stored. -/
structure Has (columns : List (List UInt8)) (marks : Nat) (record : Mp2856Data) : Prop where
  cfgId : 1 ≤ columns.length → record.cfgId.toNat = columnNumber (columns.getD 0 []) % 65536
  page : 2 ≤ columns.length → record.page.toNat = columnNumber (columns.getD 1 []) % 256
  regAddr : 3 ≤ columns.length → record.regAddr.toNat = columnNumber (columns.getD 2 []) % 256
  plain : 6 ≤ columns.length → columnBytes (columns.getD 5 []) ≤ 4 → marks = 0 →
    record.regData = digits (columnNumber (columns.getD 5 [])) 4 ∧
      record.regLen = UInt8.ofNat (columnBytes (columns.getD 5 []))
  marked : 6 ≤ columns.length → columnBytes (columns.getD 5 []) ≤ 3 → marks = 1 →
    record.bytes = UInt8.ofNat (columnBytes (columns.getD 5 [])) ::
      digits (columnNumber (columns.getD 5 [])) (columnBytes (columns.getD 5 []))

theorem has_nil (record : Mp2856Data) : Has [] 0 record := by
  constructor <;> intro some <;> exact absurd some (by decide)

theorem getD_append_left {index : Nat} (inside : index < columns.length) :
    (columns ++ [current]).getD index [] = columns.getD index [] := by
  rw [getD_eq_getElem?_getD, getD_eq_getElem?_getD, getElem?_append_left inside]

theorem getD_append_last : (columns ++ [current]).getD columns.length [] = current := by
  rw [getD_eq_getElem?_getD, getElem?_concat_length, Option.getD_some]

theorem Has.keep (has : Has columns marks record) (other : 6 ≤ columns.length ∨
    columns.length = 3 ∨ columns.length = 4) : Has (columns ++ [current]) marks record := by
  constructor
  · intro _
    rw [getD_append_left (by omega)]
    exact has.cfgId (by omega)
  · intro _
    rw [getD_append_left (by omega)]
    exact has.page (by omega)
  · intro _
    rw [getD_append_left (by omega)]
    exact has.regAddr (by omega)
  · intro many
    rw [length_append, length_singleton] at many
    rw [getD_append_left (by omega)]
    exact has.plain (by omega)
  · intro many
    rw [length_append, length_singleton] at many
    rw [getD_append_left (by omega)]
    exact has.marked (by omega)

theorem take_digits {number count width : Nat} (less : count ≤ width) :
    (digits number width).take count = digits number count := by
  rw [digits, ← map_take, take_range, Nat.min_eq_left less, digits]

theorem Has.early {added : Mp2856Data} (few : columns.length < 6)
    (cfgId : 1 ≤ columns.length → added.cfgId.toNat = columnNumber (columns.getD 0 []) % 65536)
    (page : 2 ≤ columns.length → added.page.toNat = columnNumber (columns.getD 1 []) % 256)
    (regAddr : 3 ≤ columns.length → added.regAddr.toNat = columnNumber (columns.getD 2 []) % 256) :
    Has columns marks added :=
  ⟨cfgId, page, regAddr, fun many => absurd many (by omega), fun many => absurd many (by omega)⟩

/-- What a record has of its line at the end of a column. -/
theorem Has.store (has : Has columns marks record) (unmarked : columns.length < 7 → marks = 0)
    (gathered : columns.length ≠ ateWriteType → Gathered current dataStore dataIdx)
    (other : columns.length = ateWriteType → char ≠ blockMark)
    (done : storeColumn columns.length dataStore dataIdx char record = some stored) :
    Has (columns ++ [current]) marks stored := by
  have sized : (columns ++ [current]).length = columns.length + 1 := by
    rw [length_append, length_singleton]
  have last : (columns ++ [current]).getD columns.length [] = current := getD_append_last
  have before : ∀ index, index < columns.length →
      (columns ++ [current]).getD index [] = columns.getD index [] :=
    fun index inside => getD_append_left inside
  unfold storeColumn at done
  split at done
  · rename_i none
    have store := (gathered (by rw [none]; decide)).store
    cases done
    rw [none] at last
    apply Has.early (by omega)
    · intro _
      rw [last, UInt32.toNat_toUInt16, store, UInt32.toNat_ofNat']
      omega
    · intro many
      omega
    · intro many
      omega
  · rename_i one
    have store := (gathered (by rw [one]; decide)).store
    cases done
    rw [one] at last
    apply Has.early (by omega)
    · intro _
      rw [before 0 (by omega)]
      exact has.cfgId (by omega)
    · intro _
      rw [last, UInt32.toNat_toUInt8, store, UInt32.toNat_ofNat']
      omega
    · intro many
      omega
  · rename_i two
    have store := (gathered (by rw [two]; decide)).store
    cases done
    rw [two] at last
    apply Has.early (by omega)
    · intro _
      rw [before 0 (by omega)]
      exact has.cfgId (by omega)
    · intro _
      rw [before 1 (by omega)]
      exact has.page (by omega)
    · intro _
      rw [last, UInt32.toNat_toUInt8, store, UInt32.toNat_ofNat']
      omega
  · rename_i five
    have gathered := gathered (by rw [five]; decide)
    cases done
    rw [five] at last
    constructor
    · intro _
      rw [before 0 (by omega)]
      exact has.cfgId (by omega)
    · intro _
      rw [before 1 (by omega)]
      exact has.page (by omega)
    · intro _
      rw [before 2 (by omega)]
      exact has.regAddr (by omega)
    · intro _ narrow _
      rw [last] at narrow ⊢
      exact ⟨by rw [gathered.number narrow], gathered.length narrow⟩
    · intro _ _ one
      exact absurd (unmarked (by omega)) (by omega)
  · rename_i seven
    rw [if_neg (other seven)] at done
    cases done
    exact has.keep (by omega)
  · rename_i not0 not1 not2 not5 not7
    cases done
    have place : columns.length ≠ 0 ∧ columns.length ≠ 1 ∧ columns.length ≠ 2 ∧
        columns.length ≠ 5 := ⟨not0, not1, not2, not5⟩
    exact has.keep (by omega)

/-- What a record has of its line at a mark. -/
theorem Has.mark (has : Has columns marks record) (seven : columns.length = ateWriteType)
    (done : storeColumn columns.length dataStore dataIdx blockMark record = some stored) :
    Has columns (marks + 1) stored := by
  rw [seven] at done
  unfold storeColumn at done
  simp only [ateWriteType, if_true] at done seven
  split at done
  · cases done
  · cases done
    refine ⟨has.cfgId, has.page, has.regAddr, fun _ _ none => absurd none (by omega), ?_⟩
    intro _ narrow one
    have plain := has.plain (by omega) (by omega) (by omega)
    have small : (UInt8.ofNat (columnBytes (columns.getD 5 []))).toNat =
        columnBytes (columns.getD 5 []) := by
      rw [UInt8.toNat_ofNat', Nat.mod_eq_of_lt (by omega)]
    have longer : (UInt8.ofNat (columnBytes (columns.getD 5 [])) + 1).toNat =
        columnBytes (columns.getD 5 []) + 1 := by
      rw [UInt8.toNat_add, small, show (1 : UInt8).toNat = 1 from rfl,
        Nat.mod_eq_of_lt (by omega)]
    have front : ((digits (columnNumber (columns.getD 5 [])) 4).take
        (columnBytes (columns.getD 5 []))).length = columnBytes (columns.getD 5 []) := by
      rw [length_take, length_digits]
      omega
    rw [Mp2856Data.bytes, Mp2856Data.block]
    rw [plain.1, plain.2, longer, small, cons_append, take_succ_cons,
      take_append_of_le_length (by omega), take_take, Nat.min_self,
      take_digits (by omega)]

theorem Has.matches {line : List UInt8}
    (has : Has (columnsOf line) (marksOf (columnsOf line)) record) (complete : Complete line) :
    Matches line record := by
  have many := complete.columns
  have wide := complete.narrow
  refine ⟨complete, ?_, ?_, ?_, ?_⟩
  · exact (has.cfgId (by omega)).trans (Nat.mod_eq_of_lt complete.cfgId)
  · exact (has.page (by omega)).trans (Nat.mod_eq_of_lt complete.page)
  · exact (has.regAddr (by omega)).trans (Nat.mod_eq_of_lt complete.regAddr)
  · by_cases block : IsBlock line
    · have once : marksOf (columnsOf line) = 1 :=
        Nat.le_antisymm complete.mark (List.count_pos_iff.mpr block)
      rw [lineBytes, if_pos block, length_append, length_singleton, length_digits,
        columnAt] at wide
      rw [lineBytes, if_pos block, columnAt]
      exact has.marked many (by omega) once
    · have never : marksOf (columnsOf line) = 0 := List.count_eq_zero.mpr block
      rw [lineBytes, if_neg block, nil_append, length_digits, columnAt] at wide
      have plain := has.plain many wide never
      have small : columnBytes ((columnsOf line).getD 5 []) % 256 =
          columnBytes ((columnsOf line).getD 5 []) := Nat.mod_eq_of_lt (Nat.lt_of_le_of_lt wide
            (by decide))
      rw [lineBytes, if_neg block, columnAt, Mp2856Data.bytes, plain.1, plain.2, UInt8.toNat_ofNat',
        small, take_digits wide]
      rfl

end Records

/-! ## The steps -/

section Steps

variable {garbage : Nat → Mp2856Data} {state next : ParseState} {char : UInt8}

/-- The character is stored. -/
def Stored (state : ParseState) (char : UInt8) : Prop :=
  char = tab ∨ char = carriageReturn ∨ state.curEleIdx = ateWriteType

theorem parseStep_cases (stepped : parseStep garbage state char = .ok next) :
    (state.skip = true ∧ next = { state with skip := false }) ∨
    (state.skip = false ∧ char ≠ 0 ∧
      ((¬ Stored state char ∧ asciiToVal char = none ∧ next = state) ∨
      (∃ val, ¬ Stored state char ∧ asciiToVal char = some val ∧ next = { state with
        dataStore := state.dataStore <<< 4 ||| UInt32.ofNat val
        dataIdx := state.dataIdx + 1 }) ∨
      (∃ curLine, Stored state char ∧ state.curEleIdx < ateColMax ∧
        ¬ (maxCmdLine ≤ state.done.length ∧ stores state.curEleIdx char = true) ∧
        storeColumn state.curEleIdx state.dataStore state.dataIdx char state.curLine =
          some curLine ∧
        ((char = tab ∧ next = ⟨state.done, curLine, state.curEleIdx + 1, 0, 0, false⟩) ∨
        (char = carriageReturn ∧ state.done.length < maxCmdLine ∧
          next = nextLine garbage (state.done ++ [curLine]) true) ∨
        (char ≠ tab ∧ char ≠ carriageReturn ∧
          next = { state with curLine, dataStore := 0, dataIdx := 0 }))))) := by
  unfold parseStep at stepped
  split at stepped
  · rename_i skips
    exact .inl ⟨skips, (Except.ok.inj stepped).symm⟩
  · rename_i stays
    refine .inr ⟨by simpa using stays, ?_⟩
    split at stepped
    · cases stepped
    · rename_i valid
      refine ⟨valid, ?_⟩
      split at stepped
      · have passed : ¬ Stored state char := by
          unfold Stored
          tauto
        split at stepped
        · rename_i none
          exact .inl ⟨passed, none, (Except.ok.inj stepped).symm⟩
        · rename_i val some
          exact .inr (.inl ⟨val, passed, some, (Except.ok.inj stepped).symm⟩)
      · have ended : Stored state char := by
          tauto
        split at stepped
        · cases stepped
        · rename_i few
          split at stepped
          · cases stepped
          · rename_i room
            split at stepped
            · cases stepped
            · rename_i curLine column
              refine .inr (.inr ⟨curLine, ended, Nat.lt_of_not_le few, room, column, ?_⟩)
              split at stepped
              · rename_i isTab
                exact .inl ⟨isTab, (Except.ok.inj stepped).symm⟩
              · rename_i noTab
                split at stepped
                · rename_i isEnd
                  split at stepped
                  · cases stepped
                  · exact .inr (.inl ⟨isEnd, by omega, (Except.ok.inj stepped).symm⟩)
                · rename_i noEnd
                  exact .inr (.inr ⟨noTab, noEnd, (Except.ok.inj stepped).symm⟩)

theorem stores_le {index : Nat} (stored : stores index char = true) : index < ateColMax := by
  simp only [stores, Bool.or_eq_true, Bool.and_eq_true, decide_eq_true_eq, beq_iff_eq] at stored
  rw [ateColMax]
  omega

theorem storeColumn_eq_none {index : Nat} {dataStore : UInt32} {dataIdx : UInt8}
    {record : Mp2856Data} : storeColumn index dataStore dataIdx char record = none ↔
      index = ateWriteType ∧ char = blockMark ∧ 3 < record.regLen := by
  unfold storeColumn
  split
  case h_5 =>
    split
    · rename_i mark
      split
      · rename_i wide
        simp [ateWriteType, mark, wide]
      · rename_i narrow
        simp [narrow]
    · rename_i other
      simp [other]
  case h_6 seven =>
    constructor
    · intro none
      cases none
    · rintro ⟨place, -, -⟩
      exact absurd place seven
  all_goals simp [ateWriteType]

theorem parseStep_strays_iff :
    parseStep garbage state char = .error .strays ↔ Overflows state char := by
  unfold parseStep Overflows
  split
  · rename_i skips
    simp [skips]
  · rename_i stays
    split
    · rename_i zero
      simp [zero]
    · rename_i valid
      split
      · have other : ¬ (char = tab ∨ char = carriageReturn ∨ state.curEleIdx = ateWriteType) := by
          tauto
        constructor
        · intro same
          split at same <;> exact absurd same (by simp)
        · intro overflows
          exact absurd overflows.2.2.1 other
      · have ended : char = tab ∨ char = carriageReturn ∨ state.curEleIdx = ateWriteType := by
          tauto
        have front : state.skip = false ∧ char ≠ 0 := ⟨by simpa using stays, valid⟩
        split
        · rename_i many
          constructor
          · intro same
            exact absurd same (by simp)
          · rintro ⟨-, -, -, behind | ⟨place, -, -⟩⟩
            · exact absurd (stores_le behind.2) (Nat.not_lt.mpr many)
            · rw [place] at many
              exact absurd many (by decide)
        · split
          · rename_i behind
            exact ⟨fun _ => ⟨front.1, front.2, ended, .inl behind⟩, fun _ => rfl⟩
          · rename_i room
            split
            · rename_i none
              have moved := storeColumn_eq_none.mp none
              exact ⟨fun _ => ⟨front.1, front.2, ended, .inr moved⟩, fun _ => rfl⟩
            · rename_i curLine column
              constructor
              · intro same
                split at same
                · simp at same
                · split at same
                  · split at same <;> exact absurd same (by simp)
                  · simp at same
              · rintro ⟨-, -, -, behind | moved⟩
                · exact absurd behind room
                · rw [storeColumn_eq_none.mpr moved] at column
                  simp at column

end Steps

/-! ## A line -/

section Lines

variable {garbage : Nat → Mp2856Data} {state next : ParseState} {char : UInt8}
  {done : List Mp2856Data} {past : List UInt8}

/-- What the parser has of a line whose front it went through, behind so many records. -/
structure Tracks (done : List Mp2856Data) (past : List UInt8) (state : ParseState) : Prop where
  still : state.skip = false
  kept : state.done = done
  valid : 0 ∉ past
  place : state.curEleIdx = past.count tab
  few : state.curEleIdx ≤ ateColMax
  room : 0 < state.curEleIdx → done.length < maxCmdLine
  gathered : ∀ columns current, columnsOf past = columns ++ [current] →
    columns.length ≠ ateWriteType → Gathered current state.dataStore state.dataIdx
  has : ∀ columns current, columnsOf past = columns ++ [current] →
    Has columns (marksOf (columns ++ [current])) state.curLine

theorem tracks_nil (garbage : Nat → Mp2856Data) (done : List Mp2856Data) :
    Tracks done [] (nextLine garbage done false) := by
  have single : ∀ columns current, columnsOf [] = columns ++ [current] →
      columns = [] ∧ current = [] := by
    intro columns current parts
    have same : [] ++ [[]] = columns ++ [current] := parts
    have split := append_inj' same rfl
    exact ⟨split.1.symm, (List.cons.inj split.2).1.symm⟩
  refine ⟨rfl, rfl, by simp, rfl, Nat.zero_le _, fun some => absurd some (Nat.lt_irrefl 0), ?_, ?_⟩
  · intro columns current parts _
    rw [(single columns current parts).2]
    exact gathered_nil
  · intro columns current parts
    rw [(single columns current parts).1, (single columns current parts).2]
    exact has_nil _

theorem marksOf_eq_zero {columns : List (List UInt8)} (few : columns.length ≤ ateWriteType) :
    marksOf columns = 0 := by
  rw [marksOf, getD_eq_getElem?_getD, getElem?_eq_none few]
  rfl

theorem marksOf_nil {columns : List (List UInt8)} :
    marksOf (columns ++ [[]]) = marksOf columns := by
  unfold marksOf
  rcases Nat.lt_trichotomy columns.length ateWriteType with less | place | more
  · rw [← marksOf, ← marksOf, marksOf_eq_zero (Nat.le_of_lt less), marksOf_eq_zero]
    rw [length_append, length_singleton]
    exact less
  · rw [← place, getD_append_last, getD_eq_getElem?_getD,
      getElem?_eq_none le_rfl]
    rfl
  · rw [getD_append_left more]

theorem Tracks.stored (tracks : Tracks done past state) (delimiter : char ≠ blockMark)
    {curLine : Mp2856Data} (column : storeColumn state.curEleIdx state.dataStore state.dataIdx char
      state.curLine = some curLine) :
    Has (columnsOf past) (marksOf (columnsOf past)) curLine := by
  obtain ⟨columns, current, parts, sized⟩ := columnsOf_last past
  rw [tracks.place, ← sized] at column
  have has := tracks.has columns current parts
  rw [parts]
  apply has.store _ (tracks.gathered columns current parts) (fun _ => delimiter) column
  intro few
  apply marksOf_eq_zero
  rw [length_append, length_singleton, ateWriteType]
  omega

theorem columnsOf_split (other : char ≠ tab) {columns : List (List UInt8)} {current : List UInt8}
    (parts : columnsOf (past ++ [char]) = columns ++ [current]) :
    ∃ before, columnsOf past = columns ++ [before] ∧ current = before ++ [char] := by
  obtain ⟨front, before, whole, -⟩ := columnsOf_last past
  rw [columnsOf_char other whole] at parts
  have split := append_inj' parts rfl
  exact ⟨before, by rw [whole, split.1], (List.cons.inj split.2).1.symm⟩

theorem marksOf_char {columns : List (List UInt8)} {before : List UInt8} :
    marksOf (columns ++ [before ++ [char]]) = marksOf (columns ++ [before]) +
      if columns.length = ateWriteType ∧ char = blockMark then 1 else 0 := by
  unfold marksOf
  by_cases place : columns.length = ateWriteType
  · rw [← place, getD_append_last, getD_append_last, count_append, count_singleton]
    simp
  · have apart : ¬ (columns.length = ateWriteType ∧ char = blockMark) := fun both => place both.1
    rw [if_neg apart, Nat.add_zero]
    rcases Nat.lt_or_gt_of_ne place with less | more
    · rw [← marksOf, ← marksOf, marksOf_eq_zero, marksOf_eq_zero] <;>
      · rw [length_append, length_singleton]
        omega
    · rw [getD_append_left more, getD_append_left more]

theorem Tracks.sized (tracks : Tracks done past state) {columns : List (List UInt8)}
    {current : List UInt8} (parts : columnsOf past = columns ++ [current]) :
    columns.length = state.curEleIdx := by
  have total := congrArg List.length parts
  rw [length_columnsOf, length_append, length_singleton] at total
  have same := tracks.place
  omega

theorem Tracks.valid_snoc (tracks : Tracks done past state) (valid : char ≠ 0) :
    0 ∉ past ++ [char] := by
  rw [mem_append, mem_singleton]
  rintro (before | here)
  · exact tracks.valid before
  · exact valid here.symm

theorem Tracks.pass (tracks : Tracks done past state) (valid : char ≠ 0) (other : char ≠ tab)
    (place : state.curEleIdx ≠ ateWriteType)
    {dataStore : UInt32} {dataIdx : UInt8} (more : ∀ column,
      Gathered column state.dataStore state.dataIdx →
        Gathered (column ++ [char]) dataStore dataIdx) :
    Tracks done (past ++ [char]) { state with dataStore, dataIdx } := by
  refine ⟨tracks.still, tracks.kept, tracks.valid_snoc valid, ?_, tracks.few, tracks.room, ?_, ?_⟩
  · rw [count_append, count_singleton, if_neg (by simpa using other)]
    exact tracks.place
  · intro columns current parts apart
    obtain ⟨before, whole, rfl⟩ := columnsOf_split other parts
    exact more before (tracks.gathered columns before whole apart)
  · intro columns current parts
    obtain ⟨before, whole, rfl⟩ := columnsOf_split other parts
    rw [marksOf_char, if_neg (fun both => place ((tracks.sized whole).symm.trans both.1))]
    exact tracks.has columns before whole

theorem Tracks.push (tracks : Tracks done past state) (few : state.curEleIdx < ateColMax)
    (room : ¬ (maxCmdLine ≤ state.done.length ∧ stores state.curEleIdx tab = true))
    {curLine : Mp2856Data} (column : storeColumn state.curEleIdx state.dataStore state.dataIdx tab
      state.curLine = some curLine) :
    Tracks done (past ++ [tab]) ⟨state.done, curLine, state.curEleIdx + 1, 0, 0, false⟩ := by
  have last : ∀ columns current, columnsOf (past ++ [tab]) = columns ++ [current] →
      columns = columnsOf past ∧ current = [] := by
    intro columns current parts
    rw [columnsOf_tab] at parts
    have split := append_inj' parts rfl
    exact ⟨split.1.symm, (List.cons.inj split.2).1.symm⟩
  refine ⟨rfl, tracks.kept, tracks.valid_snoc (by decide), ?_, few, ?_, ?_, ?_⟩
  · rw [count_append, count_singleton_self, ← tracks.place]
  · intro _
    by_cases first : state.curEleIdx = 0
    · rw [first, tracks.kept] at room
      have stores : stores 0 tab = true := rfl
      exact Nat.lt_of_not_le fun many => room ⟨many, stores⟩
    · exact tracks.room (Nat.pos_of_ne_zero first)
  · intro columns current parts _
    rw [(last columns current parts).2]
    exact gathered_nil
  · intro columns current parts
    rw [(last columns current parts).1, (last columns current parts).2, marksOf_nil]
    exact tracks.stored (by decide) column

theorem Tracks.write (tracks : Tracks done past state) (valid : char ≠ 0) (other : char ≠ tab)
    (place : state.curEleIdx = ateWriteType) {curLine : Mp2856Data}
    (column : storeColumn state.curEleIdx state.dataStore state.dataIdx char
      state.curLine = some curLine) :
    Tracks done (past ++ [char]) { state with curLine, dataStore := 0, dataIdx := 0 } := by
  refine ⟨tracks.still, tracks.kept, tracks.valid_snoc valid, ?_, tracks.few, tracks.room, ?_, ?_⟩
  · rw [count_append, count_singleton, if_neg (by simpa using other)]
    exact tracks.place
  · intro columns current parts apart
    obtain ⟨before, whole, rfl⟩ := columnsOf_split other parts
    exact absurd ((tracks.sized whole).trans place) apart
  · intro columns current parts
    obtain ⟨before, whole, rfl⟩ := columnsOf_split other parts
    have seven := (tracks.sized whole).trans place
    have has := tracks.has columns before whole
    rw [marksOf_char]
    by_cases mark : char = blockMark
    · rw [if_pos ⟨seven, mark⟩]
      rw [mark, ← tracks.sized whole] at column
      exact has.mark seven column
    · rw [if_neg fun both => mark both.2, Nat.add_zero]
      rw [place] at column
      unfold storeColumn at column
      simp only [ateWriteType, if_neg mark, Option.some.injEq] at column
      rw [← column]
      exact has

/-- A character inside a line keeps the parser in step with it. -/
theorem Tracks.step (tracks : Tracks done past state) (inside : char ≠ carriageReturn)
    (stepped : parseStep garbage state char = .ok next) : Tracks done (past ++ [char]) next := by
  rcases parseStep_cases stepped with ⟨skips, -⟩ | ⟨-, valid, passed | digit | stored⟩
  · rw [tracks.still] at skips
    cases skips
  · obtain ⟨other, none, rfl⟩ := passed
    unfold Stored at other
    exact tracks.pass valid (by tauto) (by tauto) fun column gathered => gathered.pass none
  · obtain ⟨val, other, some, rfl⟩ := digit
    unfold Stored at other
    exact tracks.pass valid (by tauto) (by tauto) fun column gathered => gathered.digit some
  · obtain ⟨curLine, ended, few, room, column, isTab | isEnd | isMark⟩ := stored
    · obtain ⟨rfl, rfl⟩ := isTab
      exact tracks.push few room column
    · exact absurd isEnd.1 inside
    · obtain ⟨other, -, rfl⟩ := isMark
      unfold Stored at ended
      exact tracks.write valid other (by tauto) column

theorem Tracks.finish (tracks : Tracks done past state)
    (stepped : parseStep garbage state carriageReturn = .ok next) :
    (columnsOf past).length ≤ ateColMax ∧ ∃ record,
      next = nextLine garbage (done ++ [record]) true ∧ (Complete past → Matches past record) := by
  rcases parseStep_cases stepped with ⟨skips, -⟩ | ⟨-, -, passed | digit | stored⟩
  · rw [tracks.still] at skips
    cases skips
  · exact absurd (.inr (.inl rfl)) passed.1
  · obtain ⟨val, other, -⟩ := digit
    exact absurd (.inr (.inl rfl)) other
  · obtain ⟨curLine, -, few, -, column, isTab | isEnd | isMark⟩ := stored
    · cases isTab.1
    · refine ⟨?_, curLine, ?_, ?_⟩
      · rw [length_columnsOf, ← tracks.place]
        exact few
      · rw [isEnd.2.2, tracks.kept]
      · intro complete
        exact (tracks.stored (by decide) column).matches complete
    · exact absurd rfl isMark.2.1

/-- The parser rejects a character that is 0, and a column too many. -/
theorem Tracks.refuse (tracks : Tracks done past state)
    (stopped : parseStep garbage state char = .error .rejected) :
    char = 0 ∨ (char = tab ∨ char = carriageReturn) ∧ ateColMax < (columnsOf past).length := by
  rw [length_columnsOf, ← tracks.place]
  unfold parseStep at stopped
  rw [tracks.still] at stopped
  simp only [Bool.false_eq_true, if_false] at stopped
  split at stopped
  · rename_i zero
    exact .inl zero
  · split at stopped
    · split at stopped <;> exact absurd stopped (by simp)
    · split at stopped
      · rename_i many
        have apart : state.curEleIdx ≠ ateWriteType := by
          intro same
          rw [same] at many
          exact absurd many (by decide)
        exact .inr ⟨by tauto, Nat.lt_succ_of_le many⟩
      · split at stopped
        · simp at stopped
        · rename_i room
          split at stopped
          · simp at stopped
          · split at stopped
            · simp at stopped
            · split at stopped
              · split at stopped
                · rename_i full
                  -- the first column of a line behind the table would have been stored there
                  have many : maxCmdLine ≤ state.done.length := Nat.le_of_lt_succ full
                  rcases Nat.eq_zero_or_pos state.curEleIdx with first | later
                  · rw [first] at room
                    exact absurd ⟨many, rfl⟩ room
                  · have fits := tracks.room later
                    rw [tracks.kept] at many
                    omega
                · simp at stopped
              · simp at stopped

/-- Behind the characters of a line the parser is in step with all of it. -/
theorem tracks_of_run {line : List UInt8} (inside : carriageReturn ∉ line)
    (ran : line.foldlM (parseStep garbage) (nextLine garbage done false) = .ok state) :
    Tracks done line state := by
  have holds : carriageReturn ∉ line → Tracks done line state := by
    have kept : ∀ {past : List UInt8} {state : ParseState} {char : UInt8} {next : ParseState},
        (carriageReturn ∉ past → Tracks done past state) →
        parseStep garbage state char = .ok next →
        carriageReturn ∉ past ++ [char] → Tracks done (past ++ [char]) next := by
      intro past state char next before stepped apart
      rw [mem_append, mem_singleton, not_or] at apart
      exact (before apart.1).step (Ne.symm apart.2) stepped
    have initial : carriageReturn ∉ [] → Tracks done [] (nextLine garbage done false) :=
      fun _ => tracks_nil garbage done
    exact @foldlM_rule _ _ _ _ (fun past state => carriageReturn ∉ past → Tracks done past state)
      kept _ _ _ initial ran
  exact holds inside

theorem columns_le (past rest : List UInt8) :
    (columnsOf past).length ≤ (columnsOf (past ++ rest)).length := by
  rw [length_columnsOf, length_columnsOf, count_append]
  omega

theorem line_ok {line : List UInt8} (inside : carriageReturn ∉ line)
    (ran : (line ++ [carriageReturn]).foldlM (parseStep garbage) (nextLine garbage done false) =
      .ok next) :
    (0 ∉ line ∧ (columnsOf line).length ≤ ateColMax) ∧ ∃ record,
      next = nextLine garbage (done ++ [record]) true ∧ (Complete line → Matches line record) := by
  cases run : line.foldlM (parseStep garbage) (nextLine garbage done false) with
  | error stop =>
    rw [foldlM_append_error run] at ran
    cases ran
  | ok state =>
    rw [foldlM_append_ok run, foldlM_single] at ran
    have tracks := tracks_of_run inside run
    have finish := tracks.finish ran
    exact ⟨⟨tracks.valid, finish.1⟩, finish.2⟩

theorem line_rejected {line : List UInt8} (inside : carriageReturn ∉ line)
    (stopped : (line ++ [carriageReturn]).foldlM (parseStep garbage)
      (nextLine garbage done false) = .error .rejected) :
    0 ∈ line ∨ ateColMax < (columnsOf line).length := by
  obtain ⟨first, char, rest, state, parts, ran, refused⟩ := foldlM_eq_error_iff.mp stopped
  rcases eq_nil_or_concat rest with rfl | ⟨others, last, rfl⟩
  · have split := append_inj' parts rfl
    obtain rfl : line = first := split.1
    obtain rfl : carriageReturn = char := (List.cons.inj split.2).1
    rcases (tracks_of_run inside ran).refuse refused with zero | ⟨-, many⟩
    · cases zero
    · exact .inr many
  · have whole : line = first ++ char :: others := by
      rw [concat_eq_append, ← cons_append, ← append_assoc] at parts
      exact (append_inj' parts rfl).1
    subst whole
    have apart : carriageReturn ∉ first := fun listed => inside (mem_append_left _ listed)
    rcases (tracks_of_run apart ran).refuse refused with zero | ⟨-, many⟩
    · exact .inl (mem_append_right _ (zero ▸ mem_cons_self))
    · exact .inr (Nat.lt_of_lt_of_le many (columns_le _ _))

theorem leftover_ok {line : List UInt8} (inside : carriageReturn ∉ line)
    (ran : line.foldlM (parseStep garbage) (nextLine garbage done false) = .ok state) :
    (0 ∉ line ∧ (columnsOf line).length ≤ ateColMax + 1) ∧ state.done = done := by
  have tracks := tracks_of_run inside ran
  have few := tracks.few
  rw [tracks.place] at few
  rw [length_columnsOf]
  exact ⟨⟨tracks.valid, Nat.succ_le_succ few⟩, tracks.kept⟩

theorem leftover_rejected {line : List UInt8} (inside : carriageReturn ∉ line)
    (stopped : line.foldlM (parseStep garbage) (nextLine garbage done false) =
      .error .rejected) :
    0 ∈ line ∨ ateColMax + 1 < (columnsOf line).length := by
  obtain ⟨first, char, rest, state, rfl, ran, refused⟩ := foldlM_eq_error_iff.mp stopped
  have apart : carriageReturn ∉ first := fun listed => inside (mem_append_left _ listed)
  rcases (tracks_of_run apart ran).refuse refused with zero | ⟨isTab | isEnd, many⟩
  · exact .inl (mem_append_right _ (zero ▸ mem_cons_self))
  · subst isTab
    have more := columns_le (first ++ [tab]) rest
    rw [columnsOf_tab, length_append, length_singleton, append_assoc] at more
    exact .inr (by exact Nat.lt_of_lt_of_le (Nat.succ_lt_succ many) more)
  · subst isEnd
    exact absurd (mem_append_right _ mem_cons_self) inside

end Lines

/-! ## The text -/

section Text

variable {garbage : Nat → Mp2856Data} {done records : List Mp2856Data}
  {text line rest behind image : List UInt8}

/-- The records of a text that begins with a line, and those before. -/
def recordsFrom (garbage : Nat → Mp2856Data) (done : List Mp2856Data) (text : List UInt8) :
    Except ParseStop (List Mp2856Data) :=
  (text.foldlM (parseStep garbage) (nextLine garbage done false)).map (·.done)

theorem takeLine_some (taken : takeLine text = some (line, rest)) :
    carriageReturn ∉ line ∧ ∃ behind, text = line ++ carriageReturn :: behind ∧
      rest = behind.drop 1 := by
  unfold takeLine at taken
  split at taken
  · rename_i listed
    cases taken
    refine ⟨Lines.not_mem_front _ text, (text.dropWhile (· ≠ carriageReturn)).drop 1,
      (Lines.split_at listed).symm, ?_⟩
    rw [drop_drop]
  · cases taken

theorem takeLine_none (none : takeLine text = none) : carriageReturn ∉ text := by
  unfold takeLine at none
  split at none
  · cases none
  · assumption

theorem records_skip (done : List Mp2856Data) (behind : List UInt8) :
    (behind.foldlM (parseStep garbage) (nextLine garbage done true)).map (·.done) =
      recordsFrom garbage done (behind.drop 1) := by
  cases behind with
  | nil => rfl
  | cons char rest =>
    rfl

theorem records_line_error {stop : ParseStop}
    (stopped : (line ++ [carriageReturn]).foldlM (parseStep garbage)
      (nextLine garbage done false) = .error stop) (behind : List UInt8) :
    recordsFrom garbage done (line ++ carriageReturn :: behind) = .error stop := by
  have whole : line ++ carriageReturn :: behind = (line ++ [carriageReturn]) ++ behind := by
    rw [append_assoc]
    rfl
  rw [recordsFrom, whole, foldlM_append_error stopped]
  rfl

theorem records_line_ok {next : ParseState} {record : Mp2856Data}
    (ran : (line ++ [carriageReturn]).foldlM (parseStep garbage) (nextLine garbage done false) =
      .ok next) (same : next = nextLine garbage (done ++ [record]) true) (behind : List UInt8) :
    recordsFrom garbage done (line ++ carriageReturn :: behind) =
      recordsFrom garbage (done ++ [record]) (behind.drop 1) := by
  subst same
  rw [← records_skip, recordsFrom, ← foldlM_append_ok ran, append_assoc]
  rfl

/-- The records of a text that the parser goes through. -/
theorem records_ok {fuel : Nat} (enough : text.length < fuel)
    (ran : recordsFrom garbage done text = .ok records) :
    Takes (pieces takeLine fuel text).1 (pieces takeLine fuel text).2 ∧
      ∃ added, records = done ++ added ∧ List.Forall₂ (fun line record =>
        Complete line → Matches line record) (pieces takeLine fuel text).1 added := by
  induction fuel generalizing text done with
  | zero => exact absurd enough (Nat.not_lt_zero _)
  | succ fuel ih =>
    unfold pieces
    cases taken : takeLine text with
    | none =>
      obtain ⟨state, run, rfl⟩ := map_eq_ok_iff.mp ran
      have left := leftover_ok (takeLine_none taken) run
      refine ⟨⟨fun line listed => absurd listed (by simp), left.1⟩, [], ?_, .nil⟩
      rw [left.2, append_nil]
    | some found =>
      obtain ⟨inside, behind, parts, drops⟩ := takeLine_some taken
      have less : found.2.length < fuel := by
        rw [drops]
        rw [parts, length_append, length_cons] at enough
        rw [length_drop]
        omega
      rw [parts] at ran
      cases run : (found.1 ++ [carriageReturn]).foldlM (parseStep garbage)
          (nextLine garbage done false) with
      | error stop =>
        rw [records_line_error run] at ran
        cases ran
      | ok next =>
        obtain ⟨takes, record, same, has⟩ := line_ok inside run
        rw [records_line_ok run same, ← drops] at ran
        obtain ⟨later, added, rfl, all⟩ := ih less ran
        refine ⟨⟨?_, later.behind⟩, record :: added, ?_, .cons has all⟩
        · intro line listed
          rcases List.mem_cons.mp listed with rfl | listed
          · exact takes
          · exact later.lines line listed
        · rw [append_assoc]
          rfl

theorem records_rejected {fuel : Nat} (enough : text.length < fuel)
    (stopped : recordsFrom garbage done text = .error .rejected) :
    ¬ Takes (pieces takeLine fuel text).1 (pieces takeLine fuel text).2 := by
  induction fuel generalizing text done with
  | zero => exact absurd enough (Nat.not_lt_zero _)
  | succ fuel ih =>
    intro takes
    unfold pieces at takes
    cases taken : takeLine text with
    | none =>
      rw [taken] at takes
      rcases leftover_rejected (takeLine_none taken) (map_eq_error_iff.mp stopped) with zero | many
      · exact takes.behind.1 zero
      · exact Nat.not_le.mpr many takes.behind.2
    | some found =>
      rw [taken] at takes
      obtain ⟨inside, behind, parts, drops⟩ := takeLine_some taken
      have less : found.2.length < fuel := by
        rw [drops]
        rw [parts, length_append, length_cons] at enough
        rw [length_drop]
        omega
      have here := takes.lines found.1 mem_cons_self
      rw [parts] at stopped
      cases run : (found.1 ++ [carriageReturn]).foldlM (parseStep garbage)
          (nextLine garbage done false) with
      | error stop =>
        rw [records_line_error run] at stopped
        obtain rfl := Except.error.inj stopped
        rcases line_rejected inside run with zero | many
        · exact here.1 zero
        · exact Nat.not_le.mpr many here.2
      | ok next =>
        obtain ⟨-, record, same, -⟩ := line_ok inside run
        rw [records_line_ok run same, ← drops] at stopped
        have later : Takes (pieces takeLine fuel found.2).1 (pieces takeLine fuel found.2).2 :=
          ⟨fun line listed => takes.lines line (mem_cons_of_mem _ listed), takes.behind⟩
        exact ih less stopped later

/-- The loop goes through the text up to END. -/
theorem parseLoop_eq (state : ParseState) (text : List UInt8) :
    parseLoop garbage state text =
      (uptoEnd (state.curEleIdx == ateConfId) state.skip text).foldlM (parseStep garbage)
        state := by
  induction text generalizing state with
  | nil => rfl
  | cons char rest ih =>
    unfold parseLoop
    cases skips : state.skip with
    | true =>
      have stepped : parseStep garbage state char = .ok { state with skip := false } := by
        unfold parseStep
        rw [skips]
        rfl
      rw [stepped]
      unfold uptoEnd
      rw [foldlM_cons_ok stepped]
      exact ih _
    | false =>
      unfold uptoEnd
      simp only [Bool.not_false, Bool.true_and]
      split
      · rfl
      · cases stepped : parseStep garbage state char with
        | error stop => rw [foldlM_cons_error stepped]
        | ok next =>
          rw [foldlM_cons_ok stepped]
          dsimp only
          rw [ih next]
          have apart : tab ≠ carriageReturn := by decide
          have later : (next.curEleIdx == ateConfId) = (if char = tab then false
                else state.curEleIdx == ateConfId || char == carriageReturn) ∧
              next.skip = (char == carriageReturn) := by
            rcases parseStep_cases stepped with ⟨same, -⟩ | ⟨-, -, passed | digit | stored⟩
            · rw [skips] at same
              cases same
            · obtain ⟨other, -, rfl⟩ := passed
              simp only [Stored, not_or] at other
              simp [other.1, other.2.1, skips]
            · obtain ⟨val, other, -, rfl⟩ := digit
              simp only [Stored, not_or] at other
              simp [other.1, other.2.1, skips]
            · obtain ⟨curLine, -, -, -, -, isTab | isEnd | isMark⟩ := stored
              · obtain ⟨rfl, rfl⟩ := isTab
                simp [ateConfId, apart]
              · obtain ⟨rfl, -, rfl⟩ := isEnd
                simp [nextLine, apart.symm]
              · obtain ⟨noTab, noEnd, rfl⟩ := isMark
                simp [noTab, noEnd, skips]
          rw [later.1, later.2]

theorem parsingImage_eq (image : List UInt8) :
    parsingImage garbage true image = recordsFrom garbage [] (textOf image) := by
  rw [parsingImage, parseLoop_eq]
  rfl

theorem records_length (ran : recordsFrom garbage [] text = .ok records) :
    records.length ≤ maxCmdLine := by
  have kept : ∀ {state : ParseState} {char : UInt8} {next : ParseState},
      state.done.length ≤ maxCmdLine → parseStep garbage state char = .ok next →
        next.done.length ≤ maxCmdLine := by
    intro state char next before stepped
    rcases parseStep_cases stepped with ⟨-, rfl⟩ | ⟨-, -, passed | digit | stored⟩
    · exact before
    · rw [passed.2.2]
      exact before
    · obtain ⟨val, -, -, rfl⟩ := digit
      exact before
    · obtain ⟨curLine, -, -, -, -, isTab | isEnd | isMark⟩ := stored
      · rw [isTab.2]
        exact before
      · rw [isEnd.2.2, nextLine, length_append, length_singleton]
        exact isEnd.2.1
      · rw [isMark.2.2]
        exact before
  obtain ⟨state, run, rfl⟩ := map_eq_ok_iff.mp ran
  have initial : (nextLine garbage [] false).done.length ≤ maxCmdLine := Nat.zero_le _
  exact @foldlM_keeps _ _ _ _ (fun state => state.done.length ≤ maxCmdLine) kept _ _ _ initial run

theorem parsingImage_strays_iff : parsingImage garbage true image = .error .strays ↔
    ∃ state char, ComesTo garbage image state char ∧ Overflows state char := by
  rw [parsingImage_eq, recordsFrom, map_eq_error_iff, foldlM_eq_error_iff]
  constructor
  · rintro ⟨first, char, rest, state, parts, ran, strays⟩
    exact ⟨state, char, ⟨first, rest, parts, ran⟩, parseStep_strays_iff.mp strays⟩
  · rintro ⟨state, char, ⟨first, rest, parts, ran⟩, overflows⟩
    exact ⟨first, char, rest, state, parts, ran, parseStep_strays_iff.mpr overflows⟩

theorem matches_of_complete {lines : List (List UInt8)}
    (all : List.Forall₂ (fun line record => Complete line → Matches line record) lines records)
    (complete : ∀ line ∈ lines, Complete line) : List.Forall₂ Matches lines records := by
  induction all with
  | nil => exact .nil
  | cons here _ ih =>
    exact .cons (here (complete _ mem_cons_self))
      (ih fun line listed => complete line (mem_cons_of_mem _ listed))

theorem complete_of_matches {lines : List (List UInt8)}
    (all : List.Forall₂ Matches lines records) : ∀ line ∈ lines, Complete line := by
  induction all with
  | nil => simp
  | cons here _ ih =>
    intro line listed
    rcases List.mem_cons.mp listed with rfl | listed
    · exact here.complete
    · exact ih line listed

end Text

/-! ## Images that are parsed right -/

/-- Images of which the parser makes what it should. -/
theorem parsesRight_iff (garbage : Nat → Mp2856Data) (mallocOk : Bool) (image : List UInt8) :
    ParsesRight garbage mallocOk image ↔ (mallocOk = true →
      (∀ state char, ComesTo garbage image state char → ¬ Overflows state char) ∧
      (Takes (linesOf (textOf image)) (leftover (textOf image)) →
        Ended image ∧ ∀ line ∈ linesOf (textOf image), Complete line)) := by
  have enough : (textOf image).length < (textOf image).length + 1 := Nat.lt_succ_self _
  constructor
  · rintro right rfl
    have inside := right.inside
    rw [Ne, parsingImage_strays_iff] at inside
    refine ⟨fun state char comes overflows => inside ⟨state, char, comes, overflows⟩, ?_⟩
    intro takes
    cases ran : parsingImage garbage true image with
    | error stop =>
      cases stop with
      | strays => exact absurd ran right.inside
      | rejected =>
        rw [parsingImage_eq] at ran
        exact absurd takes (records_rejected enough ran)
    | ok records =>
      have found := right.records records ran
      refine ⟨found.1, fun line listed => ?_⟩
      exact complete_of_matches found.2 line listed
  · intro condition
    cases mallocOk with
    | false =>
      have rejected : parsingImage garbage false image = .error .rejected := rfl
      refine ⟨by rw [rejected]; simp, ?_, fun _ => rejected, fun _ _ _ => rejected⟩
      intro records ran
      cases ran
    | true =>
      obtain ⟨safe, complete⟩ := condition rfl
      have inside : parsingImage garbage true image ≠ .error .strays := by
        rw [Ne, parsingImage_strays_iff]
        rintro ⟨state, char, comes, overflows⟩
        exact safe state char comes overflows
      have found : ∀ records, parsingImage garbage true image = .ok records →
          (Ended image ∧ ∀ line ∈ linesOf (textOf image), Complete line) ∧
            List.Forall₂ Matches (linesOf (textOf image)) records := by
        intro records ran
        rw [parsingImage_eq] at ran
        obtain ⟨takes, added, rfl, all⟩ := records_ok enough ran
        have whole := complete takes
        exact ⟨whole, matches_of_complete all whole.2⟩
      have stops : (∀ records, parsingImage garbage true image ≠ .ok records) →
          parsingImage garbage true image = .error .rejected := by
        intro never
        cases ran : parsingImage garbage true image with
        | ok records => exact absurd ran (never records)
        | error stop =>
          cases stop with
          | strays => exact absurd ran inside
          | rejected => rfl
      refine ⟨inside, fun records ran => ⟨(found records ran).1.1, (found records ran).2⟩, ?_, ?_⟩
      · intro many
        apply stops
        intro records ran
        have same := (found records ran).2.length_eq
        rw [parsingImage_eq] at ran
        have few := records_length ran
        omega
      · intro line listed wide
        apply stops
        intro records ran
        have narrow := ((found records ran).1.2 line listed).narrow
        omega

/-- A block write of four bytes, whose length byte has no place before them. -/
theorem blockWrite_strays : ¬ ParsesRight (fun _ => ⟨0, 0, 0, [0, 0, 0, 0], 0⟩) true
    "1\t0\t10\t16\tR\t11223344\t0\tB\r\nEND".toUTF8.toList := by
  intro right
  exact right.inside (by decide +kernel)

end OpenBic.Mp2971
