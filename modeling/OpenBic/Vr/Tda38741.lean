import Mathlib.Logic.Function.Basic
import OpenBic.Library.Hex
import OpenBic.Library.Rounds
import OpenBic.Library.Splice
import OpenBic.Vr.Mp2971

/-!
# The image of a TDA38741

`parsing_image` of `tda38741.c`. It goes through the text of an image, passes what it does not know,
and has loops of its own for comments, for the configuration and for the rows of data.
-/

namespace OpenBic.Tda38741

open List Function Library.Rounds Library.Splice Vr

/-! ## The code -/

def cnfgByteNum : Nat := 4

def maxSectNum : Nat := 48

def sectColumnNum : Nat := 64

def checksumField : List UInt8 := "[Image 00] : ".toUTF8.toList

def imageCount : List UInt8 := "Image Count : ".toUTF8.toList

def cnfgTag : List UInt8 := "[CNFG]".toUTF8.toList

def dataEndTag : List UInt8 := "[End]".toUTF8.toList

def carriageReturn : UInt8 := 0x0D

def lineFeed : UInt8 := 0x0A

def tab : UInt8 := 0x09

def space : UInt8 := 0x20

def slash : UInt8 := 0x2F

def bracket : UInt8 := 0x5B

theorem tags_eq :
    checksumField = [0x5B, 0x49, 0x6D, 0x61, 0x67, 0x65, 0x20, 0x30, 0x30, 0x5D, 0x20, 0x3A, 0x20] ∧
      imageCount = [0x49, 0x6D, 0x61, 0x67, 0x65, 0x20, 0x43, 0x6F, 0x75, 0x6E, 0x74, 0x20, 0x3A, 0x20] ∧
      cnfgTag = [0x5B, 0x43, 0x4E, 0x46, 0x47, 0x5D] ∧
      dataEndTag = [0x5B, 0x45, 0x6E, 0x64, 0x5D] := by
  decide +kernel

theorem head_cnfgTag : cnfgTag.head? = some bracket := by
  rw [tags_eq.2.2.1]
  rfl

theorem head_checksumField : checksumField.head? = some bracket := by
  rw [tags_eq.1]
  rfl

theorem head_imageCount : imageCount.head? = some 0x49 := by
  rw [tags_eq.2.1]
  rfl

theorem length_cnfgTag : cnfgTag.length = 6 := by
  rw [tags_eq.2.2.1]
  rfl

theorem length_checksumField : checksumField.length = 13 := by
  rw [tags_eq.1]
  rfl

theorem length_imageCount : imageCount.length = 14 := by
  rw [tags_eq.2.1]
  rfl

theorem length_dataEndTag : dataEndTag.length = 5 := by
  rw [tags_eq.2.2.2]
  rfl

theorem tags_apart : checksumField.take cnfgTag.length ≠ cnfgTag ∧
    cnfgTag.take dataEndTag.length ≠ dataEndTag ∧
    checksumField.take dataEndTag.length ≠ dataEndTag := by
  rw [tags_eq.1, tags_eq.2.2.1, tags_eq.2.2.2]
  decide

def lastOffset : UInt16 := 0x0070

/-- `struct tda38640_config_sect`. -/
structure ConfigSect where
  offset : Nat → UInt16
  offsetCount : UInt8
  data : Nat → UInt8

/-- `struct tda38640_config`. -/
structure Config where
  checksum : UInt32
  cnfgData : Nat → UInt8
  sectCount : UInt8
  sections : Nat → ConfigSect

/-- The configuration that `tda38741_fwupdate` allocates. -/
def Config.cleared : Config := ⟨0, fun _ => 0, 0, fun _ => ⟨fun _ => 0, 0, fun _ => 0⟩⟩

/-- Why the parser stops. -/
inductive ParseStop where
  | strays
  | rejected

/-- The variables of the parser. -/
structure ParseState where
  config : Config
  sectCnt : Nat
  cnfgCnt : Nat
  offsetCnt : Nat
  dataCnt : Nat
  isData : Bool
  /-- The image from `i` on. -/
  text : List UInt8

def digit (char : UInt8) : Int :=
  match asciiToVal char with
  | some val => val
  | none => -1

def pair (high low : UInt8) : Int := digit high * 16 + digit low

def pairByte (chars : UInt8 × UInt8) : UInt8 := UInt8.ofInt (pair chars.1 chars.2)

def offsetOf (row : List UInt8) : UInt16 :=
  UInt16.ofInt (pair (row.getD 0 0) (row.getD 1 0) * 256) |||
    UInt16.ofInt (pair (row.getD 2 0) (row.getD 3 0))

def passComment : List UInt8 → Option (List UInt8)
  | [] => none
  | char :: rest => if char = lineFeed then some rest else passComment rest

/-- A loop that stores the bytes up to a carriage return in an array that has so many already. -/
def storeBytes (limit : Nat) (full : ParseStop) :
    Nat → List UInt8 → Except ParseStop (List UInt8 × List UInt8)
  | _, [] => .error .strays
  | count, [char] =>
    if char = carriageReturn then .ok ([], [char])
    else if char = space then .error .strays
    else if limit ≤ count then .error full
    else .error .strays
  | count, char :: low :: rest =>
    if char = carriageReturn then .ok ([], char :: low :: rest)
    else if char = space then storeBytes limit full count (low :: rest)
    else if limit ≤ count then .error full
    else (storeBytes limit full (count + 1) rest).map fun found =>
      (pairByte (char, low) :: found.1, found.2)

def passCount (state : ParseState) : Round ParseState (Except ParseStop Config) :=
  if state.text.take imageCount.length = imageCount then
    match state.text.drop imageCount.length with
    | [] => .ends (.error .strays)
    | count :: rest =>
      if UInt8.ofInt (digit count) ≠ 1 then .ends (.error .rejected)
      else
        match rest with
        | [] => .ends (.error .strays)
        | char :: _ =>
          if char ≠ carriageReturn then .ends (.error .rejected)
          else .next { state with config := { state.config with sectCount := 1 }, text := rest }
  else .next { state with text := state.text.drop 1 }

def passCnfg (state : ParseState) : Round ParseState (Except ParseStop Config) :=
  match storeBytes cnfgByteNum .strays state.cnfgCnt (state.text.drop (cnfgTag.length + 7)) with
  | .error stop => .ends (.error stop)
  | .ok (bytes, rest) => .next { state with
      config := { state.config with
        cnfgData := overwrite state.config.cnfgData state.cnfgCnt bytes.length (bytes.getD · 0) }
      cnfgCnt := state.cnfgCnt + bytes.length
      text := rest.drop 1 }

def passChecksum (state : ParseState) : Round ParseState (Except ParseStop Config) :=
  let field := state.text.drop (checksumField.length + 2)
  if field.length < 8 then .ends (.error .strays)
  else .next { state with
    config := { state.config with
      checksum := UInt32.ofInt (pair (field.getD 0 0) (field.getD 1 0) * 2 ^ 24) |||
        UInt32.ofInt (pair (field.getD 2 0) (field.getD 3 0) * 2 ^ 16) |||
        UInt32.ofInt (pair (field.getD 4 0) (field.getD 5 0) * 2 ^ 8) |||
        UInt32.ofInt (pair (field.getD 6 0) (field.getD 7 0)) }
    isData := true
    text := field.drop 8 }

def ConfigSect.store (sect : ConfigSect) (offset : UInt16) (bytes : List UInt8)
    (offsetCnt dataCnt : Nat) : ConfigSect where
  offset := update sect.offset offsetCnt offset
  offsetCount := if offset = lastOffset then UInt8.ofNat (offsetCnt + 1) else sect.offsetCount
  data := overwrite sect.data dataCnt bytes.length (bytes.getD · 0)

def passRow (state : ParseState) : Round ParseState (Except ParseStop Config) :=
  let offset := offsetOf state.text
  if state.text.length < 4 ∨ maxSectNum ≤ state.sectCnt ∨ sectColumnNum ≤ state.offsetCnt then
    .ends (.error .strays)
  else
    match storeBytes (sectColumnNum * 16) .rejected state.dataCnt (state.text.drop 4) with
    | .error stop => .ends (.error stop)
    | .ok (bytes, rest) => passCount { state with
        config := { state.config with
          sections := update state.config.sections state.sectCnt
            ((state.config.sections state.sectCnt).store offset bytes state.offsetCnt
              state.dataCnt) }
        sectCnt := if offset = lastOffset then state.sectCnt + 1 else state.sectCnt
        offsetCnt := state.offsetCnt + 1
        dataCnt := state.dataCnt + bytes.length
        isData := decide (offset ≠ lastOffset)
        text := rest }

/-- A round of the loop of `parsing_image`. -/
def parseRound (state : ParseState) : Round ParseState (Except ParseStop Config) :=
  match state.text with
  | [] => .ends (.ok state.config)
  | char :: rest =>
    if char = carriageReturn ∨ char = lineFeed ∨ char = tab then .next { state with text := rest }
    else if char = slash then
      match passComment (rest.drop 1) with
      | none => .ends (.error .strays)
      | some behind => .next { state with text := behind }
    else if char = bracket then
      if state.text.take dataEndTag.length = dataEndTag then .ends (.ok state.config)
      else if state.text.take cnfgTag.length = cnfgTag then passCnfg state
      else if state.text.take checksumField.length = checksumField then passChecksum state
      else .next { state with text := rest }
    else if state.isData then passRow state
    else passCount state

def parseStart (image : List UInt8) : ParseState := ⟨Config.cleared, 0, 0, 0, 0, false, image⟩

/-- `parsing_image`. Each character has a round at most. -/
def parsingImage (image : List UInt8) : Option (Except ParseStop Config) :=
  loop parseRound (image.length + 1) (parseStart image)

/-! ## What is claimed -/

/-- The pairs of characters up to a carriage return, spaces apart, and the text from there on, if
there is one. A last character without a partner is a pair, too. -/
def takePairs : List UInt8 → List (UInt8 × UInt8) × Option (List UInt8)
  | [] => ([], none)
  | [char] =>
    if char = carriageReturn then ([], some [char])
    else if char = space then ([], none)
    else ([(char, 0)], none)
  | char :: low :: rest =>
    if char = carriageReturn then ([], some (char :: low :: rest))
    else if char = space then takePairs (low :: rest)
    else ((char, low) :: (takePairs rest).1, (takePairs rest).2)

def behindPairs (text : List UInt8) : List UInt8 := ((takePairs text).2.getD []).drop 1

/-- The rows of data of a text, so many characters at most, each with all that is behind it. They
are between the checksum and the row with the last offset. -/
def scanRows : Nat → Bool → List UInt8 → List (List UInt8)
  | 0, _, _ => []
  | _ + 1, _, [] => []
  | fuel + 1, isData, char :: rest =>
    if char = carriageReturn ∨ char = lineFeed ∨ char = tab then scanRows fuel isData rest
    else if char = slash then
      scanRows fuel isData (((rest.drop 1).dropWhile (· ≠ lineFeed)).drop 1)
    else if char = bracket then
      if (char :: rest).take dataEndTag.length = dataEndTag then []
      else if (char :: rest).take cnfgTag.length = cnfgTag then
        scanRows fuel isData (behindPairs ((char :: rest).drop (cnfgTag.length + 7)))
      else if (char :: rest).take checksumField.length = checksumField then
        scanRows fuel true ((char :: rest).drop (checksumField.length + 2 + 8))
      else scanRows fuel isData rest
    else if isData then
      (char :: rest) :: scanRows fuel (decide (offsetOf (char :: rest) ≠ lastOffset))
        (behindPairs ((char :: rest).drop 4))
    else if (char :: rest).take imageCount.length = imageCount then
      scanRows fuel isData ((char :: rest).drop (imageCount.length + 1))
    else scanRows fuel isData rest

def rowsOf (image : List UInt8) : List (List UInt8) := scanRows (image.length + 1) false image

/-- What a row says. -/
structure Row where
  offset : Nat
  bytes : List UInt8

/-- What a row says in hexadecimal digits, when it has an offset and sixteen bytes. -/
def readRow (text : List UInt8) : Option Row :=
  match Library.Hex.decode (text.take 4),
    Library.Hex.decode ((takePairs (text.drop 4)).1.flatMap fun chars => [chars.1, chars.2]) with
  | some [high, low], some bytes =>
    if bytes.length = 16 then some ⟨high.toNat * 256 + low.toNat, bytes⟩ else none
  | _, _ => none

/-- The section has exactly the rows: it counts them, and each has its offset and its sixteen bytes
at its place. -/
structure Exact (rows : List (List UInt8)) (sect : ConfigSect) : Prop where
  count : sect.offsetCount.toNat = rows.length
  row : ∀ index text, rows[index]? = some text → ∃ row, readRow text = some row ∧
    (sect.offset index).toNat = row.offset ∧ cells (view sect.data (16 * index)) 16 = row.bytes

/-- The parser ends, stays in the image and in the arrays of the configuration, and its section has
exactly the rows of the image when it succeeds. -/
structure ParsesRight (image : List UInt8) : Prop where
  ends : (parsingImage image).isSome
  inside : parsingImage image ≠ some (.error .strays)
  rows : ∀ config, parsingImage image = some (.ok config) →
    Exact (rowsOf image) (config.sections 0)

/-- The parser comes to this state. -/
def ComesTo (image : List UInt8) (state : ParseState) : Prop :=
  Comes parseRound (parseStart image) state

/-- The parser is at a character that is no end of a line, no tabulator and no comment. -/
def AtField (state : ParseState) : Prop :=
  ∃ char rest, state.text = char :: rest ∧ char ≠ carriageReturn ∧ char ≠ lineFeed ∧ char ≠ tab ∧
    char ≠ slash

/-- The parser is at a tag. -/
abbrev AtTag (state : ParseState) (tag : List UInt8) : Prop :=
  state.text.take tag.length = tag

/-- It is at a row of data. -/
def AtRow (state : ParseState) : Prop :=
  AtField state ∧ state.text.head? ≠ some bracket ∧ state.isData = true

/-- It is at the number of images. -/
def AtCount (state : ParseState) : Prop :=
  AtField state ∧ state.isData = false ∧ AtTag state imageCount

/-- The parser is at something that is cut off by the end of the image, or for which an array has no
place. -/
inductive Overflows (state : ParseState) : Prop
  | comment (slashes : state.text.head? = some slash) (cut : lineFeed ∉ state.text.drop 2)
  | cnfg (tagged : AtTag state cnfgTag)
    (cut : (takePairs (state.text.drop 13)).2 = none ∨
      cnfgByteNum < state.cnfgCnt + (takePairs (state.text.drop 13)).1.length)
  | checksum (tagged : AtTag state checksumField) (cut : state.text.length < 23)
  | offset (row : AtRow state)
    (cut : state.text.length < 4 ∨ maxSectNum ≤ state.sectCnt ∨ sectColumnNum ≤ state.offsetCnt)
  | data (row : AtRow state) (cut : (takePairs (state.text.drop 4)).2 = none)
    (fits : state.dataCnt + (takePairs (state.text.drop 4)).1.length ≤ sectColumnNum * 16)
  | count (counted : AtCount state) (cut : state.text.length < 15)
  | ending (counted : AtCount state) (one : state.text[14]? = some 0x31)
    (cut : state.text.length < 16)

/-- The parser is at something that it rejects: too many data, or a number of images other than
1. -/
inductive Refuses (state : ParseState) : Prop
  | data (row : AtRow state)
    (many : sectColumnNum * 16 < state.dataCnt + (takePairs (state.text.drop 4)).1.length)
  | count (counted : AtCount state) (other : state.text[14]? ≠ some 0x31)
  | ending (counted : AtCount state) (more : state.text[15]? ≠ some carriageReturn)

/-- Rows that are read as they are: the code takes the digits for what they are, each has sixteen
bytes, and the last one, and no other, has the last offset. -/
structure Proper (rows : List (List UInt8)) : Prop where
  row : ∀ text ∈ rows, readRow text =
    some ⟨(offsetOf text).toNat, (takePairs (text.drop 4)).1.map pairByte⟩
  before : ∀ text ∈ rows.dropLast, offsetOf text ≠ lastOffset
  last : ∀ text, rows.getLast? = some text → offsetOf text = lastOffset

/-! ## Pairs -/

section Pairs

variable {limit count : Nat} {full : ParseStop} {text behind : List UInt8} {char : UInt8}

/-- What a loop stores are the pairs, as far as there is a place for them. -/
theorem storeBytes_eq (few : count ≤ limit) : storeBytes limit full count text =
    if limit < count + (takePairs text).1.length then .error full
    else
      match (takePairs text).2 with
      | none => .error .strays
      | some behind => .ok ((takePairs text).1.map pairByte, behind) := by
  induction text using takePairs.induct generalizing count with
  | case1 =>
    rw [takePairs, if_neg (by simpa using few)]
    rfl
  | case2 => 
    rw [takePairs, storeBytes, if_pos rfl, if_pos rfl, if_neg (by simpa using few)]
    rfl
  | case3 other =>
    rw [takePairs, storeBytes, if_neg other, if_pos rfl, if_neg other, if_pos rfl,
      if_neg (by simpa using few)]
  | case4 char other noSpace =>
    rw [takePairs, storeBytes, if_neg other, if_neg noSpace, if_neg other, if_neg noSpace]
    dsimp only [length_singleton]
    by_cases room : limit ≤ count
    · rw [if_pos room, if_pos (by omega)]
    · rw [if_neg room, if_neg (by omega)]
  | case5 low rest =>
    rw [takePairs, storeBytes, if_pos rfl, if_pos rfl, if_neg (by simpa using few)]
    rfl
  | case6 low rest other ih =>
    exact ih few
  | case7 char low rest other noSpace ih =>
    rw [takePairs, storeBytes, if_neg other, if_neg noSpace, if_neg other, if_neg noSpace]
    by_cases room : limit ≤ count
    · rw [if_pos room, if_pos (by rw [length_cons]; omega)]
    · rw [if_neg room, ih (by omega), length_cons,
        show count + ((takePairs rest).1.length + 1) = count + 1 + (takePairs rest).1.length by
          omega]
      split
      · rfl
      · cases (takePairs rest).2 <;> rfl

theorem takePairs_behind (closed : (takePairs text).2 = some behind) :
    ∃ rest, behind = carriageReturn :: rest ∧ behind.length ≤ text.length := by
  induction text using takePairs.induct with
  | case1 => cases closed
  | case2 =>
    cases closed
    exact ⟨[], rfl, le_rfl⟩
  | case3 other =>
    cases closed
  | case4 char other noSpace =>
    rw [takePairs, if_neg other, if_neg noSpace] at closed
    cases closed
  | case5 low rest =>
    cases closed
    exact ⟨low :: rest, rfl, le_rfl⟩
  | case6 low rest other ih =>
    obtain ⟨tail, same, less⟩ := ih closed
    exact ⟨tail, same, Nat.le_succ_of_le less⟩
  | case7 char low rest other noSpace ih =>
    rw [takePairs, if_neg other, if_neg noSpace] at closed
    obtain ⟨tail, same, less⟩ := ih closed
    exact ⟨tail, same, Nat.le_succ_of_le (Nat.le_succ_of_le less)⟩

theorem passComment_eq (text : List UInt8) : passComment text =
    if lineFeed ∈ text then some ((text.dropWhile (· ≠ lineFeed)).drop 1) else none := by
  induction text with
  | nil => rfl
  | cons char rest ih =>
    unfold passComment
    by_cases same : char = lineFeed
    · rw [if_pos same, if_pos (by rw [same]; exact mem_cons_self),
        dropWhile_cons_of_neg (by simpa using same)]
      rfl
    · rw [if_neg same, ih, dropWhile_cons_of_pos (by simpa using same)]
      simp only [mem_cons, Ne.symm same, false_or]

end Pairs

/-! ## A round -/

section Rounds

variable {state : ParseState} {char : UInt8} {rest : List UInt8}

/-- The numbers of bytes are within their arrays. -/
structure Bounded (state : ParseState) : Prop where
  cnfg : state.cnfgCnt ≤ cnfgByteNum
  data : state.dataCnt ≤ sectColumnNum * 16

/-- What the rows are told by is as it was. -/
structure Kept (state next : ParseState) : Prop where
  sections : next.config.sections = state.config.sections
  sectCnt : next.sectCnt = state.sectCnt
  offsetCnt : next.offsetCnt = state.offsetCnt
  dataCnt : next.dataCnt = state.dataCnt

def bytesOf (row : List UInt8) : List UInt8 := (takePairs (row.drop 4)).1.map pairByte

/-- A row is stored. -/
structure Stored (state next : ParseState) : Prop where
  sections : next.config.sections = update state.config.sections state.sectCnt
    ((state.config.sections state.sectCnt).store (offsetOf state.text) (bytesOf state.text)
      state.offsetCnt state.dataCnt)
  sectCnt : next.sectCnt =
    if offsetOf state.text = lastOffset then state.sectCnt + 1 else state.sectCnt
  offsetCnt : next.offsetCnt = state.offsetCnt + 1
  dataCnt : next.dataCnt = state.dataCnt + (bytesOf state.text).length
  room : state.offsetCnt < sectColumnNum

/-- All that a round can do. -/
inductive Does (state : ParseState) : Round ParseState (Except ParseStop Config) → Prop
  | ended (sound : ¬ Overflows state) (taken : ¬ Refuses state)
    (scanned : ∀ fuel, scanRows (fuel + 1) state.isData state.text = []) :
    Does state (.ends (.ok state.config))
  | strays (overflows : Overflows state) : Does state (.ends (.error .strays))
  | refused (sound : ¬ Overflows state) (refuses : Refuses state) :
    Does state (.ends (.error .rejected))
  | passed (next : ParseState) (sound : ¬ Overflows state) (taken : ¬ Refuses state)
    (less : next.text.length < state.text.length) (bounded : Bounded next)
    (scanned : ∀ fuel, scanRows (fuel + 1) state.isData state.text =
      scanRows fuel next.isData next.text)
    (kept : Kept state next) : Does state (.next next)
  | row (next : ParseState) (sound : ¬ Overflows state) (taken : ¬ Refuses state)
    (less : next.text.length < state.text.length) (bounded : Bounded next)
    (scanned : ∀ fuel, scanRows (fuel + 1) state.isData state.text =
      state.text :: scanRows fuel next.isData next.text)
    (stored : Stored state next) : Does state (.next next)

theorem AtTag.head {tag : List UInt8} (tagged : AtTag state tag) (first : tag.head? = some char) :
    state.text.head? = some char := by
  rw [← first, ← tagged, head?_take, if_neg]
  intro none
  rw [List.length_eq_zero_iff.mp none] at first
  cases first

theorem AtField.head (field : AtField state) : state.text.head? ≠ some slash := by
  obtain ⟨char, rest, whole, -, -, -, other⟩ := field
  rw [whole, head?_cons]
  exact fun same => other (Option.some.inj same)

theorem AtCount.head (counted : AtCount state) : state.text.head? ≠ some bracket := by
  rw [counted.2.2.head head_imageCount]
  decide

theorem Overflows.place (overflows : Overflows state) :
    state.text.head? = some slash ∨ state.text.head? = some bracket ∨
      AtField state ∧ state.text.head? ≠ some bracket := by
  cases overflows with
  | comment slashes => exact .inl slashes
  | cnfg tagged => exact .inr (.inl (tagged.head head_cnfgTag))
  | checksum tagged => exact .inr (.inl (tagged.head head_checksumField))
  | offset row => exact .inr (.inr ⟨row.1, row.2.1⟩)
  | data row => exact .inr (.inr ⟨row.1, row.2.1⟩)
  | count counted => exact .inr (.inr ⟨counted.1, counted.head⟩)
  | ending counted => exact .inr (.inr ⟨counted.1, counted.head⟩)

theorem Refuses.place (refuses : Refuses state) :
    AtField state ∧ state.text.head? ≠ some bracket := by
  cases refuses with
  | data row => exact ⟨row.1, row.2.1⟩
  | count counted => exact ⟨counted.1, counted.head⟩
  | ending counted => exact ⟨counted.1, counted.head⟩

theorem passed_blank (bounded : Bounded state) (whole : state.text = char :: rest)
    (blank : char = carriageReturn ∨ char = lineFeed ∨ char = tab) :
    Does state (.next { state with text := rest }) := by
  have noField : ¬ AtField state := by
    rintro ⟨other, behind, same, noReturn, noFeed, noTab, -⟩
    obtain ⟨rfl, -⟩ := List.cons.inj (whole.symm.trans same)
    tauto
  have noHead : ∀ mark, mark = slash ∨ mark = bracket → state.text.head? ≠ some mark := by
    rintro mark place same
    rw [whole, head?_cons] at same
    cases same
    rcases place with rfl | rfl <;> exact absurd blank (by decide)
  apply Does.passed
  · intro overflows
    rcases overflows.place with slashes | brackets | field
    · exact noHead _ (.inl rfl) slashes
    · exact noHead _ (.inr rfl) brackets
    · exact noField field.1
  · exact fun refuses => noField refuses.place.1
  · rw [whole, length_cons]
    exact Nat.lt_succ_self _
  · exact ⟨bounded.cnfg, bounded.data⟩
  · intro fuel
    rw [whole, scanRows, if_pos blank]
  · exact ⟨rfl, rfl, rfl, rfl⟩

theorem passComment_does (bounded : Bounded state) (whole : state.text = slash :: rest) :
    Does state (match passComment (rest.drop 1) with
      | none => .ends (.error .strays)
      | some behind => .next { state with text := behind }) := by
  have first : state.text.head? = some slash := by
    rw [whole]
    rfl
  have noField : ¬ AtField state := fun field => field.head first
  have behind : state.text.drop 2 = rest.drop 1 := by
    rw [whole]
    rfl
  rw [passComment_eq]
  by_cases closed : lineFeed ∈ rest.drop 1
  · rw [if_pos closed]
    apply Does.passed
    · intro overflows
      cases overflows with
      | comment _ cut =>
        rw [behind] at cut
        exact cut closed
      | cnfg tagged =>
        rw [tagged.head head_cnfgTag] at first
        cases first
      | checksum tagged =>
        rw [tagged.head head_checksumField] at first
        cases first
      | offset row => exact noField row.1
      | data row => exact noField row.1
      | count counted => exact noField counted.1
      | ending counted => exact noField counted.1
    · exact fun refuses => noField refuses.place.1
    · have less := (dropWhile_suffix (· ≠ lineFeed) (l := rest.drop 1)).length_le
      rw [length_drop] at less
      rw [whole, length_cons, length_drop]
      omega
    · exact ⟨bounded.cnfg, bounded.data⟩
    · intro fuel
      rw [whole, scanRows, if_neg (by decide), if_pos rfl]
    · exact ⟨rfl, rfl, rfl, rfl⟩
  · rw [if_neg closed]
    apply Does.strays
    apply Overflows.comment first
    rw [behind]
    exact closed

theorem sound_bracket (first : state.text.head? = some bracket)
    (cnfg : AtTag state cnfgTag → ¬ ((takePairs (state.text.drop 13)).2 = none ∨
      cnfgByteNum < state.cnfgCnt + (takePairs (state.text.drop 13)).1.length))
    (checksum : AtTag state checksumField → ¬ state.text.length < 23) :
    ¬ Overflows state ∧ ¬ Refuses state := by
  constructor
  · intro overflows
    cases overflows with
    | comment slashes =>
      rw [slashes] at first
      cases first
    | cnfg tagged cut => exact cnfg tagged cut
    | checksum tagged cut => exact checksum tagged cut
    | offset row => exact row.2.1 first
    | data row => exact row.2.1 first
    | count counted => exact counted.head first
    | ending counted => exact counted.head first
  · exact fun refuses => refuses.place.2 first

theorem scanRows_bracket (whole : state.text = bracket :: rest) (fuel : Nat) :
    scanRows (fuel + 1) state.isData state.text =
      if AtTag state dataEndTag then []
      else if AtTag state cnfgTag then
        scanRows fuel state.isData (behindPairs (state.text.drop (cnfgTag.length + 7)))
      else if AtTag state checksumField then
        scanRows fuel true (state.text.drop (checksumField.length + 2 + 8))
      else scanRows fuel state.isData rest := by
  unfold AtTag
  rw [whole, scanRows, if_neg (by decide), if_neg (by decide), if_pos rfl]

theorem AtTag.begins {tag other : List UInt8} (tagged : AtTag state tag) (also : AtTag state other)
    (longer : other.length ≤ tag.length) : tag.take other.length = other := by
  have shared : (state.text.take tag.length).take other.length = other := by
    rw [take_take, Nat.min_eq_left longer]
    exact also
  rwa [show state.text.take tag.length = tag from tagged] at shared

theorem tags_differ (tagged : AtTag state cnfgTag) : ¬ AtTag state checksumField := by
  intro other
  have longer : cnfgTag.length ≤ checksumField.length := by
    rw [length_cnfgTag, length_checksumField]
    decide
  exact tags_apart.1 (other.begins tagged longer)

theorem passCnfg_does (bounded : Bounded state) (whole : state.text = bracket :: rest)
    (noEnd : ¬ AtTag state dataEndTag) (tagged : AtTag state cnfgTag) :
    Does state (passCnfg state) := by
  have first : state.text.head? = some bracket := by
    rw [whole]
    rfl
  have place : cnfgTag.length + 7 = 13 := by rw [length_cnfgTag]
  unfold passCnfg
  rw [place, storeBytes_eq bounded.cnfg]
  by_cases many : cnfgByteNum < state.cnfgCnt + (takePairs (state.text.drop 13)).1.length
  · rw [if_pos many]
    exact .strays (.cnfg tagged (.inr many))
  · rw [if_neg many]
    cases closed : (takePairs (state.text.drop 13)).2 with
    | none => exact .strays (.cnfg tagged (.inl closed))
    | some behind =>
      have sound := sound_bracket first
        (fun _ cut => cut.elim (fun none => by simp [closed] at none) many)
        (fun other => absurd other (tags_differ tagged))
      obtain ⟨tail, -, less⟩ := takePairs_behind closed
      refine .passed _ sound.1 sound.2 ?_ ⟨?_, bounded.data⟩ ?_ ⟨rfl, rfl, rfl, rfl⟩
      · rw [length_drop] at less ⊢
        rw [whole, length_cons] at less ⊢
        omega
      · rw [length_map]
        exact Nat.le_of_not_lt many
      · intro fuel
        rw [scanRows_bracket whole, if_neg noEnd, if_pos tagged, place, behindPairs, closed]
        rfl

theorem passChecksum_does (bounded : Bounded state) (whole : state.text = bracket :: rest)
    (noEnd : ¬ AtTag state dataEndTag) (noCnfg : ¬ AtTag state cnfgTag)
    (tagged : AtTag state checksumField) : Does state (passChecksum state) := by
  have first : state.text.head? = some bracket := by
    rw [whole]
    rfl
  have place : checksumField.length + 2 = 15 := by rw [length_checksumField]
  unfold passChecksum
  rw [place]
  have sized : (state.text.drop 15).length = state.text.length - 15 := length_drop
  by_cases short : (state.text.drop 15).length < 8
  · rw [if_pos short]
    exact .strays (.checksum tagged (by omega))
  · rw [if_neg short]
    have sound := sound_bracket first (fun other => absurd other noCnfg) (fun _ => by omega)
    refine .passed _ sound.1 sound.2 ?_ ⟨bounded.cnfg, bounded.data⟩ ?_ ⟨rfl, rfl, rfl, rfl⟩
    · rw [length_drop]
      omega
    · intro fuel
      rw [scanRows_bracket whole, if_neg noEnd, if_neg noCnfg, if_pos tagged, place,
        drop_drop]

theorem passEnd_does (whole : state.text = bracket :: rest) (ends : AtTag state dataEndTag) :
    Does state (.ends (.ok state.config)) := by
  have first : state.text.head? = some bracket := by
    rw [whole]
    rfl
  have others : ¬ AtTag state cnfgTag ∧ ¬ AtTag state checksumField := by
    constructor
    · intro other
      apply tags_apart.2.1
      apply other.begins ends
      rw [length_cnfgTag, length_dataEndTag]
      decide
    · intro other
      apply tags_apart.2.2
      apply other.begins ends
      rw [length_checksumField, length_dataEndTag]
      decide
  have sound := sound_bracket first (fun other => absurd other others.1)
    (fun other => absurd other others.2)
  apply Does.ended sound.1 sound.2
  intro fuel
  rw [scanRows_bracket whole, if_pos ends]

theorem passBracket_does (bounded : Bounded state) (whole : state.text = bracket :: rest)
    (noEnd : ¬ AtTag state dataEndTag) (noCnfg : ¬ AtTag state cnfgTag)
    (noChecksum : ¬ AtTag state checksumField) :
    Does state (.next { state with text := rest }) := by
  have first : state.text.head? = some bracket := by
    rw [whole]
    rfl
  have sound := sound_bracket first (fun other => absurd other noCnfg)
    (fun other => absurd other noChecksum)
  refine .passed _ sound.1 sound.2 ?_ ⟨bounded.cnfg, bounded.data⟩ ?_ ⟨rfl, rfl, rfl, rfl⟩
  · rw [whole]
    exact Nat.lt_succ_self _
  · intro fuel
    rw [scanRows_bracket whole, if_neg noEnd, if_neg noCnfg, if_neg noChecksum]

theorem sound_field (field : AtField state) (first : state.text.head? ≠ some bracket)
    (row : state.isData = true → ¬ (state.text.length < 4 ∨ maxSectNum ≤ state.sectCnt ∨
      sectColumnNum ≤ state.offsetCnt) ∧ ((takePairs (state.text.drop 4)).2 = none →
        ¬ state.dataCnt + (takePairs (state.text.drop 4)).1.length ≤ sectColumnNum * 16))
    (count : AtCount state → ¬ state.text.length < 15 ∧
      (state.text[14]? = some 0x31 → ¬ state.text.length < 16)) : ¬ Overflows state := by
  intro overflows
  cases overflows with
  | comment slashes => exact field.head slashes
  | cnfg tagged => exact first (tagged.head head_cnfgTag)
  | checksum tagged => exact first (tagged.head head_checksumField)
  | offset atRow cut => exact (row atRow.2.2).1 cut
  | data atRow cut fits => exact (row atRow.2.2).2 cut fits
  | count counted cut => exact (count counted).1 cut
  | ending counted one cut => exact (count counted).2 one cut

theorem scanRows_field (field : AtField state) (first : state.text.head? ≠ some bracket)
    (fuel : Nat) :
    scanRows (fuel + 1) state.isData state.text =
      if state.isData then
        state.text :: scanRows fuel (decide (offsetOf state.text ≠ lastOffset))
          (behindPairs (state.text.drop 4))
      else if AtTag state imageCount then
        scanRows fuel state.isData (state.text.drop (imageCount.length + 1))
      else scanRows fuel state.isData (state.text.drop 1) := by
  obtain ⟨char, rest, whole, noReturn, noFeed, noTab, noSlash⟩ := field
  rw [whole] at first
  have noBracket : char ≠ bracket := fun same => first (congrArg some same)
  have blank : ¬ (char = carriageReturn ∨ char = lineFeed ∨ char = tab) := by
    tauto
  unfold AtTag
  rw [whole, scanRows, if_neg blank, if_neg noSlash, if_neg noBracket]
  rfl

theorem passCount_end (whole : state.text = carriageReturn :: rest) :
    passCount state = .next { state with text := rest } := by
  unfold passCount
  rw [if_neg, whole]
  · rfl
  · intro tagged
    have first : state.text.head? = some 0x49 := AtTag.head tagged head_imageCount
    rw [whole] at first
    exact absurd (Option.some.inj first) (by decide)

theorem passRow_does (bounded : Bounded state) (row : AtRow state) :
    Does state (passRow state) := by
  have noCount : ∀ {holds : Prop}, AtCount state → holds := by
    intro holds counted
    have both := row.2.2.symm.trans counted.2.1
    cases both
  unfold passRow
  by_cases cut : state.text.length < 4 ∨ maxSectNum ≤ state.sectCnt ∨
      sectColumnNum ≤ state.offsetCnt
  · rw [if_pos cut]
    exact .strays (.offset row cut)
  · rw [if_neg cut, storeBytes_eq bounded.data]
    by_cases many : sectColumnNum * 16 <
        state.dataCnt + (takePairs (state.text.drop 4)).1.length
    · rw [if_pos many]
      apply Does.refused
      · apply sound_field row.1 row.2.1
        · exact fun _ => ⟨cut, fun _ => Nat.not_le.mpr many⟩
        · exact noCount
      · exact .data row many
    · rw [if_neg many]
      cases closed : (takePairs (state.text.drop 4)).2 with
      | none => exact .strays (.data row closed (Nat.le_of_not_lt many))
      | some behind =>
        obtain ⟨tail, rfl, less⟩ := takePairs_behind closed
        dsimp only
        rw [passCount_end rfl]
        apply Does.row
        · apply sound_field row.1 row.2.1
          · exact fun _ => ⟨cut, fun none => absurd (closed.symm.trans none) (by simp)⟩
          · exact noCount
        · intro refuses
          cases refuses with
          | data _ more => exact many more
          | count counted => exact noCount counted
          | ending counted => exact noCount counted
        · rw [length_drop, length_cons] at less
          dsimp only
          omega
        · refine ⟨bounded.cnfg, ?_⟩
          rw [length_map]
          exact Nat.le_of_not_lt many
        · intro fuel
          rw [scanRows_field row.1 row.2.1, if_pos row.2.2, behindPairs, closed]
          rfl
        · exact ⟨rfl, rfl, rfl, rfl, by omega⟩

theorem count_eq_one_iff {char : UInt8} : UInt8.ofInt (digit char) = 1 ↔ char = 0x31 := by
  have table : ∀ code < 256, UInt8.ofInt (digit (UInt8.ofNat code)) = 1 ↔
      UInt8.ofNat code = 0x31 := by decide +kernel
  have entry := table char.toNat char.toNat_lt
  rwa [UInt8.ofNat_toNat] at entry

theorem passCount_does (bounded : Bounded state) (field : AtField state)
    (first : state.text.head? ≠ some bracket) (noData : state.isData = false) :
    Does state (passCount state) := by
  have noRow : ∀ {holds : Prop}, state.isData = true → holds := by
    intro holds data
    exact absurd (data.symm.trans noData) (by decide)
  have place : imageCount.length = 14 := length_imageCount
  unfold passCount
  by_cases tagged : AtTag state imageCount
  · have counted : AtCount state := ⟨field, noData, tagged⟩
    rw [if_pos tagged, place]
    cases behind : state.text.drop 14 with
    | nil =>
      have short := List.drop_eq_nil_iff.mp behind
      exact .strays (.count counted (by omega))
    | cons count tail =>
      have here : state.text[14]? = some count := by
        rw [← head?_drop, behind]
        rfl
      have sized := congrArg List.length behind
      rw [length_drop, length_cons] at sized
      dsimp only
      by_cases one : UInt8.ofInt (digit count) = 1
      · have isOne := count_eq_one_iff.mp one
        subst isOne
        cases tail with
        | nil => exact .strays (.ending counted here (by rw [length_nil] at sized; omega))
        | cons mark tail =>
          have later : state.text[15]? = some mark := by
            have dropped : state.text.drop 15 = mark :: tail := by
              rw [← drop_drop (i := 1) (j := 14), behind]
              rfl
            rw [← head?_drop, dropped]
            rfl
          have sound : ¬ Overflows state := by
            apply sound_field field first noRow
            intro _
            rw [length_cons] at sized
            exact ⟨by omega, fun _ => by omega⟩
          dsimp only
          by_cases ends : mark = carriageReturn
          · rw [if_neg (not_not.mpr ends)]
            apply Does.passed _ sound
            · intro refuses
              cases refuses with
              | data row => exact noRow row.2.2
              | count _ other => exact other here
              | ending _ more => exact more (by rw [later, ends])
            · dsimp only
              omega
            · exact ⟨bounded.cnfg, bounded.data⟩
            · intro fuel
              rw [scanRows_field field first, if_neg (by simp [noData]), if_pos tagged, place,
                ← drop_drop (i := 1) (j := 14), behind]
              rfl
            · exact ⟨rfl, rfl, rfl, rfl⟩
          · rw [if_pos ends]
            apply Does.refused sound
            apply Refuses.ending counted
            rw [later]
            exact fun same => ends (Option.some.inj same)
      · rw [if_pos one]
        apply Does.refused
        · apply sound_field field first noRow
          intro _
          refine ⟨by omega, fun isOne => ?_⟩
          rw [here] at isOne
          exact absurd (count_eq_one_iff.mpr (Option.some.inj isOne)) one
        · apply Refuses.count counted
          rw [here]
          exact fun same => one (count_eq_one_iff.mpr (Option.some.inj same))
  · rw [if_neg tagged]
    have noCount : ∀ {holds : Prop}, AtCount state → holds := by
      intro holds counted
      exact absurd counted.2.2 tagged
    apply Does.passed
    · exact sound_field field first noRow noCount
    · intro refuses
      cases refuses with
      | data row => exact noRow row.2.2
      | count counted => exact noCount counted
      | ending counted => exact noCount counted
    · obtain ⟨char, rest, whole, -⟩ := field
      rw [whole]
      exact Nat.lt_succ_self _
    · exact ⟨bounded.cnfg, bounded.data⟩
    · intro fuel
      rw [scanRows_field field first, if_neg (by simp [noData]), if_neg tagged]
    · exact ⟨rfl, rfl, rfl, rfl⟩

theorem parseRound_does (bounded : Bounded state) : Does state (parseRound state) := by
  unfold parseRound
  cases whole : state.text with
  | nil =>
    have noHead : ∀ mark, state.text.head? ≠ some mark := by
      rw [whole]
      simp
    have noField : ¬ AtField state := by
      rintro ⟨char, rest, same, -⟩
      exact absurd (whole.symm.trans same) (by simp)
    apply Does.ended
    · intro overflows
      rcases overflows.place with slashes | brackets | field
      · exact noHead _ slashes
      · exact noHead _ brackets
      · exact noField field.1
    · exact fun refuses => noField refuses.place.1
    · intro fuel
      rw [whole]
      rfl
  | cons char rest =>
    dsimp only
    by_cases blank : char = carriageReturn ∨ char = lineFeed ∨ char = tab
    · rw [if_pos blank]
      exact passed_blank bounded whole blank
    · rw [if_neg blank]
      by_cases slashes : char = slash
      · rw [if_pos slashes]
        exact passComment_does bounded (slashes ▸ whole)
      · rw [if_neg slashes]
        by_cases brackets : char = bracket
        · subst brackets
          rw [← whole]
          by_cases ends : AtTag state dataEndTag
          · rw [if_pos ends]
            exact passEnd_does whole ends
          · rw [if_neg ends]
            by_cases cnfg : AtTag state cnfgTag
            · rw [if_pos cnfg]
              exact passCnfg_does bounded whole ends cnfg
            · rw [if_neg cnfg]
              by_cases checksum : AtTag state checksumField
              · rw [if_pos checksum]
                exact passChecksum_does bounded whole ends cnfg checksum
              · rw [if_neg checksum]
                exact passBracket_does bounded whole ends cnfg checksum
        · rw [if_neg brackets]
          have field : AtField state := ⟨char, rest, whole, by tauto, by tauto, by tauto, slashes⟩
          have first : state.text.head? ≠ some bracket := by
            rw [whole]
            exact fun same => brackets (Option.some.inj same)
          cases data : state.isData with
          | true => exact passRow_does bounded ⟨field, first, data⟩
          | false => exact passCount_does bounded field first data

end Rounds

/-! ## The rows -/

section Rows

variable {past rows : List (List UInt8)} {text : List UInt8} {sect : ConfigSect}

def firstPart : List (List UInt8) → List (List UInt8)
  | [] => []
  | row :: rest => if offsetOf row = lastOffset then [row] else row :: firstPart rest

/-- No row is the last one. -/
def Open (rows : List (List UInt8)) : Prop := ∀ row ∈ rows, offsetOf row ≠ lastOffset

theorem prefix_firstPart (rows : List (List UInt8)) : firstPart rows <+: rows := by
  induction rows with
  | nil => exact prefix_rfl
  | cons row rest ih =>
    unfold firstPart
    split
    · exact ⟨rest, rfl⟩
    · exact (prefix_cons_inj row).mpr ih

theorem firstPart_eq_self_iff :
    firstPart rows = rows ↔ ∀ row ∈ rows.dropLast, offsetOf row ≠ lastOffset := by
  induction rows with
  | nil => simp [firstPart]
  | cons row rest ih =>
    cases rest with
    | nil => simp [firstPart]
    | cons next rest =>
      rw [dropLast_cons_cons, forall_mem_cons, ← ih, firstPart]
      split
      · rename_i last
        simp [last]
      · rename_i other
        simp [other]

theorem firstPart_of_open (none : Open rows) : firstPart rows = rows :=
  firstPart_eq_self_iff.mpr fun row listed => none row (dropLast_subset _ listed)

theorem firstPart_append (text : List UInt8) (closed : ¬ Open past) :
    firstPart (past ++ [text]) = firstPart past := by
  induction past with
  | nil => exact absurd (by simp [Open]) closed
  | cons row rest ih =>
    rw [cons_append]
    unfold firstPart
    split
    · rfl
    · rename_i other
      rw [ih]
      intro later
      apply closed
      intro row listed
      rcases List.mem_cons.mp listed with rfl | listed
      · exact other
      · exact later row listed

/-- A section has the rows up to the first one with the last offset, and counts them there. -/
structure Stores (rows : List (List UInt8)) (sect : ConfigSect) : Prop where
  offsets : cells sect.offset (firstPart rows).length = (firstPart rows).map offsetOf
  bytes : cells sect.data ((firstPart rows).flatMap bytesOf).length =
    (firstPart rows).flatMap bytesOf
  open_count : Open rows → sect.offsetCount = 0
  count : ¬ Open rows → sect.offsetCount = UInt8.ofNat (firstPart rows).length

theorem length_flatMap_wide {width : Nat} {read : List UInt8 → List UInt8}
    (wide : ∀ row ∈ rows, (read row).length = width) :
    (rows.flatMap read).length = width * rows.length := by
  induction rows with
  | nil => rfl
  | cons row rest ih =>
    rw [flatMap_cons, length_append, wide row mem_cons_self,
      ih fun other listed => wide other (mem_cons_of_mem _ listed), length_cons,
      Nat.mul_succ, Nat.add_comm]

theorem flatMap_slice {width : Nat} {read : List UInt8 → List UInt8}
    (wide : ∀ row ∈ rows, (read row).length = width) {index : Nat}
    (here : rows[index]? = some text) :
    ((rows.flatMap read).drop (width * index)).take width = read text := by
  induction rows generalizing index with
  | nil => cases here
  | cons row rest ih =>
    have first := wide row mem_cons_self
    rw [flatMap_cons]
    cases index with
    | zero =>
      obtain rfl : row = text := Option.some.inj here
      rw [Nat.mul_zero, drop_zero, take_left' first]
    | succ index =>
      have place : width * (index + 1) = (read row).length + width * index := by
        rw [first, Nat.mul_succ, Nat.add_comm]
      rw [place, ← drop_drop, drop_left' rfl]
      exact ih (fun other listed => wide other (mem_cons_of_mem _ listed)) here

theorem length_bytesOf {row : Row} (read : readRow text = some row) :
    (bytesOf text).length = 16 := by
  unfold readRow at read
  split at read
  · rename_i high low bytes offset data
    split at read
    · have total := Library.Hex.length_decode data
      simp at total
      rw [bytesOf, length_map]
      omega
    · cases read
  · cases read

theorem Stores.whole (stores : Stores rows sect) (few : rows.length ≤ sectColumnNum)
    (counted : sect.offsetCount.toNat = rows.length) : rows = [] ∨ firstPart rows = rows := by
  by_cases none : Open rows
  · rw [stores.open_count none] at counted
    exact .inl (List.length_eq_zero_iff.mp counted.symm)
  · have limit : rows.length ≤ 64 := few
    have less := (prefix_firstPart rows).length_le
    rw [stores.count none, UInt8.toNat_ofNat', Nat.mod_eq_of_lt (by omega)] at counted
    exact .inr ((prefix_firstPart rows).eq_of_length counted)

theorem Stores.row (stores : Stores rows sect) (all : firstPart rows = rows)
    (wide : ∀ row ∈ rows, (bytesOf row).length = 16) {index : Nat}
    (here : rows[index]? = some text) :
    sect.offset index = offsetOf text ∧
      cells (view sect.data (16 * index)) 16 = bytesOf text := by
  have offsets := stores.offsets
  have bytes := stores.bytes
  rw [all] at offsets bytes
  obtain ⟨inside, same⟩ := List.getElem?_eq_some_iff.mp here
  constructor
  · have entry : (cells sect.offset rows.length)[index]? = (rows.map offsetOf)[index]? := by
      rw [offsets]
    rw [getElem?_map, here, cells, getElem?_map, getElem?_range inside] at entry
    exact Option.some.inj entry
  · have total := length_flatMap_wide wide
    have within : 16 * index + 16 ≤ (rows.flatMap bytesOf).length := by omega
    rw [cells_view _ within, bytes, flatMap_slice wide here]

/-- A section is exact for the rows that are proper. -/
theorem Stores.exact_iff (stores : Stores rows sect) (few : rows.length ≤ sectColumnNum) :
    Exact rows sect ↔ Proper rows := by
  constructor
  · intro exact'
    rcases stores.whole few exact'.count with rfl | all
    · exact ⟨by simp, by simp, by simp⟩
    · have before := firstPart_eq_self_iff.mp all
      have wide : ∀ row ∈ rows, (bytesOf row).length = 16 := by
        intro row listed
        obtain ⟨index, here⟩ := mem_iff_getElem?.mp listed
        obtain ⟨found, read, -⟩ := exact'.row index row here
        exact length_bytesOf read
      refine ⟨?_, before, ?_⟩
      · intro text listed
        obtain ⟨index, here⟩ := mem_iff_getElem?.mp listed
        obtain ⟨row, read, offset, bytes⟩ := exact'.row index text here
        have stored := stores.row all wide here
        rw [stored.1] at offset
        rw [stored.2] at bytes
        obtain ⟨rowOffset, rowBytes⟩ := row
        obtain rfl : (offsetOf text).toNat = rowOffset := offset
        obtain rfl : bytesOf text = rowBytes := bytes
        exact read
      · intro text final
        have some : rows ≠ [] := by
          rintro rfl
          cases final
        have closed : ¬ Open rows := by
          intro none
          have counted := exact'.count
          rw [stores.open_count none] at counted
          exact some (List.length_eq_zero_iff.mp counted.symm)
        simp only [Open, not_forall, not_not] at closed
        obtain ⟨row, listed, last⟩ := closed
        rw [← dropLast_append_getLast some, mem_append, mem_singleton] at listed
        rw [getLast?_eq_some_getLast some] at final
        rcases listed with early | rfl
        · exact absurd last (before row early)
        · rw [← Option.some.inj final]
          exact last
  · intro proper
    have all : firstPart rows = rows := firstPart_eq_self_iff.mpr proper.before
    have wide : ∀ row ∈ rows, (bytesOf row).length = 16 :=
      fun row listed => length_bytesOf (proper.row row listed)
    constructor
    · cases filled : rows.getLast? with
      | none =>
        obtain rfl := List.getLast?_eq_none_iff.mp filled
        rw [stores.open_count (by simp [Open])]
        rfl
      | some text =>
        have closed : ¬ Open rows :=
          fun none => none text (mem_of_getLast? filled) (proper.last text filled)
        have limit : rows.length ≤ 64 := few
        rw [stores.count closed, all, UInt8.toNat_ofNat', Nat.mod_eq_of_lt (by omega)]
    · intro index text here
      have stored := stores.row all wide here
      have read := proper.row text (mem_of_getElem? here)
      exact ⟨_, read, congrArg UInt16.toNat stored.1, stored.2⟩

end Rows

/-! ## Runs -/

section Runs

variable {past : List (List UInt8)} {state next : ParseState} {image : List UInt8}

/-- What the parser has of the rows that it went through. -/
structure Tracks (past : List (List UInt8)) (state : ParseState) : Prop where
  bounded : Bounded state
  offsetCnt : state.offsetCnt = past.length
  few : past.length ≤ sectColumnNum
  dataCnt : state.dataCnt = (past.flatMap bytesOf).length
  sectCnt : state.sectCnt = 0 ↔ Open past
  stores : Stores past (state.config.sections 0)

theorem tracks_start (image : List UInt8) : Tracks [] (parseStart image) := by
  refine ⟨⟨Nat.zero_le _, Nat.zero_le _⟩, rfl, Nat.zero_le _, rfl, ?_, rfl, rfl, fun _ => rfl, ?_⟩
  · simp [parseStart, Open]
  · intro closed
    exact absurd (by simp [Open]) closed

theorem Tracks.pass (tracks : Tracks past state) (bounded : Bounded next)
    (kept : Kept state next) : Tracks past next := by
  refine ⟨bounded, kept.offsetCnt.trans tracks.offsetCnt, tracks.few,
    kept.dataCnt.trans tracks.dataCnt, ?_, ?_⟩
  · rw [kept.sectCnt]
    exact tracks.sectCnt
  · rw [kept.sections]
    exact tracks.stores

theorem cells_append {base : Nat → UInt8} {bytes more : List UInt8}
    (before : cells base bytes.length = bytes) :
    cells (overwrite base bytes.length more.length (more.getD · 0)) (bytes ++ more).length =
      bytes ++ more := by
  rw [length_append, cells_overwrite_end, before, cells_getD _ _ le_rfl,
    take_length]

theorem Tracks.row (tracks : Tracks past state) (bounded : Bounded next)
    (stored : Stored state next) : Tracks (past ++ [state.text]) next := by
  have more : (past ++ [state.text]).flatMap bytesOf =
      past.flatMap bytesOf ++ bytesOf state.text := by
    rw [flatMap_append, flatMap_singleton]
  have room := stored.room
  rw [tracks.offsetCnt] at room
  have opens : Open (past ++ [state.text]) ↔
      Open past ∧ offsetOf state.text ≠ lastOffset := by
    simp [Open, or_imp, forall_and]
  refine ⟨bounded, ?_, ?_, ?_, ?_, ?_⟩
  · rw [stored.offsetCnt, tracks.offsetCnt, length_append, length_singleton]
  · rw [length_append, length_singleton]
    exact room
  · rw [stored.dataCnt, more, length_append, tracks.dataCnt]
  · rw [stored.sectCnt, opens, ← tracks.sectCnt]
    split
    · rename_i last
      simp [last]
    · rename_i other
      simp [other]
  · rw [stored.sections]
    by_cases none : Open past
    · have zero := tracks.sectCnt.mpr none
      have all := firstPart_of_open none
      have whole : firstPart (past ++ [state.text]) = past ++ [state.text] := by
        rw [firstPart_eq_self_iff, dropLast_concat]
        exact none
      have offsets := tracks.stores.offsets
      have bytes := tracks.stores.bytes
      rw [all] at offsets bytes
      rw [zero, update_self, tracks.offsetCnt, tracks.dataCnt]
      constructor
      · rw [whole, length_append, length_singleton, map_append, ← offsets,
          cells_add]
        congr 1
        · apply cells_congr
          intro index inside
          exact update_of_ne (Nat.ne_of_lt inside) _ _
        · simp [cells, view, ConfigSect.store]
      · rw [whole, more]
        exact cells_append bytes
      · intro still
        rw [ConfigSect.store, if_neg (opens.mp still).2]
        exact tracks.stores.open_count none
      · intro closed
        have last : offsetOf state.text = lastOffset := by
          by_contra other
          exact closed (opens.mpr ⟨none, other⟩)
        rw [ConfigSect.store, if_pos last, whole, length_append, length_singleton]
    · have later : (0 : Nat) ≠ state.sectCnt := fun zero => none (tracks.sectCnt.mp zero.symm)
      have same := firstPart_append state.text none
      rw [update_of_ne later]
      constructor
      · rw [same]
        exact tracks.stores.offsets
      · rw [same]
        exact tracks.stores.bytes
      · exact fun still => absurd (opens.mp still).1 none
      · intro _
        rw [same]
        exact tracks.stores.count none

theorem stores_of_loop {fuel : Nat} {config : Config} (tracks : Tracks past state)
    (ran : loop parseRound fuel state = some (.ok config)) :
    Stores (past ++ scanRows fuel state.isData state.text) (config.sections 0) ∧
      (past ++ scanRows fuel state.isData state.text).length ≤ sectColumnNum := by
  induction fuel generalizing past state with
  | zero => cases ran
  | succ fuel ih =>
    have does := parseRound_does tracks.bounded
    cases moved : parseRound state with
    | next after =>
      rw [moved] at does
      rw [loop_next moved] at ran
      cases does with
      | passed _ _ _ _ bounded scanned kept =>
        rw [scanned]
        exact ih (tracks.pass bounded kept) ran
      | row _ _ _ _ bounded scanned stored =>
        rw [scanned, append_cons]
        exact ih (tracks.row bounded stored) ran
    | ends result =>
      rw [moved] at does
      rw [loop_ends moved] at ran
      cases ran
      cases does with
      | ended _ _ scanned =>
        rw [scanned, append_nil]
        exact ⟨tracks.stores, tracks.few⟩

theorem bounded_next (bounded : Bounded state) (moved : parseRound state = .next next) :
    Bounded next := by
  have does := parseRound_does bounded
  rw [moved] at does
  cases does <;> assumption

theorem shorter_next (bounded : Bounded state) (moved : parseRound state = .next next) :
    next.text.length < state.text.length := by
  have does := parseRound_does bounded
  rw [moved] at does
  cases does <;> assumption

theorem bounded_of_comes (comes : ComesTo image state) : Bounded state :=
  comes.rule bounded_next (tracks_start image).bounded

theorem parsingImage_isSome (image : List UInt8) : (parsingImage image).isSome :=
  loop_isSome Bounded bounded_next shorter_next (tracks_start image).bounded (Nat.lt_succ_self _)

theorem parsingImage_strays_iff : parsingImage image = some (.error .strays) ↔
    ∃ state, ComesTo image state ∧ Overflows state := by
  rw [parsingImage, loop_eq_some_iff (parsingImage_isSome image)]
  constructor
  · rintro ⟨last, comes, ended⟩
    have does := parseRound_does (bounded_of_comes comes)
    rw [ended] at does
    cases does with
    | strays overflows => exact ⟨last, comes, overflows⟩
  · rintro ⟨state, comes, overflows⟩
    have does := parseRound_does (bounded_of_comes comes)
    refine ⟨state, comes, ?_⟩
    generalize parseRound state = result at does
    cases does with
    | ended sound => exact absurd overflows sound
    | strays => rfl
    | refused sound => exact absurd overflows sound
    | passed _ sound => exact absurd overflows sound
    | row _ sound => exact absurd overflows sound

theorem parsingImage_rejected_iff (sound : ∀ state, ComesTo image state → ¬ Overflows state) :
    parsingImage image = some (.error .rejected) ↔
      ∃ state, ComesTo image state ∧ Refuses state := by
  rw [parsingImage, loop_eq_some_iff (parsingImage_isSome image)]
  constructor
  · rintro ⟨last, comes, ended⟩
    have does := parseRound_does (bounded_of_comes comes)
    rw [ended] at does
    cases does with
    | refused _ refuses => exact ⟨last, comes, refuses⟩
  · rintro ⟨state, comes, refuses⟩
    have does := parseRound_does (bounded_of_comes comes)
    refine ⟨state, comes, ?_⟩
    generalize parseRound state = result at does
    cases does with
    | ended _ taken => exact absurd refuses taken
    | strays overflows => exact absurd overflows (sound state comes)
    | refused => rfl
    | passed _ _ taken => exact absurd refuses taken
    | row _ _ taken => exact absurd refuses taken

end Runs

/-! ## Images that are parsed right -/

/-- Images of which the parser makes what it should. -/
theorem parsingImage_right_iff (image : List UInt8) :
    ParsesRight image ↔ (∀ state, ComesTo image state → ¬ Overflows state) ∧
      ((∀ state, ComesTo image state → ¬ Refuses state) → Proper (rowsOf image)) := by
  have exactly : ∀ {config}, parsingImage image = some (.ok config) →
      (Exact (rowsOf image) (config.sections 0) ↔ Proper (rowsOf image)) := by
    intro config ran
    have stores := stores_of_loop (tracks_start image) ran
    exact stores.1.exact_iff stores.2
  constructor
  · intro right
    have sound : ∀ state, ComesTo image state → ¬ Overflows state :=
      fun state comes overflows =>
        right.inside (parsingImage_strays_iff.mpr ⟨state, comes, overflows⟩)
    refine ⟨sound, fun taken => ?_⟩
    obtain ⟨result, ran⟩ := Option.isSome_iff_exists.mp right.ends
    cases result with
    | ok config => exact (exactly ran).mp (right.rows config ran)
    | error stop =>
      cases stop with
      | strays => exact absurd ran right.inside
      | rejected =>
        obtain ⟨state, comes, refuses⟩ := (parsingImage_rejected_iff sound).mp ran
        exact absurd refuses (taken state comes)
  · rintro ⟨sound, proper⟩
    refine ⟨parsingImage_isSome image, ?_, ?_⟩
    · intro strays
      obtain ⟨state, comes, overflows⟩ := parsingImage_strays_iff.mp strays
      exact sound state comes overflows
    · intro config ran
      apply (exactly ran).mpr
      apply proper
      intro state comes refuses
      have rejected := (parsingImage_rejected_iff sound).mpr ⟨state, comes, refuses⟩
      exact absurd (ran.symm.trans rejected) (by simp)

/-- The last line of an image is a comment without a line feed. -/
theorem commentAtEnd_strays : ¬ ParsesRight "// end".toUTF8.toList := by
  intro right
  have overflows : Overflows (parseStart "// end".toUTF8.toList) :=
    .comment (by decide +kernel) (by decide +kernel)
  exact right.inside (parsingImage_strays_iff.mpr ⟨_, Comes.refl _, overflows⟩)

end OpenBic.Tda38741
