import Mathlib.Logic.Function.Iterate
import OpenBic.Vr.Xdpe15284Parse

/-!
# What an image file of an XDPE15284 says

The sections of a file, line by line, and when `xdpe15284_parse_file` takes exactly these and
`check_xdpe15284_image_crc` stays in them.
-/

namespace OpenBic.Xdpe15284

open List Library Library.Rounds Library.Walk

/-! ## The check of the sections -/

def sectCrcOffset : Nat := 2

def crc32Poly : UInt32 := 0xEDB88320

/-- A step of `cal_crc32`. -/
def crcStep (crc : UInt32) : UInt32 :=
  if crc &&& 1 ≠ 0 then (crc >>> 1) ^^^ crc32Poly else crc >>> 1

/-- `cal_crc32`, of so many dwords of a section from one on. There are none of a negative number. -/
def calCrc32 (data : List UInt32) (start : Nat) (len : Int) : UInt32 :=
  ~~~ (List.range len.toNat).foldl
    (fun crc index => crcStep^[32] (crc ^^^ data.getD (start + index) 0)) 0xFFFFFFFF

/-- A range of a section of which a CRC is computed. -/
structure CrcRange where
  dataCnt : Nat
  start : Nat
  len : Int

/-- The checksum stays inside the data. -/
def CrcRange.Inside (range : CrcRange) : Prop :=
  0 ≤ range.len ∧ range.start + range.len ≤ range.dataCnt

/-- The checksum of the header is right. -/
def HeaderMatches (data : List UInt32) : Prop := calCrc32 data 0 2 = data.getD sectCrcOffset 0

instance (data : List UInt32) : Decidable (HeaderMatches data) :=
  inferInstanceAs (Decidable (_ = _))

/-- The checksum of the data is right. -/
def DataMatches (data : List UInt32) : Prop :=
  calCrc32 data 3 (data.length - 4) = data.getD (data.length - 1) 0

instance (data : List UInt32) : Decidable (DataMatches data) := inferInstanceAs (Decidable (_ = _))

/-- The loop of `check_xdpe15284_image_crc`: the ranges, and the sum of the CRCs if all match. -/
def checkSections : List ConfigSect → UInt32 → List CrcRange × Option UInt32
  | [], sum => ([], some sum)
  | sect :: rest, sum =>
    let header : CrcRange := ⟨sect.data.length, 0, 2⟩
    let data : CrcRange := ⟨sect.data.length, 3, sect.data.length - 4⟩
    if ¬ HeaderMatches sect.data then ([header], none)
    else if ¬ DataMatches sect.data then ([header, data], none)
    else
      let found := checkSections rest
        (sum + calCrc32 sect.data 0 2 + calCrc32 sect.data 3 (sect.data.length - 4))
      (header :: data :: found.1, found.2)

/-- `check_xdpe15284_image_crc`: the ranges, and whether it succeeds. -/
def checkImageCrc (config : Config) : List CrcRange × Bool :=
  let found := checkSections config.sections 0
  (found.1, found.2 == some config.expCrc)

/-! ## What is claimed -/

/-- A section of a file: its type, and the dwords of its lines. -/
structure FileSect where
  type : UInt8
  data : List UInt32

def ConfigSect.entry (sect : ConfigSect) : FileSect := ⟨sect.type, sect.data⟩

def wordsOf (line : List UInt8) : List (List UInt8) :=
  (line.splitOnP fun char => char == spaceAscii || char == crAscii).filter (· ≠ [])

def fieldsOf (words : List (List UInt8)) : Option (UInt16 × List UInt32) :=
  match words with
  | offset :: dword :: rest =>
    some (UInt16.ofInt (strtol offset), (dword :: rest).map strtoul)
  | _ => none

/-- The line is a comment. -/
def IsComment (line : List UInt8) : Prop := line.take dataComment.length = dataComment

instance (line : List UInt8) : Decidable (IsComment line) := inferInstanceAs (Decidable (_ = _))

/-- The sections of the lines so far. -/
structure FileState where
  sections : List FileSect
  trimmed : Bool

/-- Fields are added: the offset 0 begins a section, of the type that the first dword has. -/
def addFields (file : FileState) (fields : Option (UInt16 × List UInt32)) : FileState :=
  match fields with
  | none => file
  | some (offset, dwords) =>
    if offset = 0 then
      if (dwords.headD 0).toUInt8 = sectTrim then { file with trimmed := true }
      else ⟨file.sections ++ [⟨(dwords.headD 0).toUInt8, dwords⟩], false⟩
    else if file.trimmed then file
    else
      match file.sections.getLast? with
      | none => file
      | some sect => { file with
          sections := file.sections.dropLast ++ [{ sect with data := sect.data ++ dwords }] }

def readLine (cut : List UInt8 → List (List UInt8)) (file : FileState) (line : List UInt8) :
    FileState :=
  if IsComment line then file else addFields file (fieldsOf (cut line))

def dataOf (image : List UInt8) : UInt32 × List UInt8 :=
  match header (image.length + 1) 0 image with
  | .ok (expCrc, some text) => (expCrc, text)
  | .ok (expCrc, none) => (expCrc, [])
  | .error _ => (0, [])

def linesOf (image : List UInt8) : List (List UInt8) := dataLines (dataOf image).2

def fileOf (cut : List UInt8 → List (List UInt8)) (image : List UInt8) : FileState :=
  (linesOf image).foldl (readLine cut) ⟨[], false⟩

def sectionsOf (image : List UInt8) : List FileSect := (fileOf wordsOf image).sections

/-- Data come before any section. -/
def EarlyData (image : List UInt8) : Prop :=
  ∃ past line rest offset dwords, linesOf image = past ++ line :: rest ∧ ¬ IsComment line ∧
    fieldsOf (wordsOf line) = some (offset, dwords) ∧ offset ≠ 0 ∧
    past.foldl (readLine wordsOf) ⟨[], false⟩ = ⟨[], false⟩

/-- A line has more words than its array. -/
def ManyTokens (image : List UInt8) : Prop :=
  ∃ line ∈ linesOf image, ¬ IsComment line ∧ dataLenInLine < (wordsOf line).length

/-- More sections, or data, than there is room for. -/
def Many (sections : List FileSect) : Prop :=
  maxSectNum < sections.length ∨ ∃ sect ∈ sections, maxSectDataNum < sect.data.length

/-- The parser ends and stays in its buffers, has exactly the sections of the file when it succeeds,
of which the check then computes CRCs in their ranges only, and rejects a file with data before a
section or with too much of something. -/
structure ParsesRight (image : List UInt8) : Prop where
  ends : (parseFile image).isSome
  inside : parseFile image ≠ some (.error .strays)
  sections : ∀ config, parseFile image = some (.ok config) →
    config.sections.map ConfigSect.entry = sectionsOf image
  ranges : ∀ config, parseFile image = some (.ok config) →
    ∀ range ∈ (checkImageCrc config).1, range.Inside
  rejects : EarlyData image ∨ ManyTokens image ∨ Many (sectionsOf image) →
    parseFile image = some (.error .rejected)

/-- The pieces that single spaces cut a line into. The last one ends at a carriage return, and is
none without it. -/
def piecesOf (line : List UInt8) : List (List UInt8) :=
  let parts := line.splitOnP (· == spaceAscii)
  let last := parts.getLastD []
  parts.dropLast ++ if crAscii ∈ last then [last.takeWhile (· ≠ crAscii)] else []

/-- The parser comes to this state. -/
def ComesTo (image : List UInt8) (state : ParseState) : Prop :=
  Comes parseRound ⟨Config.cleared, 0, false, image⟩ state

/-- The parser comes to a line, with its configuration and the type of its last section. -/
def ComesToLine (image : List UInt8) (state : Config × UInt8) (line : List UInt8) : Prop :=
  ∃ past rest, linesOf image = past ++ line :: rest ∧
    past.foldlM lineStep ({ Config.cleared with expCrc := (dataOf image).1 }, 0) = .ok state

/-- A line has too many pieces, or data for a section while there is none. -/
def Overflows (state : Config × UInt8) (line : List UInt8) : Prop :=
  ¬ IsComment line ∧ (dataLenInLine < (piecesOf line).length ∨
    state.1.sections = [] ∧ state.2 ≠ sectTrim ∧
      ∃ offset dwords, fieldsOf (piecesOf line) = some (offset, dwords) ∧ offset ≠ 0)

/-- The sections that the check comes to have the dwords that it takes them to have. -/
def SectionsSound : List (List UInt32) → Prop
  | [] => True
  | data :: rest =>
    2 ≤ data.length ∧
      (HeaderMatches data → 4 ≤ data.length ∧ (DataMatches data → SectionsSound rest))

/-- The image is refused: it has no checksum, too many sections or too many dwords in one, or a line
of it does not end. -/
def Refused (image : List UInt8) : Prop :=
  (dataOf image).1 = 0 ∨ Many (fileOf piecesOf image).sections ∨
    ¬ (afterLines (dataOf image).2 = [] ∨ AtEnd (afterLines (dataOf image).2))

/-- The lines have no data before a section and not too many words, and the sections have the dwords
that the check takes them to have. -/
structure Readable (image : List UInt8) : Prop where
  started : ¬ EarlyData image
  words : ¬ ManyTokens image
  sections : SectionsSound ((sectionsOf image).map FileSect.data)

/-- What an image that is parsed right has to be: the parser comes to no checksum that is read past
the end and to no line that overflows, and it refuses the image or can read it. -/
structure Sane (image : List UInt8) : Prop where
  checksum : ∀ state, ComesTo image state → ¬ ReadsPast state
  lines : ∀ state line, ComesToLine image state line → ¬ Overflows state line
  readable : ¬ Refused image → Readable image

/-- Words that single spaces set apart, with a carriage return behind them. A line of one word at
most, which says nothing, may do without it. -/
def Spaced (line : List UInt8) : Prop :=
  ∃ words : List (List UInt8),
    (∀ word ∈ words, word ≠ [] ∧ spaceAscii ∉ word ∧ crAscii ∉ word) ∧
      (line = [spaceAscii].intercalate words ++ [crAscii] ∨
        words.length ≤ 1 ∧ line = [spaceAscii].intercalate words)

/-! ## The ranges -/

section Ranges

variable {sections : List ConfigSect} {sum : UInt32}

theorem ranges_inside_iff : (∀ range ∈ (checkSections sections sum).1, range.Inside) ↔
    SectionsSound (sections.map ConfigSect.data) := by
  induction sections generalizing sum with
  | nil => simp [checkSections, SectionsSound]
  | cons sect rest ih =>
    have header : CrcRange.Inside ⟨sect.data.length, 0, 2⟩ ↔ 2 ≤ sect.data.length := by
      simp only [CrcRange.Inside]
      omega
    have data : CrcRange.Inside ⟨sect.data.length, 3, sect.data.length - 4⟩ ↔
        4 ≤ sect.data.length := by
      simp only [CrcRange.Inside]
      omega
    rw [map_cons, SectionsSound, checkSections]
    by_cases first : HeaderMatches sect.data
    · rw [if_neg (not_not.mpr first)]
      by_cases second : DataMatches sect.data
      · rw [if_neg (not_not.mpr second)]
        rw [forall_mem_cons, forall_mem_cons, header, data, ih]
        simp only [first, second, true_implies]
      · rw [if_pos second]
        rw [forall_mem_cons, forall_mem_cons, header, data]
        simp [first, second]
    · rw [if_pos first, forall_mem_cons, header]
      simp [first]

end Ranges

/-! ## Dwords -/

section Dwords

variable {config after : Config} {front : List FileSect} {type : UInt8} {data dwords : List UInt32}
  {dword : UInt32}

def Config.entries (config : Config) : List FileSect := config.sections.map ConfigSect.entry

theorem storeDword_ok (last : config.entries = front ++ [⟨type, data⟩])
    (stored : storeDword config dword = .ok after) :
    after.entries = front ++ [⟨type, data ++ [dword]⟩] := by
  unfold storeDword at stored
  split at stored
  · cases stored
  · rename_i sect here
    split at stored
    · cases stored
      have whole := dropLast_append_getLast? sect here
      rw [Config.entries, ← whole, map_append] at last
      have split := append_inj' last rfl
      have entry : sect.entry = ⟨type, data⟩ := (List.cons.inj split.2).1
      have added : ∀ fits, ConfigSect.entry ⟨sect.type, sect.data ++ [dword], fits⟩ =
          ⟨type, data ++ [dword]⟩ := fun _ =>
        congrArg (fun found : FileSect => FileSect.mk found.type (found.data ++ [dword])) entry
      rw [Config.entries, map_append, split.1, map_singleton, added]
    · cases stored

theorem storeDword_error {stop : ParseStop} (last : config.entries = front ++ [⟨type, data⟩])
    (stopped : storeDword config dword = .error stop) :
    stop = .rejected ∧ maxSectDataNum ≤ data.length := by
  unfold storeDword at stopped
  split at stopped
  · rename_i none
    rw [getLast?_eq_none_iff] at none
    rw [Config.entries, none] at last
    simp at last
  · rename_i sect here
    split at stopped
    · cases stopped
    · rename_i noRoom
      have whole := dropLast_append_getLast? sect here
      rw [Config.entries, ← whole, map_append] at last
      have entry : sect.entry = ⟨type, data⟩ := (List.cons.inj (append_inj' last rfl).2).1
      have same : sect.data = data := congrArg FileSect.data entry
      rw [same] at noRoom
      exact ⟨(Except.error.inj stopped).symm, Nat.le_of_not_lt noRoom⟩

theorem storeDword_expCrc (stored : storeDword config dword = .ok after) :
    after.expCrc = config.expCrc := by
  unfold storeDword at stored
  split at stored
  · cases stored
  · split at stored
    · cases stored
      rfl
    · cases stored

theorem startSection_expCrc (started : startSection config type = .ok after) :
    after.expCrc = config.expCrc := by
  unfold startSection at started
  split at started
  · cases started
    rfl
  · cases started

theorem foldlM_storeDword_expCrc (stored : dwords.foldlM storeDword config = .ok after) :
    after.expCrc = config.expCrc := by
  have kept : ∀ {now : Config} {dword next}, now.expCrc = config.expCrc →
      storeDword now dword = .ok next → next.expCrc = config.expCrc :=
    fun before moved => (storeDword_expCrc moved).trans before
  exact @foldlM_keeps _ _ _ _ (fun now => now.expCrc = config.expCrc) kept _ _ _ rfl stored

theorem storeDwords_expCrc {offset : UInt16} {sectType : UInt8} {next : Config × UInt8}
    (stored : storeDwords offset dwords config sectType = .ok next) :
    next.1.expCrc = config.expCrc := by
  unfold storeDwords at stored
  split at stored
  · cases stored
    rfl
  · split at stored
    · split at stored
      · cases stored
        rfl
      · split at stored
        · cases stored
        · rename_i started
          obtain ⟨after, ran, rfl⟩ := map_eq_ok_iff.mp stored
          exact (foldlM_storeDword_expCrc ran).trans (startSection_expCrc started)
    · obtain ⟨after, ran, rfl⟩ := map_eq_ok_iff.mp stored
      exact foldlM_storeDword_expCrc ran

theorem storeDword_empty (empty : config.sections = []) :
    storeDword config dword = .error .strays := by
  unfold storeDword
  split
  · rfl
  · rename_i sect some
    rw [empty] at some
    cases some

theorem storeDwords_last (last : config.entries = front ++ [⟨type, data⟩])
    (stored : dwords.foldlM storeDword config = .ok after) :
    after.entries = front ++ [⟨type, data ++ dwords⟩] := by
  have kept : ∀ {past now dword next}, Config.entries now = front ++ [⟨type, data ++ past⟩] →
      storeDword now dword = .ok next →
        Config.entries next = front ++ [⟨type, data ++ (past ++ [dword])⟩] := by
    intro past now dword next before moved
    rw [← append_assoc]
    exact storeDword_ok before moved
  have initial : config.entries = front ++ [⟨type, data ++ []⟩] := by
    rw [append_nil]
    exact last
  exact @foldlM_rule _ _ _ _
    (fun past now => Config.entries now = front ++ [⟨type, data ++ past⟩]) kept _ _ _ initial stored

theorem storeDwords_error {stop : ParseStop} (last : config.entries = front ++ [⟨type, data⟩])
    (stopped : dwords.foldlM storeDword config = .error stop) :
    stop = .rejected ∧ maxSectDataNum < (data ++ dwords).length := by
  obtain ⟨past, dword, rest, now, rfl, ran, here⟩ := foldlM_eq_error_iff.mp stopped
  have full := storeDword_error (storeDwords_last last ran) here
  apply And.intro full.1
  rw [← append_assoc, length_append, length_cons]
  omega

theorem startSection_ok (started : startSection config type = .ok after) :
    after.entries = config.entries ++ [⟨type, []⟩] := by
  unfold startSection at started
  split at started
  · cases started
    rw [Config.entries, map_append]
    rfl
  · cases started

theorem startSection_error {stop : ParseStop} (stopped : startSection config type = .error stop) :
    stop = .rejected ∧ maxSectNum ≤ config.sections.length := by
  unfold startSection at stopped
  split at stopped
  · cases stopped
  · rename_i noRoom
    exact ⟨(Except.error.inj stopped).symm, Nat.le_of_not_lt noRoom⟩

end Dwords


/-! ## Lines -/

section Pieces

variable {line token behind : List UInt8} {more : Nat}

theorem piecesOf_space (clean : spaceAscii ∉ token) :
    piecesOf (token ++ spaceAscii :: behind) = token :: piecesOf behind := by
  have others : ∀ char ∈ token, (char == spaceAscii) = false := by
    intro char listed
    apply beq_eq_false_iff_ne.mpr
    intro same
    exact clean (same ▸ listed)
  have parts : (token ++ spaceAscii :: behind).splitOnP (· == spaceAscii) =
      token :: behind.splitOnP (· == spaceAscii) :=
    splitOnP_append_cons_of_forall_mem others spaceAscii (by simp) behind
  have some := splitOnP_ne_nil (· == spaceAscii) behind
  unfold piecesOf
  dsimp only
  rw [parts, dropLast_cons_of_ne_nil some]
  cases rest : behind.splitOnP (· == spaceAscii) with
  | nil => exact absurd rest some
  | cons first others => rfl

theorem piecesOf_single (noSpace : spaceAscii ∉ line) :
    piecesOf line = if crAscii ∈ line then [line.takeWhile (· ≠ crAscii)] else [] := by
  have others : ∀ char ∈ line, (char == spaceAscii) = false := by
    intro char listed
    apply beq_eq_false_iff_ne.mpr
    intro same
    exact noSpace (same ▸ listed)
  unfold piecesOf
  rw [splitOnP_eq_singleton others]
  rfl

theorem uncut (clean : spaceAscii ∉ token ∧ crAscii ∉ token) :
    ∀ char ∈ token, (char == spaceAscii || char == crAscii) = false := by
  intro char listed
  rw [Bool.or_eq_false_iff]
  exact ⟨beq_eq_false_iff_ne.mpr fun same => clean.1 (same ▸ listed),
    beq_eq_false_iff_ne.mpr fun same => clean.2 (same ▸ listed)⟩

theorem wordsOf_cut (clean : spaceAscii ∉ token ∧ crAscii ∉ token) (filled : token ≠ [])
    {char : UInt8} (cuts : char = spaceAscii ∨ char = crAscii) :
    wordsOf (token ++ char :: behind) = token :: wordsOf behind := by
  have cut : (char == spaceAscii || char == crAscii) = true := by
    rcases cuts with rfl | rfl <;> decide
  unfold wordsOf
  rw [splitOnP_append_cons_of_forall_mem (uncut clean) char cut behind, filter_cons]
  simp [filled]

/-- Both ways to cut a line give the words that single spaces set apart. -/
theorem cut_spaced {words : List (List UInt8)} (some : words ≠ [])
    (clean : ∀ word ∈ words, word ≠ [] ∧ spaceAscii ∉ word ∧ crAscii ∉ word) :
    piecesOf ([spaceAscii].intercalate words ++ [crAscii]) = words ∧
      wordsOf ([spaceAscii].intercalate words ++ [crAscii]) = words := by
  induction words with
  | nil => exact absurd rfl some
  | cons word rest ih =>
    obtain ⟨filled, clear⟩ := clean word mem_cons_self
    cases rest with
    | nil =>
      have none : wordsOf [] = [] := rfl
      have alone : [spaceAscii].intercalate [word] ++ [crAscii] = word ++ crAscii :: [] := by
        simp [List.intercalate]
      have noSpace : spaceAscii ∉ word ++ crAscii :: [] := by
        rw [mem_append, mem_singleton]
        exact not_or.mpr ⟨clear.1, by decide⟩
      have whole : (word ++ crAscii :: []).takeWhile (· ≠ crAscii) = word := by
        rw [takeWhile_append_of_pos]
        · simp
        · intro char listed
          exact decide_eq_true fun same => clear.2 (same ▸ listed)
      rw [alone, wordsOf_cut clear filled (.inr rfl), piecesOf_single noSpace, if_pos (by simp),
        whole, none]
      exact ⟨rfl, rfl⟩
    | cons next rest =>
      have apart : [spaceAscii].intercalate (word :: next :: rest) ++ [crAscii] =
          word ++ spaceAscii :: ([spaceAscii].intercalate (next :: rest) ++ [crAscii]) := by
        simp [List.intercalate]
      obtain ⟨pieces, words⟩ := ih (by simp) fun other listed =>
        clean other (mem_cons_of_mem _ listed)
      rw [apart, piecesOf_space clear.1, wordsOf_cut clear filled (.inl rfl), pieces, words]
      exact ⟨rfl, rfl⟩

theorem Spaced.fields (spaced : Spaced line) :
    fieldsOf (piecesOf line) = fieldsOf (wordsOf line) := by
  obtain ⟨words, clean, rfl | ⟨one, rfl⟩⟩ := spaced
  · cases words with
    | nil => rfl
    | cons word rest =>
      obtain ⟨pieces, same⟩ := cut_spaced (cons_ne_nil word rest) clean
      rw [pieces, same]
  · match words with
    | [] => rfl
    | [word] =>
      obtain ⟨filled, clear⟩ := clean word mem_cons_self
      have alone : [spaceAscii].intercalate [word] = word := by simp [List.intercalate]
      have single : wordsOf word = [word] := by
        unfold wordsOf
        rw [splitOnP_eq_singleton (uncut clear)]
        simp [filled]
      rw [alone, piecesOf_single clear.1, if_neg clear.2, single]
      rfl

theorem fileOf_spaced {image : List UInt8}
    (spaced : ∀ line ∈ linesOf image, ¬ IsComment line → Spaced line) :
    fileOf piecesOf image = fileOf wordsOf image := by
  apply foldl_ext
  intro file line listed
  unfold readLine
  split
  · rfl
  · rename_i noComment
    rw [(spaced line listed noComment).fields]

theorem lineSplit_eq (more : Nat) (line : List UInt8) :
    (lineSplit more line).1 = (piecesOf line).take more := by
  fun_induction lineSplit more line with
  | case1 line => rfl
  | case2 more => rfl
  | case3 more line _ listed token found ih =>
    have whole := Lines.split_at listed
    have clean : spaceAscii ∉ token := Lines.not_mem_front _ line
    rw [← whole, piecesOf_space clean, take_succ_cons, ← ih]
  | case4 more line _ noSpace listed token =>
    rw [piecesOf_single noSpace, if_pos listed, take_succ_cons, take_nil]
  | case5 more line _ noSpace none =>
    rw [piecesOf_single noSpace, if_neg none]
    rfl

theorem tokens_lt_iff : dataLenInLine < (lineSplit (dataLenInLine + 1) line).1.length ↔
    dataLenInLine < (piecesOf line).length := by
  rw [lineSplit_eq, length_take]
  omega

theorem tokens_eq (few : (piecesOf line).length ≤ dataLenInLine) :
    (lineSplit (dataLenInLine + 1) line).1 = piecesOf line := by
  rw [lineSplit_eq]
  exact take_of_length_le (Nat.le_succ_of_le few)

end Pieces

section Steps

variable {state next : Config × UInt8} {file : FileState} {line : List UInt8}
  {fields : Option (UInt16 × List UInt32)} {offset : UInt16} {dwords : List UInt32}

/-- The parser has the sections of the lines so far. -/
structure Agrees (state : Config × UInt8) (file : FileState) : Prop where
  sections : state.1.entries = file.sections
  trimmed : (state.2 == sectTrim) = file.trimmed

def stepFields (state : Config × UInt8) (fields : Option (UInt16 × List UInt32)) :
    Except ParseStop (Config × UInt8) :=
  match fields with
  | none => .ok state
  | some (offset, dwords) =>
    if state.2 = sectTrim ∧ offset ≠ 0 then .ok state
    else storeDwords offset dwords state.1 state.2

theorem lineStep_eq (noComment : ¬ IsComment line)
    (few : (piecesOf line).length ≤ dataLenInLine) :
    lineStep state line = stepFields state (fieldsOf (piecesOf line)) := by
  unfold IsComment at noComment
  rw [lineStep, if_neg noComment]
  unfold dataLine stepFields
  rw [tokens_eq few, if_neg (Nat.not_lt.mpr few)]
  cases tokens : piecesOf line with
  | nil => rfl
  | cons token others =>
    dsimp only
    cases others with
    | nil =>
      split <;> rfl
    | cons dword rest =>
      by_cases skipped : state.2 = sectTrim ∧ UInt16.ofInt (strtol token) ≠ 0
      · rw [if_pos skipped]
        dsimp only [fieldsOf]
        rw [if_pos skipped]
        rfl
      · rw [if_neg skipped]
        dsimp only [fieldsOf]
        rw [if_neg skipped]
        cases storeDwords (UInt16.ofInt (strtol token)) ((dword :: rest).map strtoul) state.1
          state.2 <;> rfl

theorem lineStep_many (noComment : ¬ IsComment line)
    (many : dataLenInLine < (piecesOf line).length) :
    lineStep state line = .error .strays := by
  unfold IsComment at noComment
  rw [lineStep, if_neg noComment]
  unfold dataLine
  rw [if_pos (tokens_lt_iff.mpr many)]
  rfl

theorem addFields_start (file : FileState) (dword : UInt32) (rest : List UInt32) :
    addFields file (some (0, dword :: rest)) =
      if dword.toUInt8 = sectTrim then { file with trimmed := true }
      else ⟨file.sections ++ [⟨dword.toUInt8, dword :: rest⟩], false⟩ := rfl

theorem addFields_last (some : offset ≠ 0) (plain : file.trimmed = false) {sect : FileSect}
    (here : file.sections.getLast? = Option.some sect) :
    addFields file (Option.some (offset, dwords)) = { file with
      sections := file.sections.dropLast ++ [{ sect with data := sect.data ++ dwords }] } := by
  unfold addFields
  dsimp only
  rw [if_neg some, plain, here]
  rfl

theorem storeDwords_append (some : offset ≠ 0) (dword : UInt32) (rest : List UInt32) :
    storeDwords offset (dword :: rest) state.1 state.2 =
      ((dword :: rest).foldlM storeDword state.1).map fun after => (after, state.2) :=
  if_neg some

theorem Agrees.start (agrees : Agrees state file) {dword : UInt32} {rest : List UInt32}
    (stepped : storeDwords 0 (dword :: rest) state.1 state.2 = .ok next) :
    Agrees next (addFields file (some (0, dword :: rest))) := by
  unfold storeDwords at stepped
  dsimp only at stepped
  rw [addFields_start]
  by_cases trim : dword.toUInt8 = sectTrim
  · rw [if_pos trim] at stepped ⊢
    cases stepped
    exact ⟨agrees.sections, rfl⟩
  · rw [if_neg trim] at stepped ⊢
    cases started : startSection state.1 dword.toUInt8 with
    | error stop =>
      rw [started] at stepped
      cases stepped
    | ok config =>
      rw [started] at stepped
      obtain ⟨after, ran, rfl⟩ := map_eq_ok_iff.mp stepped
      have last := storeDwords_last (startSection_ok started) ran
      rw [agrees.sections, nil_append] at last
      exact ⟨last, beq_eq_false_iff_ne.mpr trim⟩

theorem Agrees.last (agrees : Agrees state file) (dword : UInt32) (rest : List UInt32) :
    (state.1.sections = [] ∧ (dword :: rest).foldlM storeDword state.1 = .error .strays) ∨
      ∃ sect, file.sections.getLast? = some sect ∧
        state.1.entries = file.sections.dropLast ++ [⟨sect.type, sect.data⟩] := by
  cases here : file.sections.getLast? with
  | none =>
    rw [getLast?_eq_none_iff] at here
    have empty : state.1.sections = [] := List.map_eq_nil_iff.mp (agrees.sections.trans here)
    exact .inl ⟨empty, foldlM_cons_error (storeDword_empty empty)⟩
  | some sect =>
    have whole := dropLast_append_getLast? sect here
    exact .inr ⟨sect, rfl, agrees.sections.trans whole.symm⟩

theorem Agrees.append (agrees : Agrees state file) (some : offset ≠ 0)
    (plain : file.trimmed = false) {dword : UInt32} {rest : List UInt32}
    (stepped : storeDwords offset (dword :: rest) state.1 state.2 = .ok next) :
    Agrees next (addFields file (Option.some (offset, dword :: rest))) := by
  rw [storeDwords_append some] at stepped
  obtain ⟨after, ran, rfl⟩ := map_eq_ok_iff.mp stepped
  rcases agrees.last dword rest with ⟨-, strays⟩ | ⟨sect, here, entries⟩
  · exact absurd (ran.symm.trans strays) (by simp)
  · rw [addFields_last some plain here]
    exact ⟨storeDwords_last entries ran, agrees.trimmed⟩

/-- What the parser makes of fields is what they add. -/
theorem Agrees.step (agrees : Agrees state file) (stepped : stepFields state fields = .ok next)
    (filled : ∀ offset dwords, fields = some (offset, dwords) → dwords ≠ []) :
    Agrees next (addFields file fields) := by
  unfold stepFields at stepped
  cases fields with
  | none =>
    cases stepped
    exact agrees
  | some found =>
    obtain ⟨offset, dwords⟩ := found
    dsimp only at stepped
    cases dwords with
    | nil => exact absurd rfl (filled offset [] rfl)
    | cons dword rest =>
      by_cases zero : offset = 0
      · subst zero
        rw [if_neg (fun skipped => skipped.2 rfl)] at stepped
        exact agrees.start stepped
      · cases trimmed : file.trimmed with
        | true =>
          have trim : state.2 = sectTrim := eq_of_beq (agrees.trimmed.trans trimmed)
          rw [if_pos ⟨trim, zero⟩] at stepped
          cases stepped
          have same : addFields file (some (offset, dword :: rest)) = file := by
            unfold addFields
            dsimp only
            rw [if_neg zero, if_pos trimmed]
          rw [same]
          exact agrees
        | false =>
          have other : state.2 ≠ sectTrim :=
            beq_eq_false_iff_ne.mp (agrees.trimmed.trans trimmed)
          rw [if_neg (fun skipped => other skipped.1)] at stepped
          exact agrees.append zero trimmed stepped

theorem Agrees.start_error (agrees : Agrees state file) {dword : UInt32} {rest : List UInt32}
    {stop : ParseStop} (stopped : storeDwords 0 (dword :: rest) state.1 state.2 = .error stop) :
    stop = .rejected ∧ Many (addFields file (some (0, dword :: rest))).sections := by
  unfold storeDwords at stopped
  dsimp only at stopped
  rw [addFields_start]
  by_cases trim : dword.toUInt8 = sectTrim
  · rw [if_pos trim] at stopped
    cases stopped
  · rw [if_neg trim] at stopped ⊢
    cases started : startSection state.1 dword.toUInt8 with
    | error other =>
      rw [started] at stopped
      obtain rfl := Except.error.inj stopped
      have full := startSection_error started
      have counted := congrArg List.length agrees.sections
      rw [Config.entries, length_map] at counted
      apply And.intro full.1
      apply Or.inl
      rw [length_append, ← counted]
      exact Nat.lt_succ_of_le full.2
    | ok config =>
      rw [started] at stopped
      have full := storeDwords_error (startSection_ok started) (map_eq_error_iff.mp stopped)
      exact ⟨full.1, .inr ⟨_, mem_append_right _ (List.mem_singleton.mpr rfl), full.2⟩⟩

theorem Agrees.append_error (agrees : Agrees state file) (some : offset ≠ 0)
    (plain : file.trimmed = false) {dword : UInt32} {rest : List UInt32} {stop : ParseStop}
    (stopped : storeDwords offset (dword :: rest) state.1 state.2 = .error stop) :
    (stop = .strays ∧ state.1.sections = []) ∨
      stop = .rejected ∧ Many (addFields file (Option.some (offset, dword :: rest))).sections := by
  rw [storeDwords_append some] at stopped
  have ran := map_eq_error_iff.mp stopped
  rcases agrees.last dword rest with ⟨empty, strays⟩ | ⟨sect, here, entries⟩
  · exact .inl ⟨Except.error.inj (ran.symm.trans strays), empty⟩
  · rw [addFields_last some plain here]
    have full := storeDwords_error entries ran
    apply Or.inr
    exact ⟨full.1, .inr ⟨_, mem_append_right _ (List.mem_singleton.mpr rfl), full.2⟩⟩

theorem Agrees.step_error (agrees : Agrees state file) {stop : ParseStop}
    (stopped : stepFields state fields = .error stop)
    (filled : ∀ offset dwords, fields = some (offset, dwords) → dwords ≠ []) :
    (stop = .strays ∧ state.1.sections = [] ∧ state.2 ≠ sectTrim ∧
        ∃ offset dwords, fields = some (offset, dwords) ∧ offset ≠ 0) ∨
      stop = .rejected ∧ Many (addFields file fields).sections := by
  unfold stepFields at stopped
  cases fields with
  | none => cases stopped
  | some found =>
    obtain ⟨offset, dwords⟩ := found
    dsimp only at stopped
    cases dwords with
    | nil => exact absurd rfl (filled offset [] rfl)
    | cons dword rest =>
      by_cases skipped : state.2 = sectTrim ∧ offset ≠ 0
      · rw [if_pos skipped] at stopped
        cases stopped
      · rw [if_neg skipped] at stopped
        by_cases zero : offset = 0
        · subst zero
          exact .inr (agrees.start_error stopped)
        · have other : state.2 ≠ sectTrim := fun trim => skipped ⟨trim, zero⟩
          have plain : file.trimmed = false :=
            agrees.trimmed.symm.trans (beq_eq_false_iff_ne.mpr other)
          rcases agrees.append_error zero plain stopped with strays | full
          · exact .inl ⟨strays.1, strays.2, other, offset, dword :: rest, rfl, zero⟩
          · exact .inr full

theorem stepFields_strays (empty : state.1.sections = []) (other : state.2 ≠ sectTrim)
    (found : fields = some (offset, dwords)) (some : offset ≠ 0) (filled : dwords ≠ []) :
    stepFields state fields = .error .strays := by
  subst found
  cases dwords with
  | nil => exact absurd rfl filled
  | cons dword rest =>
    unfold stepFields storeDwords
    dsimp only
    rw [if_neg (fun skipped => other skipped.1), if_neg some,
      foldlM_cons_error (storeDword_empty empty)]
    rfl

end Steps

/-! ## Files -/

section Files

variable {state next final : Config × UInt8} {file : FileState} {line : List UInt8}
  {lines : List (List UInt8)} {stop : ParseStop}

theorem fields_filled {words : List (List UInt8)} {offset : UInt16} {dwords : List UInt32}
    (found : fieldsOf words = some (offset, dwords)) : dwords ≠ [] := by
  unfold fieldsOf at found
  split at found
  · obtain ⟨-, rfl⟩ := Prod.mk.inj (Option.some.inj found)
    simp
  · cases found

theorem Agrees.read (agrees : Agrees state file) (moved : lineStep state line = .ok next) :
    Agrees next (readLine piecesOf file line) := by
  unfold readLine
  by_cases comment : IsComment line
  · have same : lineStep state line = .ok state := if_pos comment
    rw [same] at moved
    cases moved
    rw [if_pos comment]
    exact agrees
  · rw [if_neg comment]
    by_cases few : (piecesOf line).length ≤ dataLenInLine
    · rw [lineStep_eq comment few] at moved
      exact agrees.step moved fun offset dwords found => fields_filled found
    · rw [lineStep_many comment (Nat.lt_of_not_le few)] at moved
      cases moved

theorem Agrees.read_error (agrees : Agrees state file)
    (stopped : lineStep state line = .error stop) :
    (stop = .strays ∧ Overflows state line) ∨
      stop = .rejected ∧ Many (readLine piecesOf file line).sections := by
  unfold readLine
  by_cases comment : IsComment line
  · have same : lineStep state line = .ok state := if_pos comment
    rw [same] at stopped
    cases stopped
  · rw [if_neg comment]
    by_cases few : (piecesOf line).length ≤ dataLenInLine
    · rw [lineStep_eq comment few] at stopped
      have cases := agrees.step_error stopped fun offset dwords found => fields_filled found
      rcases cases with ⟨strays, early⟩ | full
      · exact .inl ⟨strays, comment, .inr early⟩
      · exact .inr full
    · have many := Nat.lt_of_not_le few
      rw [lineStep_many comment many] at stopped
      exact .inl ⟨(Except.error.inj stopped).symm, comment, .inl many⟩

theorem Overflows.strays (overflows : Overflows state line) :
    lineStep state line = .error .strays := by
  obtain ⟨noComment, many | ⟨empty, other, offset, dwords, found, some⟩⟩ := overflows
  · exact lineStep_many noComment many
  · by_cases few : (piecesOf line).length ≤ dataLenInLine
    · rw [lineStep_eq noComment few]
      exact stepFields_strays empty other found some (fields_filled found)
    · exact lineStep_many noComment (Nat.lt_of_not_le few)

theorem Agrees.run (agrees : Agrees state file)
    (ran : lines.foldlM lineStep state = .ok final) :
    Agrees final (lines.foldl (readLine piecesOf) file) := by
  have kept : ∀ {past now line after}, Agrees now (past.foldl (readLine piecesOf) file) →
      lineStep now line = .ok after →
        Agrees after ((past ++ [line]).foldl (readLine piecesOf) file) := by
    intro past now line after before moved
    rw [foldl_append]
    exact before.read moved
  exact @foldlM_rule _ _ _ _ (fun past now => Agrees now (past.foldl (readLine piecesOf) file))
    kept _ _ _ agrees ran

theorem Many.add {fields : Option (UInt16 × List UInt32)} (many : Many file.sections) :
    Many (addFields file fields).sections := by
  have longer : ∀ more, Many (file.sections ++ more) := by
    intro more
    rcases many with many | ⟨sect, listed, long⟩
    · apply Or.inl
      rw [length_append]
      exact Nat.lt_of_lt_of_le many (Nat.le_add_right _ _)
    · exact .inr ⟨sect, mem_append_left _ listed, long⟩
  unfold addFields
  split
  · exact many
  · split
    · split
      · exact many
      · exact longer _
    · split
      · exact many
      · split
        · exact many
        · rename_i sect here
          have whole := dropLast_append_getLast? sect here
          rw [← whole] at many
          rcases many with many | ⟨found, listed, long⟩
          · apply Or.inl
            rw [length_append, length_singleton] at many ⊢
            exact many
          · apply Or.inr
            rcases List.mem_append.mp listed with early | last
            · exact ⟨found, mem_append_left _ early, long⟩
            · obtain rfl := List.mem_singleton.mp last
              refine ⟨_, mem_append_right _ (List.mem_singleton.mpr rfl), ?_⟩
              rw [length_append]
              exact Nat.lt_of_lt_of_le long (Nat.le_add_right _ _)

theorem Many.run {cut : List UInt8 → List (List UInt8)} (many : Many file.sections) :
    Many (lines.foldl (readLine cut) file).sections := by
  induction lines generalizing file with
  | nil => exact many
  | cons line rest ih =>
    apply ih
    unfold readLine
    split
    · exact many
    · exact many.add

theorem Agrees.rejected (agrees : Agrees state file)
    (stopped : lines.foldlM lineStep state = .error .rejected) :
    Many (lines.foldl (readLine piecesOf) file).sections := by
  obtain ⟨past, line, rest, after, rfl, ran, here⟩ := foldlM_eq_error_iff.mp stopped
  rw [foldl_append, foldl_cons]
  apply Many.run
  rcases (agrees.run ran).read_error here with strays | full
  · cases strays.1
  · exact full.2

theorem Agrees.few (agrees : Agrees state file) : ¬ Many file.sections := by
  rw [← agrees.sections]
  rintro (many | ⟨sect, listed, many⟩)
  · rw [Config.entries, length_map] at many
    exact Nat.not_le.mpr many state.1.fits
  · obtain ⟨stored, -, rfl⟩ := List.mem_map.mp listed
    exact Nat.not_le.mpr many stored.fits

theorem lineStep_expCrc {next : Config × UInt8} (moved : lineStep state line = .ok next) :
    next.1.expCrc = state.1.expCrc := by
  unfold lineStep at moved
  split at moved
  · cases moved
    rfl
  · obtain ⟨found, taken, rfl⟩ := map_eq_ok_iff.mp moved
    unfold dataLine at taken
    dsimp only at taken
    split at taken
    · cases taken
    · split at taken
      · cases taken
        rfl
      · split at taken
        · cases taken
          rfl
        · obtain ⟨after, ran, rfl⟩ := map_eq_ok_iff.mp taken
          exact storeDwords_expCrc ran

theorem lines_expCrc (ran : lines.foldlM lineStep state = .ok final) :
    final.1.expCrc = state.1.expCrc := by
  have kept : ∀ {now : Config × UInt8} {line next}, now.1.expCrc = state.1.expCrc →
      lineStep now line = .ok next → next.1.expCrc = state.1.expCrc :=
    fun before moved => (lineStep_expCrc moved).trans before
  exact @foldlM_keeps _ _ _ _ (fun now => now.1.expCrc = state.1.expCrc) kept _ _ _ rfl ran

end Files

/-! ## Images that are parsed right -/

section Images

variable {image : List UInt8} {config : Config}

theorem agrees_start (expCrc : UInt32) :
    Agrees ({ Config.cleared with expCrc }, 0) ⟨[], false⟩ := ⟨rfl, rfl⟩

theorem header_error {stop : ParseStop}
    (stopped : header (image.length + 1) 0 image = .error stop) :
    ∃ state, ComesTo image state ∧ ReadsPast state := by
  have front : ∃ last, Comes parseRound ⟨Config.cleared, 0, false, image⟩ last ∧
      HeaderDone ⟨Config.cleared, 0, false, image⟩ last (header (image.length + 1) 0 image) :=
    ends_header (Nat.lt_succ_self image.length) rfl
  obtain ⟨last, comes, done⟩ := front
  rw [stopped] at done
  exact ⟨last, comes, done.1⟩

theorem ReadsPast.strays {state : ParseState} (reads : ReadsPast state)
    (comes : ComesTo image state) : linesFile image = .error .strays := by
  have ended := (loop_eq_some_iff (parseFile_isSome image)).mpr ⟨state, comes, reads.ends⟩
  exact Option.some.inj ((parseFile_eq image).symm.trans ended)

def linesRun (image : List UInt8) : Except ParseStop (Config × UInt8) :=
  (linesOf image).foldlM lineStep ({ Config.cleared with expCrc := (dataOf image).1 }, 0)

theorem linesFile_eq {found : UInt32 × Option (List UInt8)}
    (front : header (image.length + 1) 0 image = .ok found) :
    linesFile image =
      match linesRun image with
      | .error stop => .error stop
      | .ok (config, _) =>
        if afterLines (dataOf image).2 = [] ∨ AtEnd (afterLines (dataOf image).2) then
          conclude config
        else .error .rejected := by
  obtain ⟨expCrc, data⟩ := found
  unfold linesFile linesRun linesOf dataOf
  rw [front]
  cases data with
  | none => rfl
  | some text => rfl

theorem conclude_inside : conclude config ≠ .error .strays := by
  unfold conclude
  split <;> simp

/-- The parser leaves its buffers where it comes to a checksum that is read past the end, or to a
line that has too many pieces, or data for no section. -/
theorem inside_iff : linesFile image ≠ .error .strays ↔
    (∀ state, ComesTo image state → ¬ ReadsPast state) ∧
      ∀ state line, ComesToLine image state line → ¬ Overflows state line := by
  constructor
  · intro inside
    have checksum : ∀ state, ComesTo image state → ¬ ReadsPast state :=
      fun state comes reads => inside (reads.strays comes)
    apply And.intro checksum
    rintro state line ⟨past, rest, parts, ran⟩ overflows
    have stopped : linesRun image = .error .strays :=
      foldlM_eq_error_iff.mpr ⟨past, line, rest, state, parts, ran, overflows.strays⟩
    cases front : header (image.length + 1) 0 image with
    | error stop =>
      obtain ⟨last, comes, reads⟩ := header_error front
      exact checksum last comes reads
    | ok found =>
      apply inside
      rw [linesFile_eq front, stopped]
  · rintro ⟨checksum, lines⟩ strays
    cases front : header (image.length + 1) 0 image with
    | error stop =>
      obtain ⟨last, comes, reads⟩ := header_error front
      exact checksum last comes reads
    | ok found =>
      rw [linesFile_eq front] at strays
      cases run : linesRun image with
      | ok final =>
        rw [run] at strays
        dsimp only at strays
        split at strays
        · exact conclude_inside strays
        · cases strays
      | error stop =>
        rw [run] at strays
        obtain rfl := Except.error.inj strays
        obtain ⟨past, line, rest, after, parts, ran, stopped⟩ := foldlM_eq_error_iff.mp run
        have agrees := (agrees_start (dataOf image).1).run ran
        rcases agrees.read_error stopped with overflow | full
        · exact lines after line ⟨past, rest, parts, ran⟩ overflow.2
        · cases full.1

/-- What the parser has when it succeeds. -/
structure Taken (image : List UInt8) (config : Config) : Prop where
  sections : config.entries = (fileOf piecesOf image).sections
  accepted : ¬ Refused image

/-- The parser rejects what is refused, and succeeds with everything else. -/
theorem refused_or_taken (inside : linesFile image ≠ .error .strays) :
    (Refused image ∧ linesFile image = .error .rejected) ∨
      ∃ config, linesFile image = .ok config ∧ Taken image config := by
  cases front : header (image.length + 1) 0 image with
  | error stop =>
    obtain ⟨last, comes, reads⟩ := header_error front
    exact absurd (reads.strays comes) inside
  | ok found =>
    rw [linesFile_eq front] at inside ⊢
    cases run : linesRun image with
    | error stop =>
      rw [run] at inside
      cases stop with
      | strays => exact absurd rfl inside
      | rejected =>
        have many : Many (fileOf piecesOf image).sections :=
          (agrees_start (dataOf image).1).rejected run
        exact .inl ⟨.inr (.inl many), rfl⟩
    | ok final =>
      have agrees : Agrees final (fileOf piecesOf image) :=
        (agrees_start (dataOf image).1).run run
      have expCrc : final.1.expCrc = (dataOf image).1 := lines_expCrc run
      dsimp only
      by_cases ended : afterLines (dataOf image).2 = [] ∨ AtEnd (afterLines (dataOf image).2)
      · rw [if_pos ended, conclude, expCrc]
        by_cases zero : (dataOf image).1 = 0
        · rw [if_pos zero]
          exact .inl ⟨.inl zero, rfl⟩
        · rw [if_neg zero]
          refine .inr ⟨final.1, rfl, agrees.sections, ?_⟩
          rintro (none | many | unended)
          · exact zero none
          · exact agrees.few many
          · exact unended ended
      · rw [if_neg ended]
        exact .inl ⟨.inr (.inr ended), rfl⟩

theorem Taken.ranges_iff (taken : Taken image config) :
    (∀ range ∈ (checkImageCrc config).1, range.Inside) ↔
      SectionsSound ((fileOf piecesOf image).sections.map FileSect.data) := by
  rw [← taken.sections, Config.entries, List.map_map]
  exact ranges_inside_iff

end Images

end OpenBic.Xdpe15284
