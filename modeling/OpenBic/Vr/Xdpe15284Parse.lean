import OpenBic.Library.Lines
import OpenBic.Library.Rounds
import OpenBic.Library.Walk
import OpenBic.Vr.Xdpe15284

/-!
# The image file of an XDPE15284

`xdpe15284_line_split` and `xdpe15284_parse_file` of `xdpe15284.c`. The parser cuts a line into
words where it lies in the image, and goes on behind the line, or behind the first character of a
line of which it takes nothing. What it makes of a file is a fold over the lines.
-/

namespace OpenBic.Xdpe15284

open List Library Library.Hex Library.Reading Library.Rounds Library.Walk

/-! ## The code -/

def checksumField : List UInt8 := "Checksum : 0x".toUTF8.toList

def dataStartTag : List UInt8 := "[Configuration Data]".toUTF8.toList

def dataEndTag : List UInt8 := "[End Configuration Data]".toUTF8.toList

def dataComment : List UInt8 := "//".toUTF8.toList

def sectTrim : UInt8 := 0x02

def dataLenInLine : Nat := 5

def crAscii : UInt8 := 0x0D

def newLineAscii : UInt8 := 0x0A

def spaceAscii : UInt8 := 0x20

/-- Why the parser stops. -/
inductive ParseStop where
  | strays
  | rejected
deriving DecidableEq

/-- `strtol` with base 16, where a `long` has 32 bits. -/
def strtol (text : List UInt8) : Int := max (-2 ^ 31) (min (numeral text) (2 ^ 31 - 1))

/-- `strtoul` with base 16, where an `unsigned long` has 32 bits. -/
def strtoul (text : List UInt8) : UInt32 :=
  if (numeral text).natAbs < 2 ^ 32 then UInt32.ofInt (numeral text) else 0xFFFFFFFF

/-- Whether a number is read up to the end of a text, and the character behind it, too. -/
def readsPast (text : List UInt8) : Bool :=
  let digits := match text.dropWhile isSpace with
    | 0x2D :: rest => rest
    | 0x2B :: rest => rest
    | rest => rest
  let whole := match digits with
    | [0x30, mark] => mark == 0x78 || mark == 0x58
    | _ => false
  whole || (dropPrefix digits).all fun char => (digitValue char).isSome

/-- `xdpe15284_line_split`: the tokens, so many at most, and the line in which they are cut off from
each other. -/
def lineSplit : Nat → List UInt8 → List (List UInt8) × List UInt8
  | 0, line => ([], line)
  | more + 1, line =>
    if line = [] then ([], [])
    else if spaceAscii ∈ line then
      let token := line.takeWhile (· ≠ spaceAscii)
      let found := lineSplit more ((line.dropWhile (· ≠ spaceAscii)).drop 1)
      (token :: found.1, token ++ 0 :: found.2)
    else if crAscii ∈ line then
      let token := line.takeWhile (· ≠ crAscii)
      ([token], token ++ 0 :: (line.dropWhile (· ≠ crAscii)).drop 1)
    else ([], line)

def storeDword (config : Config) (dword : UInt32) : Except ParseStop Config :=
  match last : config.sections.getLast? with
  -- there is no section before the first one
  | none => .error .strays
  | some sect =>
    if room : sect.data.length < maxSectDataNum then
      .ok {
        totalCnt := config.totalCnt + 1
        expCrc := config.expCrc
        sections := config.sections.dropLast ++
          [⟨sect.type, sect.data ++ [dword], by rw [length_append]; exact room⟩]
        fits := by
          have some : config.sections ≠ [] := by
            intro none
            rw [none] at last
            cases last
          have filled := List.length_pos_iff.mpr some
          have fits := config.fits
          rw [length_append, length_dropLast, length_singleton]
          omega }
    else .error .rejected

def startSection (config : Config) (type : UInt8) : Except ParseStop Config :=
  if room : config.sections.length < maxSectNum then
    .ok { config with
      sections := config.sections ++ [⟨type, [], Nat.zero_le _⟩]
      fits := by rw [length_append]; exact room }
  else .error .rejected

def storeDwords (offset : UInt16) (dwords : List UInt32) (config : Config) (sectType : UInt8) :
    Except ParseStop (Config × UInt8) :=
  match dwords with
  | [] => .ok (config, sectType)
  | dword :: rest =>
    if offset = 0 then
      if dword.toUInt8 = sectTrim then .ok (config, sectTrim)
      else
        match startSection config dword.toUInt8 with
        | .error stop => .error stop
        | .ok started =>
          ((dword :: rest).foldlM storeDword started).map fun after => (after, dword.toUInt8)
    else ((dword :: rest).foldlM storeDword config).map fun after => (after, sectType)

/-- The variables of the parser. -/
structure ParseState where
  config : Config
  sectType : UInt8
  isData : Bool
  /-- The image from `buf_index` on. -/
  text : List UInt8

/-- What the parser takes of a line that is no comment: nothing, where it goes on behind its first
character, or what it stores. -/
def dataLine (config : Config) (sectType : UInt8) (line : List UInt8) :
    Except ParseStop (Option (Config × UInt8)) :=
  let tokens := (lineSplit (dataLenInLine + 1) line).1
  if dataLenInLine < tokens.length then .error .strays
  else
    match tokens with
    | [] => .ok none
    | token :: others =>
      let offset := UInt16.ofInt (strtol token)
      if sectType = sectTrim ∧ offset ≠ 0 then .ok none
      else (storeDwords offset (others.map strtoul) config sectType).map some

def conclude (config : Config) : Except ParseStop Config :=
  if config.expCrc = 0 then .error .rejected else .ok config

/-- The text is at the end of a section. -/
def AtEnd (text : List UInt8) : Prop :=
  dataEndTag.length < text.length ∧ text.take dataEndTag.length = dataEndTag

instance (text : List UInt8) : Decidable (AtEnd text) := inferInstanceAs (Decidable (_ ∧ _))

def lineOf (text : List UInt8) : List UInt8 := text.takeWhile (· ≠ newLineAscii)

def behindLine (text : List UInt8) : List UInt8 := (text.dropWhile (· ≠ newLineAscii)).drop 1

/-- A round of the loop of `xdpe15284_parse_file`. -/
def parseRound (state : ParseState) : Round ParseState (Except ParseStop Config) :=
  match state.text with
  | [] => .ends (conclude state.config)
  | char :: rest =>
    if state.isData then
      if AtEnd (char :: rest) then .ends (conclude state.config)
      else if newLineAscii ∉ char :: rest then .ends (.error .rejected)
      else
        let line := lineOf (char :: rest)
        let behind := behindLine (char :: rest)
        if (char :: rest).take dataComment.length = dataComment then
          .next { state with text := behind }
        else
          match dataLine state.config state.sectType line with
          | .error stop => .ends (.error stop)
          | .ok none => .next { state with
              text := ((lineSplit (dataLenInLine + 1) line).2 ++ newLineAscii :: behind).drop 1 }
          | .ok (some (config, sectType)) => .next { state with config, sectType, text := behind }
    else if checksumField.length < (char :: rest).length ∧
        (char :: rest).take checksumField.length = checksumField then
      let field := (char :: rest).drop checksumField.length
      if readsPast field then .ends (.error .strays)
      else .next { state with
        config := { state.config with expCrc := strtoul field }
        text := field.drop 1 }
    else if dataStartTag.length < (char :: rest).length ∧
        (char :: rest).take dataStartTag.length = dataStartTag then
      .next { state with isData := true, text := (char :: rest).drop (dataStartTag.length + 1) }
    else .next { state with text := rest }

/-- The configuration that `xdpe15284_fwupdate` allocates. -/
def Config.cleared : Config := ⟨0, 0, [], Nat.zero_le _⟩

/-- `xdpe15284_parse_file`. Each character has a round at most. -/
def parseFile (image : List UInt8) : Option (Except ParseStop Config) :=
  loop parseRound (image.length + 1) ⟨Config.cleared, 0, false, image⟩

/-! ## The file as lines -/

def lineStep (state : Config × UInt8) (line : List UInt8) :
    Except ParseStop (Config × UInt8) :=
  if line.take dataComment.length = dataComment then .ok state
  else (dataLine state.1 state.2 line).map (·.getD state)

def takeDataLine : Taker (List UInt8) := fun text =>
  if AtEnd text then none
  else if newLineAscii ∈ text then some (lineOf text, behindLine text)
  else none

def dataLines (text : List UInt8) : List (List UInt8) :=
  (pieces takeDataLine (text.length + 1) text).1

def afterLines (text : List UInt8) : List UInt8 := (pieces takeDataLine (text.length + 1) text).2

/-- The checksum and the data of an image, so many characters at most. -/
def header : Nat → UInt32 → List UInt8 → Except ParseStop (UInt32 × Option (List UInt8))
  | 0, expCrc, _ => .ok (expCrc, none)
  | _ + 1, expCrc, [] => .ok (expCrc, none)
  | fuel + 1, expCrc, char :: rest =>
    if checksumField.length < (char :: rest).length ∧
        (char :: rest).take checksumField.length = checksumField then
      let field := (char :: rest).drop checksumField.length
      if readsPast field then .error .strays
      else header fuel (strtoul field) (field.drop 1)
    else if dataStartTag.length < (char :: rest).length ∧
        (char :: rest).take dataStartTag.length = dataStartTag then
      .ok (expCrc, some ((char :: rest).drop (dataStartTag.length + 1)))
    else header fuel expCrc rest

def linesFile (image : List UInt8) : Except ParseStop Config :=
  match header (image.length + 1) 0 image with
  | .error stop => .error stop
  | .ok (expCrc, none) => conclude { Config.cleared with expCrc }
  | .ok (expCrc, some text) =>
    match (dataLines text).foldlM lineStep ({ Config.cleared with expCrc }, 0) with
    | .error stop => .error stop
    | .ok (config, _) =>
      if afterLines text = [] ∨ AtEnd (afterLines text) then conclude config
      else .error .rejected

/-! ## Lines and their tokens -/

section Lines

variable {text line behind : List UInt8} {more : Nat}

theorem text_eq (listed : newLineAscii ∈ text) :
    lineOf text ++ newLineAscii :: behindLine text = text := Lines.split_at listed

theorem not_mem_lineOf (text : List UInt8) : newLineAscii ∉ lineOf text :=
  Lines.not_mem_front _ text

theorem length_lineSplit (more : Nat) (line : List UInt8) :
    (lineSplit more line).2.length ≤ line.length := by
  fun_induction lineSplit more line with
  | case1 line => exact le_rfl
  | case2 => exact le_rfl
  | case3 more line _ listed token found ih =>
    have sized := Lines.length_split listed
    dsimp only [token, found]
    rw [length_append, length_cons]
    omega
  | case4 more line _ _ listed token =>
    have sized := Lines.length_split listed
    dsimp only [token]
    rw [length_append, length_cons]
    omega
  | case5 => exact le_rfl

theorem mem_lineSplit {char : UInt8} (some : char ≠ 0) (listed : char ∈ (lineSplit more line).2) :
    char ∈ line := by
  fun_induction lineSplit more line with
  | case1 line => exact listed
  | case2 => cases listed
  | case3 more line _ _ token found ih =>
    rcases List.mem_append.mp listed with early | later
    · exact takeWhile_subset _ early
    · rcases List.mem_cons.mp later with zero | later
      · exact absurd zero some
      · exact Lines.mem_of_mem_behind (ih later)
  | case4 more line _ _ _ token =>
    rcases List.mem_append.mp listed with early | later
    · exact takeWhile_subset _ early
    · rcases List.mem_cons.mp later with zero | later
      · exact absurd zero some
      · exact Lines.mem_of_mem_behind later
  | case5 => exact listed

theorem space_lineSplit (few : (lineSplit more line).1.length < more) :
    spaceAscii ∉ (lineSplit more line).2 := by
  fun_induction lineSplit more line with
  | case1 line => exact absurd few (Nat.not_lt_zero _)
  | case2 => simp
  | case3 more line _ _ token found ih =>
    have later := ih (Nat.lt_of_succ_lt_succ few)
    rw [mem_append, mem_cons]
    rintro (early | zero | behind)
    · exact Lines.not_mem_front _ _ early
    · cases zero
    · exact later behind
  | case4 more line _ noSpace _ token =>
    rw [mem_append, mem_cons]
    rintro (early | zero | behind)
    · exact noSpace (takeWhile_subset _ early)
    · cases zero
    · exact noSpace (Lines.mem_of_mem_behind behind)
  | case5 more line _ noSpace => exact noSpace

theorem tokens_le_one (noSpace : spaceAscii ∉ line) : (lineSplit more line).1.length ≤ 1 := by
  fun_induction lineSplit more line with
  | case1 line => exact Nat.zero_le _
  | case2 => exact Nat.zero_le _
  | case3 more line _ listed => exact absurd listed noSpace
  | case4 => exact le_rfl
  | case5 => exact Nat.zero_le _

end Lines

/-! ## Rounds -/

section Rounds

variable {state next : ParseState} {line behind : List UInt8} {config : Config} {sectType : UInt8}

theorem parseRound_data (data : state.isData = true) (some : state.text ≠ []) :
    parseRound state =
      if AtEnd state.text then .ends (conclude state.config)
      else if newLineAscii ∉ state.text then .ends (.error .rejected)
      else if state.text.take dataComment.length = dataComment then
        .next { state with text := behindLine state.text }
      else
        match dataLine state.config state.sectType (lineOf state.text) with
        | .error stop => .ends (.error stop)
        | .ok none => .next { state with
            text := ((lineSplit (dataLenInLine + 1) (lineOf state.text)).2 ++
              newLineAscii :: behindLine state.text).drop 1 }
        | .ok (Option.some (config, sectType)) =>
          .next { state with config, sectType, text := behindLine state.text } := by
  unfold parseRound
  cases whole : state.text with
  | nil => exact absurd whole some
  | cons char rest =>
    dsimp only
    rw [if_pos data]

theorem length_cut (listed : newLineAscii ∈ state.text) :
    (((lineSplit (dataLenInLine + 1) (lineOf state.text)).2 ++
      newLineAscii :: behindLine state.text).drop 1).length < state.text.length := by
  have cut := length_lineSplit (dataLenInLine + 1) (lineOf state.text)
  have whole := congrArg List.length (text_eq listed)
  rw [length_append, length_cons] at whole
  rw [length_drop, length_append, length_cons]
  omega

/-- A round goes on behind a character at least. -/
theorem shorter_next (moved : parseRound state = .next next) :
    next.text.length < state.text.length := by
  cases whole : state.text with
  | nil =>
    unfold parseRound at moved
    rw [whole] at moved
    cases moved
  | cons char rest =>
    rw [← whole]
    have filled : state.text ≠ [] := by
      rw [whole]
      simp
    have some := List.length_pos_iff.mpr filled
    cases data : state.isData with
    | true =>
      rw [parseRound_data data filled] at moved
      split at moved
      · cases moved
      · split at moved
        · cases moved
        · rename_i listed
          have sized := congrArg List.length (text_eq (not_not.mp listed))
          rw [length_append, length_cons] at sized
          have behind : (behindLine state.text).length < state.text.length := by omega
          split at moved
          · obtain rfl := Round.next.inj moved
            exact behind
          · split at moved
            · cases moved
            · obtain rfl := Round.next.inj moved
              exact length_cut (not_not.mp listed)
            · obtain rfl := Round.next.inj moved
              exact behind
    | false =>
      unfold parseRound at moved
      rw [whole, data] at moved
      rw [whole] at some ⊢
      simp only [Bool.false_eq_true, if_false] at moved
      split at moved
      · split at moved
        · cases moved
        · obtain rfl := Round.next.inj moved
          rw [length_drop, length_drop]
          omega
      · split at moved
        · obtain rfl := Round.next.inj moved
          rw [length_drop]
          omega
        · obtain rfl := Round.next.inj moved
          exact Nat.lt_succ_self _

theorem parseFile_isSome (image : List UInt8) : (parseFile image).isSome :=
  loop_isSome (fun _ => True) (fun _ _ => trivial) (fun _ moved => shorter_next moved) trivial
    (Nat.lt_succ_self _)

theorem not_atEnd (noSpace : spaceAscii ∉ line) : ¬ AtEnd (line ++ newLineAscii :: behind) := by
  rintro ⟨-, tagged⟩
  have clean : newLineAscii ∉ dataEndTag := by decide +kernel
  have space : spaceAscii ∈ dataEndTag := by decide +kernel
  rw [Lines.take_line clean] at tagged
  rw [← tagged] at space
  exact noSpace (mem_of_mem_take space)

theorem take_comment (line behind : List UInt8) :
    (line ++ newLineAscii :: behind).take dataComment.length = dataComment ↔
      line.take dataComment.length = dataComment :=
  Lines.take_line (by decide +kernel)

theorem dataLine_of_le_one (few : (lineSplit (dataLenInLine + 1) line).1.length ≤ 1) :
    dataLine config sectType line = .ok none ∨
      dataLine config sectType line = .ok (some (config, sectType)) := by
  unfold dataLine
  rw [if_neg (Nat.not_lt.mpr (Nat.le_trans few (by decide)))]
  cases tokens : (lineSplit (dataLenInLine + 1) line).1 with
  | nil => exact .inl rfl
  | cons token others =>
    rw [tokens, length_cons] at few
    obtain rfl : others = [] := List.length_eq_zero_iff.mp (by omega)
    dsimp only
    split
    · exact .inl rfl
    · exact .inr rfl

theorem parseRound_line (data : state.isData = true) (clean : newLineAscii ∉ line)
    (whole : state.text = line ++ newLineAscii :: behind) (noEnd : ¬ AtEnd state.text) :
    parseRound state =
      if line.take dataComment.length = dataComment then .next { state with text := behind }
      else
        match dataLine state.config state.sectType line with
        | .error stop => .ends (.error stop)
        | .ok none => .next { state with
            text := ((lineSplit (dataLenInLine + 1) line).2 ++ newLineAscii :: behind).drop 1 }
        | .ok (some (config, sectType)) =>
          .next { state with config, sectType, text := behind } := by
  have filled : state.text ≠ [] := by
    rw [whole]
    simp
  have listed : newLineAscii ∈ state.text := by
    rw [whole]
    exact mem_append_right _ mem_cons_self
  have here : lineOf state.text = line := by
    rw [whole]
    exact Lines.front_append clean
  have rest : behindLine state.text = behind := by
    rw [whole]
    exact Lines.behind_append clean
  rw [parseRound_data data filled, if_neg noEnd, if_neg (not_not.mpr listed), here, rest]
  simp only [whole, take_comment]

theorem comes_behind (data : state.isData = true) (clean : newLineAscii ∉ line)
    (whole : state.text = line ++ newLineAscii :: behind) (noEnd : ¬ AtEnd state.text)
    {after : Config × UInt8}
    (taken : line.take dataComment.length = dataComment ∧
        after = (state.config, state.sectType) ∨
      ¬ line.take dataComment.length = dataComment ∧
        dataLine state.config state.sectType line = .ok (some after)) :
    Comes parseRound state
      { state with config := after.1, sectType := after.2, text := behind } := by
  apply Relation.ReflTransGen.single
  rw [parseRound_line data clean whole noEnd]
  rcases taken with ⟨comment, rfl⟩ | ⟨noComment, stored⟩
  · rw [if_pos comment]
  · rw [if_neg noComment, stored]

theorem comes_cut (data : state.isData = true) (clean : newLineAscii ∉ line)
    (whole : state.text = line ++ newLineAscii :: behind) (noEnd : ¬ AtEnd state.text)
    (noComment : ¬ line.take dataComment.length = dataComment)
    (none : dataLine state.config state.sectType line = .ok none) :
    Comes parseRound state { state with
      text := ((lineSplit (dataLenInLine + 1) line).2 ++ newLineAscii :: behind).drop 1 } := by
  apply Relation.ReflTransGen.single
  rw [parseRound_line data clean whole noEnd, if_neg noComment, none]

/-- The parser goes on behind a line without a space. -/
theorem comes_skip (data : state.isData = true) (clean : newLineAscii ∉ line)
    (noSpace : spaceAscii ∉ line) (whole : state.text = line ++ newLineAscii :: behind) :
    Comes parseRound state { state with text := behind } := by
  induction size : line.length using Nat.strong_induction_on generalizing line state with
  | _ size ih =>
    have noEnd : ¬ AtEnd state.text := by
      rw [whole]
      exact not_atEnd noSpace
    by_cases comment : line.take dataComment.length = dataComment
    · exact comes_behind data clean whole noEnd (.inl ⟨comment, rfl⟩)
    · have few : (lineSplit (dataLenInLine + 1) line).1.length ≤ 1 := tokens_le_one noSpace
      have taken : dataLine state.config state.sectType line = .ok none ∨
          dataLine state.config state.sectType line =
            .ok (some (state.config, state.sectType)) := dataLine_of_le_one few
      rcases taken with none | stored
      · have moved := comes_cut data clean whole noEnd comment none
        have less := length_lineSplit (dataLenInLine + 1) line
        have feed : newLineAscii ∉ (lineSplit (dataLenInLine + 1) line).2 :=
          fun inside => clean (mem_lineSplit (by decide) inside)
        have blank : spaceAscii ∉ (lineSplit (dataLenInLine + 1) line).2 :=
          fun inside => noSpace (mem_lineSplit (by decide) inside)
        cases cut : (lineSplit (dataLenInLine + 1) line).2 with
        | nil =>
          rw [cut] at moved
          exact moved
        | cons char tail =>
          rw [cut] at moved feed blank less
          rw [length_cons] at less
          have later : Comes parseRound { state with text := tail ++ newLineAscii :: behind }
              { state with text := behind } :=
            ih tail.length (by omega) data (fun inside => feed (mem_cons_of_mem _ inside))
              (fun inside => blank (mem_cons_of_mem _ inside)) rfl rfl
          exact moved.trans later
      · exact comes_behind data clean whole noEnd (.inr ⟨comment, stored⟩)

theorem comes_line (data : state.isData = true) (clean : newLineAscii ∉ line)
    (whole : state.text = line ++ newLineAscii :: behind) (noEnd : ¬ AtEnd state.text)
    {after : Config × UInt8}
    (stepped : lineStep (state.config, state.sectType) line = .ok after) :
    Comes parseRound state
      { state with config := after.1, sectType := after.2, text := behind } := by
  unfold lineStep at stepped
  split at stepped
  · rename_i comment
    exact comes_behind data clean whole noEnd (.inl ⟨comment, (Except.ok.inj stepped).symm⟩)
  · rename_i noComment
    obtain ⟨found, taken, rfl⟩ := map_eq_ok_iff.mp stepped
    cases found with
    | some stored => exact comes_behind data clean whole noEnd (.inr ⟨noComment, taken⟩)
    | none =>
      have few : (lineSplit (dataLenInLine + 1) line).1.length < dataLenInLine + 1 := by
        unfold dataLine at taken
        dsimp only at taken
        split at taken
        · cases taken
        · omega
      have moved := comes_cut data clean whole noEnd noComment taken
      have feed : newLineAscii ∉ (lineSplit (dataLenInLine + 1) line).2 :=
        fun inside => clean (mem_lineSplit (by decide) inside)
      have blank := space_lineSplit few
      cases cut : (lineSplit (dataLenInLine + 1) line).2 with
      | nil =>
        rw [cut] at moved
        exact moved
      | cons char tail =>
        rw [cut] at moved feed blank
        have later : Comes parseRound { state with text := tail ++ newLineAscii :: behind }
            { state with text := behind } :=
          comes_skip data (fun inside => feed (mem_cons_of_mem _ inside))
            (fun inside => blank (mem_cons_of_mem _ inside)) rfl
        exact moved.trans later

theorem ends_line (data : state.isData = true) (clean : newLineAscii ∉ line)
    (whole : state.text = line ++ newLineAscii :: behind) (noEnd : ¬ AtEnd state.text)
    {stop : ParseStop} (stepped : lineStep (state.config, state.sectType) line = .error stop) :
    parseRound state = .ends (.error stop) := by
  unfold lineStep at stepped
  split at stepped
  · cases stepped
  · rename_i noComment
    rw [parseRound_line data clean whole noEnd, if_neg noComment, map_eq_error_iff.mp stepped]

theorem takeDataLine_some {text : List UInt8} {found : List UInt8 × List UInt8}
    (taken : takeDataLine text = some found) :
    ¬ AtEnd text ∧ newLineAscii ∉ found.1 ∧ text = found.1 ++ newLineAscii :: found.2 := by
  unfold takeDataLine at taken
  split at taken
  · cases taken
  · rename_i noEnd
    split at taken
    · rename_i listed
      cases taken
      exact ⟨noEnd, not_mem_lineOf text, (text_eq listed).symm⟩
    · cases taken

/-- What the parser makes of the lines of the data. -/
theorem comes_lines {fuel : Nat} (enough : state.text.length < fuel) (data : state.isData = true)
    {after : Config × UInt8}
    (ran : (pieces takeDataLine fuel state.text).1.foldlM lineStep (state.config, state.sectType) =
      .ok after) :
    Comes parseRound state { state with
      config := after.1
      sectType := after.2
      text := (pieces takeDataLine fuel state.text).2 } := by
  induction fuel generalizing state with
  | zero => exact absurd enough (Nat.not_lt_zero _)
  | succ fuel ih =>
    unfold pieces at ran ⊢
    cases taken : takeDataLine state.text with
    | none =>
      rw [taken] at ran
      cases ran
      exact Comes.refl state
    | some found =>
      rw [taken] at ran
      obtain ⟨noEnd, clean, whole⟩ := takeDataLine_some taken
      cases stepped : lineStep (state.config, state.sectType) found.1 with
      | error stop =>
        rw [foldlM_cons_error stepped] at ran
        cases ran
      | ok next =>
        rw [foldlM_cons_ok stepped] at ran
        have less : found.2.length < fuel := by
          rw [whole, length_append, length_cons] at enough
          omega
        have moved := comes_line data clean whole noEnd stepped
        have later : Comes parseRound
            { state with config := next.1, sectType := next.2, text := found.2 }
            { state with
              config := after.1
              sectType := after.2
              text := (pieces takeDataLine fuel found.2).2 } :=
          ih less data ran
        exact moved.trans later

/-- Where the parser stops in the lines of the data. -/
theorem ends_lines {fuel : Nat} (enough : state.text.length < fuel) (data : state.isData = true)
    {stop : ParseStop}
    (stopped : (pieces takeDataLine fuel state.text).1.foldlM lineStep
      (state.config, state.sectType) = .error stop) :
    ∃ last, Comes parseRound state last ∧ parseRound last = .ends (.error stop) := by
  induction fuel generalizing state with
  | zero => exact absurd enough (Nat.not_lt_zero _)
  | succ fuel ih =>
    unfold pieces at stopped
    cases taken : takeDataLine state.text with
    | none =>
      rw [taken] at stopped
      cases stopped
    | some found =>
      rw [taken] at stopped
      obtain ⟨noEnd, clean, whole⟩ := takeDataLine_some taken
      cases stepped : lineStep (state.config, state.sectType) found.1 with
      | error other =>
        rw [foldlM_cons_error stepped] at stopped
        obtain rfl := Except.error.inj stopped
        exact ⟨state, Comes.refl state, ends_line data clean whole noEnd stepped⟩
      | ok next =>
        rw [foldlM_cons_ok stepped] at stopped
        have less : found.2.length < fuel := by
          rw [whole, length_append, length_cons] at enough
          omega
        have moved := comes_line data clean whole noEnd stepped
        have later : ∃ last, Comes parseRound
            { state with config := next.1, sectType := next.2, text := found.2 } last ∧
            parseRound last = .ends (.error stop) := ih less data stopped
        obtain ⟨last, comes, ended⟩ := later
        exact ⟨last, moved.trans comes, ended⟩

theorem ends_left (data : state.isData = true) (stops : takeDataLine state.text = none) :
    parseRound state = .ends (if state.text = [] ∨ AtEnd state.text then conclude state.config
      else .error .rejected) := by
  by_cases nothing : state.text = []
  · rw [if_pos (.inl nothing)]
    unfold parseRound
    rw [nothing]
  · rw [parseRound_data data nothing]
    unfold takeDataLine at stops
    by_cases atEnd : AtEnd state.text
    · rw [if_pos atEnd, if_pos (.inr atEnd)]
    · rw [if_neg atEnd, if_neg (not_or.mpr ⟨nothing, atEnd⟩)]
      rw [if_neg atEnd] at stops
      split at stops
      · cases stops
      · rename_i noFeed
        rw [if_pos noFeed]

theorem ends_data (data : state.isData = true) :
    ∃ last, Comes parseRound state last ∧ parseRound last = .ends
      (match (dataLines state.text).foldlM lineStep (state.config, state.sectType) with
      | .error stop => .error stop
      | .ok (config, _) =>
        if afterLines state.text = [] ∨ AtEnd (afterLines state.text) then conclude config
        else .error .rejected) := by
  have enough : state.text.length < state.text.length + 1 := Nat.lt_succ_self _
  cases ran : (dataLines state.text).foldlM lineStep (state.config, state.sectType) with
  | error stop => exact ends_lines enough data ran
  | ok after =>
    refine ⟨_, comes_lines enough data ran, ?_⟩
    have smaller : ∀ text line rest, takeDataLine text = some (line, rest) →
        rest.length < text.length := by
      intro text line rest taken
      obtain ⟨-, -, whole⟩ := takeDataLine_some taken
      rw [whole, length_append, length_cons]
      dsimp only
      omega
    have stops : takeDataLine (afterLines state.text) = none := pieces_ended smaller enough
    exact ends_left data stops

/-- The parser is at a checksum that is read past the end of the image. -/
structure ReadsPast (state : ParseState) : Prop where
  noData : state.isData = false
  checksum : checksumField.length < state.text.length ∧
    state.text.take checksumField.length = checksumField
  past : readsPast (state.text.drop checksumField.length) = true

/-- How the header is read. -/
def HeaderDone (state last : ParseState) : Except ParseStop (UInt32 × Option (List UInt8)) → Prop
  | .error stop => ReadsPast last ∧ stop = .strays
  | .ok (expCrc, none) => parseRound last = .ends (conclude { state.config with expCrc })
  | .ok (expCrc, some text) =>
    last = { state with config := { state.config with expCrc }, isData := true, text }

theorem parseRound_header {char : UInt8} {rest : List UInt8} (noData : state.isData = false)
    (whole : state.text = char :: rest) :
    parseRound state =
      if checksumField.length < (char :: rest).length ∧
          (char :: rest).take checksumField.length = checksumField then
        if readsPast ((char :: rest).drop checksumField.length) then .ends (.error .strays)
        else .next { state with
          config := { state.config with
            expCrc := strtoul ((char :: rest).drop checksumField.length) }
          text := ((char :: rest).drop checksumField.length).drop 1 }
      else if dataStartTag.length < (char :: rest).length ∧
          (char :: rest).take dataStartTag.length = dataStartTag then
        .next { state with isData := true, text := (char :: rest).drop (dataStartTag.length + 1) }
      else .next { state with text := rest } := by
  unfold parseRound
  rw [whole, noData]
  rfl

/-- What the parser makes of the text in front of the data. -/
theorem ends_header {fuel : Nat} (enough : state.text.length < fuel)
    (noData : state.isData = false) :
    ∃ last, Comes parseRound state last ∧
      HeaderDone state last (header fuel state.config.expCrc state.text) := by
  induction fuel generalizing state with
  | zero => exact absurd enough (Nat.not_lt_zero _)
  | succ fuel ih =>
    cases whole : state.text with
    | nil =>
      refine ⟨state, Comes.refl state, ?_⟩
      change parseRound state = .ends (conclude state.config)
      unfold parseRound
      rw [whole]
    | cons char rest =>
      rw [whole, length_cons] at enough
      have round := parseRound_header noData whole
      rw [header]
      by_cases checksum : checksumField.length < (char :: rest).length ∧
          (char :: rest).take checksumField.length = checksumField
      · rw [if_pos checksum] at round ⊢
        by_cases past : readsPast ((char :: rest).drop checksumField.length) = true
        · rw [if_pos past] at round ⊢
          rw [← whole] at checksum past
          exact ⟨state, Comes.refl state, ⟨noData, checksum, past⟩, rfl⟩
        · rw [if_neg past] at round ⊢
          have less : (((char :: rest).drop checksumField.length).drop 1).length < fuel := by
            rw [length_drop, length_drop, length_cons]
            omega
          have later : ∃ last, Comes parseRound { state with
                config := { state.config with
                  expCrc := strtoul ((char :: rest).drop checksumField.length) }
                text := ((char :: rest).drop checksumField.length).drop 1 } last ∧
              HeaderDone _ last (header fuel (strtoul ((char :: rest).drop checksumField.length))
                (((char :: rest).drop checksumField.length).drop 1)) := ih less noData
          obtain ⟨last, comes, done⟩ := later
          exact ⟨last, .head round comes, done⟩
      · rw [if_neg checksum] at round ⊢
        by_cases start : dataStartTag.length < (char :: rest).length ∧
            (char :: rest).take dataStartTag.length = dataStartTag
        · rw [if_pos start] at round ⊢
          exact ⟨_, .single round, rfl⟩
        · rw [if_neg start] at round ⊢
          have later : ∃ last, Comes parseRound { state with text := rest } last ∧
              HeaderDone _ last (header fuel state.config.expCrc rest) :=
            ih (Nat.lt_of_succ_lt_succ enough) noData
          obtain ⟨last, comes, done⟩ := later
          exact ⟨last, .head round comes, done⟩

theorem ReadsPast.ends (reads : ReadsPast state) :
    parseRound state = .ends (.error .strays) := by
  have checksum := reads.checksum
  have past := reads.past
  cases whole : state.text with
  | nil =>
    rw [whole] at checksum
    exact absurd checksum.1 (Nat.not_lt_zero _)
  | cons char rest =>
    rw [whole] at checksum past
    rw [parseRound_header reads.noData whole, if_pos checksum, if_pos past]

end Rounds

theorem parseFile_eq (image : List UInt8) : parseFile image = some (linesFile image) := by
  apply (loop_eq_some_iff (parseFile_isSome image)).mpr
  have first : ∃ last, Comes parseRound ⟨Config.cleared, 0, false, image⟩ last ∧
      HeaderDone ⟨Config.cleared, 0, false, image⟩ last (header (image.length + 1) 0 image) :=
    ends_header (Nat.lt_succ_self image.length) rfl
  obtain ⟨last, comes, done⟩ := first
  unfold linesFile
  cases front : header (image.length + 1) 0 image with
  | error stop =>
    rw [front] at done
    obtain ⟨reads, rfl⟩ := done
    exact ⟨last, comes, reads.ends⟩
  | ok found =>
    obtain ⟨expCrc, data⟩ := found
    rw [front] at done
    cases data with
    | none => exact ⟨last, comes, done⟩
    | some text =>
      have behind : last = ⟨{ Config.cleared with expCrc }, 0, true, text⟩ := done
      subst behind
      obtain ⟨final, later, ended⟩ := ends_data (rfl :
        (⟨{ Config.cleared with expCrc }, 0, true, text⟩ : ParseState).isData = true)
      exact ⟨final, comes.trans later, ended⟩

end OpenBic.Xdpe15284
