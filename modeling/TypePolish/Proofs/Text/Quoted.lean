import TypePolish.Text.Quoted
import TypePolish.Text.Utf8.RoundTrip

/-!
Reading a quoted path back. The reader goes through the text once and stops at the first quote that
is not escaped. It gives back the bytes that were quoted, whatever they are and whatever follows the
closing quote (`readQuoted_quoted`), so no text within a path can be taken for the end of it. And
every character of a quoted path has a visible form of its own (`Bytes.visible_quoted`).
-/

namespace TypePolish

open String (utf8EncodeChar)

/-! ### Hexadecimal digits -/

def hexValue (digit : Char) : Nat :=
  if digit.toNat < 'A'.toNat then digit.toNat - '0'.toNat
  else if digit.toNat < 'a'.toNat then digit.toNat - 'A'.toNat + 10
  else digit.toNat - 'a'.toNat + 10

theorem hexValue_capitalHexDigit : ∀ value < 16, hexValue (capitalHexDigit value) = value := by
  decide

theorem hexValue_digitChar : ∀ value < 16, hexValue (Nat.digitChar value) = value := by
  decide

theorem digitChar_ne_brace : ∀ value < 16, Nat.digitChar value ≠ '\x7d' := by
  decide

def readDigit (value : Nat) (digit : Char) : Nat :=
  value * 16 + hexValue digit

theorem foldl_readDigit_toDigits (value : Nat) :
    (Nat.toDigits 16 value).foldl readDigit 0 = value := by
  induction value using Nat.strongRecOn with
  | ind value ih =>
      by_cases single : value < 16
      · rw [Nat.toDigits_of_lt_base single]
        simp [readDigit, hexValue_digitChar value single]
      · have last : value % 16 < 16 := Nat.mod_lt _ (by omega)
        rw [Nat.toDigits_of_base_le (by omega) (by omega), List.foldl_append,
          ih (value / 16) (by omega)]
        simp only [List.foldl, readDigit, hexValue_digitChar _ last]
        omega

theorem exists_of_mem_toDigits {value : Nat} {char : Char} (member : char ∈ Nat.toDigits 16 value) :
    ∃ digit < 16, char = Nat.digitChar digit := by
  induction value using Nat.strongRecOn with
  | ind value ih =>
      by_cases single : value < 16
      · rw [Nat.toDigits_of_lt_base single, List.mem_singleton] at member
        exact ⟨value, single, member⟩
      · rw [Nat.toDigits_of_base_le (by omega) (by omega), List.mem_append] at member
        rcases member with earlier | last
        · exact ih (value / 16) (by omega) earlier
        · exact ⟨value % 16, by omega, List.mem_singleton.mp last⟩

/-! ### The reader -/

inductive Reading
  | plain
  | escape
  | brace
  | point (value : Nat)
  | high
  | low (high : Nat)

def unescaped (letter : Char) : Char :=
  if letter = '0' then '\x00'
  else if letter = 't' then '\t'
  else if letter = 'r' then '\r'
  else if letter = 'n' then '\n'
  else letter

def before (bytes : Bytes) (later : Option (Bytes × Text)) : Option (Bytes × Text) :=
  later.map fun (read, rest) => (bytes ++ read, rest)

def readQuoted : Reading → Text → Option (Bytes × Text)
  | _, [] => none
  | .plain, char :: rest =>
      if char = '"' then some ([], rest)
      else if char = '\\' then readQuoted .escape rest
      else before (utf8EncodeChar char) (readQuoted .plain rest)
  | .escape, letter :: rest =>
      if letter = 'x' then readQuoted .high rest
      else if letter = 'u' then readQuoted .brace rest
      else before (utf8EncodeChar (unescaped letter)) (readQuoted .plain rest)
  | .brace, _ :: rest => readQuoted (.point 0) rest
  | .point value, char :: rest =>
      if char = '\x7d' then before (utf8EncodeChar (Char.ofNat value)) (readQuoted .plain rest)
      else readQuoted (.point (readDigit value char)) rest
  | .high, digit :: rest => readQuoted (.low (hexValue digit)) rest
  | .low high, digit :: rest => before [UInt8.ofNat (readDigit high digit)] (readQuoted .plain rest)

theorem before_before (first second : Bytes) (later : Option (Bytes × Text)) :
    before first (before second later) = before (first ++ second) later := by
  cases later <;> simp [before]

theorem before_nil (later : Option (Bytes × Text)) : before [] later = later := by
  cases later <;> rfl

/-! ### Reading one piece -/

def Piece.bytes : Piece → Bytes
  | .char known => utf8EncodeChar known
  | .stray bytes => bytes

section

variable (rest : Text)

theorem readQuoted_escapedByte (byte : UInt8) :
    readQuoted .plain (escapedByte byte ++ rest) = before [byte] (readQuoted .plain rest) := by
  have bound : byte.toNat < 256 := byte.toNat_lt
  have value : readDigit (byte.toNat / 16) (capitalHexDigit (byte.toNat % 16)) = byte.toNat := by
    rw [readDigit, hexValue_capitalHexDigit _ (by omega)]
    omega
  simp [escapedByte, readQuoted, hexValue_capitalHexDigit (byte.toNat / 16) (by omega), value]

theorem readQuoted_escapedBytes (bytes : Bytes) :
    readQuoted .plain (bytes.flatMap escapedByte ++ rest) =
      before bytes (readQuoted .plain rest) := by
  induction bytes with
  | nil => exact (before_nil _).symm
  | cons byte later ih =>
      rw [List.flatMap_cons, List.append_assoc, readQuoted_escapedByte, ih, before_before]
      rfl

theorem readQuoted_digits {digits : Text} (noBrace : '\x7d' ∉ digits) (value : Nat) :
    readQuoted (.point value) (digits ++ rest) =
      readQuoted (.point (digits.foldl readDigit value)) rest := by
  induction digits generalizing value with
  | nil => rfl
  | cons digit later ih =>
      simp only [List.mem_cons, not_or] at noBrace
      rw [List.cons_append, readQuoted, if_neg (Ne.symm noBrace.1), ih noBrace.2]
      rfl

theorem readQuoted_escapedCodePoint (char : Char) :
    readQuoted .plain (escapedCodePoint char ++ rest) =
      before (utf8EncodeChar char) (readQuoted .plain rest) := by
  have noBrace : '\x7d' ∉ Nat.toDigits 16 char.toNat := by
    intro member
    obtain ⟨digit, small, same⟩ := exists_of_mem_toDigits member
    exact digitChar_ne_brace digit small same.symm
  have opened : readQuoted .plain (escapedCodePoint char ++ rest) =
      readQuoted (.point 0) (Nat.toDigits 16 char.toNat ++ ('\x7d' :: rest)) := by
    simp [escapedCodePoint, readQuoted]
  rw [opened, readQuoted_digits _ noBrace, foldl_readDigit_toDigits, readQuoted, if_pos rfl,
    Char.ofNat_toNat]

theorem unescaped_of_shortEscape? {char letter : Char} (short : shortEscape? char = some letter) :
    letter ≠ 'x' ∧ letter ≠ 'u' ∧ unescaped letter = char := by
  unfold shortEscape? at short
  repeat' split at short
  -- one goal for each letter
  all_goals cases short
  all_goals subst char
  all_goals decide

theorem ordinary_of_shortEscape? {char : Char} (long : shortEscape? char = none) :
    char ≠ '"' ∧ char ≠ '\\' := by
  grind [shortEscape?]

theorem readQuoted_quotedChar (char : Char) :
    readQuoted .plain (quotedChar char ++ rest) =
      before (utf8EncodeChar char) (readQuoted .plain rest) := by
  unfold quotedChar
  cases short : shortEscape? char with
  | some letter =>
      obtain ⟨notByte, notPoint, same⟩ := unescaped_of_shortEscape? short
      simp [readQuoted, notByte, notPoint, same]
  | none =>
      obtain ⟨notQuote, notBackslash⟩ := ordinary_of_shortEscape? short
      by_cases visible : isPlainlyVisible char
      · simp [visible, readQuoted, notQuote, notBackslash]
      · simp only [visible, Bool.false_eq_true, ↓reduceIte]
        exact readQuoted_escapedCodePoint rest char

theorem readQuoted_quotedPiece (piece : Piece) :
    readQuoted .plain (quotedPiece piece ++ rest) =
      before piece.bytes (readQuoted .plain rest) := by
  cases piece with
  | char char => exact readQuoted_quotedChar rest char
  | stray bytes => exact readQuoted_escapedBytes rest bytes

/-! ### Reading a whole path -/

theorem readQuoted_quotedPieces (pieces : List Piece) :
    readQuoted .plain (pieces.flatMap quotedPiece ++ '"' :: rest) =
      some (pieces.flatMap Piece.bytes, rest) := by
  induction pieces with
  | nil => simp [readQuoted]
  | cons piece later ih =>
      rw [List.flatMap_cons, List.append_assoc, readQuoted_quotedPiece, ih]
      rfl

end

/-- The pieces are cut from the bytes, and nothing is lost. -/
theorem bytes_nextPiece (byte : UInt8) (rest : Bytes) :
    (nextPiece byte rest).1.bytes ++ (nextPiece byte rest).2 = byte :: rest := by
  cases read : nextPiece byte rest with
  | mk piece left =>
      cases piece with
      | char char => exact (eq_encode_of_nextPiece byte rest read).symm
      | stray bytes =>
          unfold nextPiece at read
          split at read
          · simp at read
          split at read
          · cases read
            rfl
          next lead _ =>
            have whole := continuation_append lead.following lead.least lead.greatest rest
            dsimp only at read
            split at read
            · simp at read
            · cases read
              exact congrArg (byte :: ·) whole

theorem Bytes.flatMap_bytes_pieces (bytes : Bytes) : bytes.pieces.flatMap Piece.bytes = bytes := by
  have all (done : List Piece) (bytes : Bytes) :
      (piecesOnto done bytes).flatMap Piece.bytes = done.reverse.flatMap Piece.bytes ++ bytes := by
    induction done, bytes using piecesOnto.induct with
    | case1 done => simp [piecesOnto]
    | case2 done byte rest ih =>
        rw [piecesOnto, ih, List.reverse_cons, List.flatMap_append, List.append_assoc,
          List.flatMap_singleton, bytes_nextPiece]
  exact all [] bytes

/-- The reader starts behind the opening quote. -/
theorem readQuoted_quoted (bytes : Bytes) (rest : Text) :
    ∃ inner, bytes.quoted ++ rest = '"' :: inner ∧
      readQuoted .plain inner = some (bytes, rest) := by
  refine ⟨bytes.pieces.flatMap quotedPiece ++ '"' :: rest, by simp [Bytes.quoted], ?_⟩
  rw [readQuoted_quotedPieces, Bytes.flatMap_bytes_pieces]

/-! ### What a quoted path looks like -/

theorem visible_marks {mark : Char} (member : mark ∈ ['"', '\\', 'x', 'u', '\x7b', '\x7d']) :
    isPlainlyVisible mark = true := by
  have all : ['"', '\\', 'x', 'u', '\x7b', '\x7d'].all isPlainlyVisible = true := by
    decide +kernel
  exact List.all_eq_true.mp all mark member

theorem visible_digitChar : ∀ digit < 16, isPlainlyVisible (Nat.digitChar digit) = true := by
  decide +kernel

theorem visible_capitalHexDigit :
    ∀ digit < 16, isPlainlyVisible (capitalHexDigit digit) = true := by
  decide +kernel

theorem visible_escapedByte (byte : UInt8) :
    ∀ char ∈ escapedByte byte, isPlainlyVisible char = true := by
  have bound : byte.toNat < 256 := byte.toNat_lt
  have high := visible_capitalHexDigit (byte.toNat / 16) (by omega)
  have low := visible_capitalHexDigit (byte.toNat % 16) (by omega)
  intro written member
  simp only [escapedByte, List.mem_cons, List.not_mem_nil, or_false] at member
  rcases member with rfl | rfl | rfl | rfl
  · exact visible_marks (by simp)
  · exact visible_marks (by simp)
  · exact high
  · exact low

theorem visible_escapedCodePoint (char : Char) :
    ∀ written ∈ escapedCodePoint char, isPlainlyVisible written = true := by
  have digits : ∀ digit ∈ Nat.toDigits 16 char.toNat, isPlainlyVisible digit = true := by
    intro digit member
    obtain ⟨value, small, rfl⟩ := exists_of_mem_toDigits member
    exact visible_digitChar value small
  intro written member
  simp only [escapedCodePoint, List.mem_cons, List.mem_append, List.cons_append,
    List.not_mem_nil, or_false] at member
  rcases member with rfl | rfl | rfl | inside | rfl
  · exact visible_marks (by simp)
  · exact visible_marks (by simp)
  · exact visible_marks (by simp)
  · exact digits written inside
  · exact visible_marks (by simp)

theorem visible_of_shortEscape? {char letter : Char} (short : shortEscape? char = some letter) :
    isPlainlyVisible letter = true := by
  unfold shortEscape? at short
  repeat' split at short
  all_goals cases short
  all_goals decide +kernel

theorem visible_quotedChar (char : Char) :
    ∀ written ∈ quotedChar char, isPlainlyVisible written = true := by
  have backslash : isPlainlyVisible '\\' = true := visible_marks (by simp)
  unfold quotedChar
  cases short : shortEscape? char with
  | some letter => simp [backslash, visible_of_shortEscape? short]
  | none =>
      by_cases visible : isPlainlyVisible char
      · simp [visible]
      · simp only [visible, Bool.false_eq_true, ↓reduceIte]
        exact visible_escapedCodePoint char

theorem visible_quotedPiece (piece : Piece) :
    ∀ written ∈ quotedPiece piece, isPlainlyVisible written = true := by
  cases piece with
  | char char => exact visible_quotedChar char
  | stray bytes =>
      intro written member
      obtain ⟨byte, _, inside⟩ := List.mem_flatMap.mp member
      exact visible_escapedByte byte written inside

theorem Bytes.visible_quoted (bytes : Bytes) :
    ∀ written ∈ bytes.quoted, isPlainlyVisible written = true := by
  have quote : isPlainlyVisible '"' = true := visible_marks (by simp)
  intro written member
  simp only [quoted, List.mem_cons, List.mem_append, List.cons_append, List.not_mem_nil,
    or_false] at member
  rcases member with rfl | inside | rfl
  · exact quote
  · obtain ⟨piece, _, inside⟩ := List.mem_flatMap.mp inside
    exact visible_quotedPiece piece written inside
  · exact quote

def isControl (char : Char) : Bool :=
  char.toNat < 0x20 || (0x7F ≤ char.toNat && char.toNat < 0xA0)

theorem not_control_of_visible {char : Char} (visible : isPlainlyVisible char = true) :
    isControl char = false := by
  rw [← Bool.not_eq_true]
  intro control
  simp only [isControl, Bool.or_eq_true, Bool.and_eq_true, decide_eq_true_eq] at control
  have formless : formlessRanges.contains char.toNat = true := by
    rw [CharRanges.contains_iff formlessRanges_ascending]
    rcases control with low | ⟨least, greatest⟩
    · exact ⟨(0x0000, 0x0020), .head _, by omega, by omega⟩
    · exact ⟨(0x007F, 0x00A0), .tail _ (.head _), by omega, by omega⟩
  have space : char = ' ' := by
    simpa [isPlainlyVisible, formless] using visible
  subst space
  simp at control

end TypePolish
