/-!
Text is a list of characters; file contents, paths and arguments are lists of bytes. Writing text
as UTF-8 always succeeds. Reading cuts the bytes into pieces, each a character or a run of stray
bytes: the longest run that agrees with the start of some character's encoding, or else a single
byte. Bytes are text when no piece is stray.
-/

namespace TypePolish

abbrev Text := List Char

abbrev Bytes := List UInt8

def Text.encode (text : Text) : Bytes :=
  text.flatMap String.utf8EncodeChar

inductive Piece
  | char (char : Char)
  | stray (bytes : Bytes)
  deriving DecidableEq, Repr

structure Lead where
  bits : Nat
  following : Nat
  least : UInt8
  greatest : UInt8
  deriving DecidableEq, Repr

def Lead.ofByte? (byte : UInt8) : Option Lead :=
  -- the bounds leave no room for overlong forms, surrogates and code points beyond the last one
  if byte < 0xC2 then none
  else if byte < 0xE0 then some ⟨byte.toNat - 0xC0, 1, 0x80, 0xBF⟩
  else if byte = 0xE0 then some ⟨0x0, 2, 0xA0, 0xBF⟩
  else if byte = 0xED then some ⟨0xD, 2, 0x80, 0x9F⟩
  else if byte < 0xF0 then some ⟨byte.toNat - 0xE0, 2, 0x80, 0xBF⟩
  else if byte = 0xF0 then some ⟨0, 3, 0x90, 0xBF⟩
  else if byte < 0xF4 then some ⟨byte.toNat - 0xF0, 3, 0x80, 0xBF⟩
  else if byte = 0xF4 then some ⟨4, 3, 0x80, 0x8F⟩
  else none

def continuation : (count : Nat) → (least greatest : UInt8) → Bytes → Bytes × Bytes
  | count + 1, least, greatest, byte :: rest =>
      if least ≤ byte ∧ byte ≤ greatest then
        let (taken, left) := continuation count 0x80 0xBF rest
        (byte :: taken, left)
      else ([], byte :: rest)
  | _, _, _, bytes => ([], bytes)

def codePoint (bits : Nat) (taken : Bytes) : Nat :=
  taken.foldl (fun point byte => point * 64 + (byte.toNat - 0x80)) bits

def nextPiece (byte : UInt8) (rest : Bytes) : Piece × Bytes :=
  if byte < 0x80 then (.char (Char.ofNat byte.toNat), rest)
  else
    match Lead.ofByte? byte with
    | none => (.stray [byte], rest)
    | some lead =>
        let (taken, left) := continuation lead.following lead.least lead.greatest rest
        if taken.length = lead.following then
          (.char (Char.ofNat (codePoint lead.bits taken)), left)
        else (.stray (byte :: taken), left)

theorem continuation_append (count : Nat) (least greatest : UInt8) (bytes : Bytes) :
    (continuation count least greatest bytes).1 ++ (continuation count least greatest bytes).2 =
      bytes := by
  induction count generalizing least greatest bytes with
  | zero => simp [continuation]
  | succ count ih =>
      cases bytes with
      | nil => simp [continuation]
      | cons byte rest =>
          simp only [continuation]
          split
          · simp [ih]
          · simp

theorem length_nextPiece_le (byte : UInt8) (rest : Bytes) :
    (nextPiece byte rest).2.length ≤ rest.length := by
  unfold nextPiece
  split
  · simp
  · split
    · simp
    next lead _ =>
      have whole := congrArg List.length
        (continuation_append lead.following lead.least lead.greatest rest)
      rw [List.length_append] at whole
      dsimp only
      split <;> (dsimp only; omega)

def piecesOnto (done : List Piece) : Bytes → List Piece
  | [] => done.reverse
  | byte :: rest => piecesOnto ((nextPiece byte rest).1 :: done) (nextPiece byte rest).2
termination_by bytes => bytes.length
decreasing_by
  have := length_nextPiece_le byte rest
  simp only [List.length_cons]
  omega

namespace Piece

def char? : Piece → Option Char
  | .char known => some known
  | .stray _ => none

def shown : Piece → Char
  | .char known => known
  | .stray _ => '\uFFFD'

end Piece

namespace Bytes

def pieces (bytes : Bytes) : List Piece :=
  piecesOnto [] bytes

def decode? (bytes : Bytes) : Option Text :=
  bytes.pieces.mapM Piece.char?

def lossy (bytes : Bytes) : Text :=
  bytes.pieces.map Piece.shown

end Bytes

theorem piecesOnto_eq (done : List Piece) (bytes : Bytes) :
    piecesOnto done bytes = done.reverse ++ bytes.pieces := by
  suffices all : ∀ size (done : List Piece) (bytes : Bytes), bytes.length ≤ size →
      piecesOnto done bytes = done.reverse ++ piecesOnto [] bytes from
    all bytes.length done bytes (Nat.le_refl _)
  intro size
  induction size with
  | zero =>
      intro done bytes bound
      have : bytes = [] := List.length_eq_zero_iff.mp (by omega)
      subst this
      simp [piecesOnto]
  | succ size ih =>
      intro done bytes bound
      cases bytes with
      | nil => simp [piecesOnto]
      | cons byte rest =>
          have shorter := length_nextPiece_le byte rest
          simp only [List.length_cons] at bound
          rw [piecesOnto, piecesOnto, ih (_ :: done) _ (by omega), ih [_] _ (by omega)]
          simp

namespace Bytes

@[simp] theorem pieces_nil : pieces [] = [] := by
  simp [pieces, piecesOnto]

theorem pieces_cons (byte : UInt8) (rest : Bytes) :
    pieces (byte :: rest) = (nextPiece byte rest).1 :: pieces (nextPiece byte rest).2 := by
  rw [pieces, piecesOnto, piecesOnto_eq]
  rfl

end Bytes

end TypePolish
