import TypePolish.Text.Utf8

/-!
Reading undoes writing. Each character is read back from its encoding whatever follows it
(`nextPiece_encode`), a piece that is a character stands for exactly that character's encoding
(`eq_encode_of_nextPiece`), and so bytes are read as a text only if they are its encoding
(`decode?_eq_some_iff`).
-/

namespace TypePolish

open String (utf8EncodeChar)

/-! ### First bytes and continuation bytes in numbers -/

theorem Lead.ofByte?_eq (byte : UInt8) : Lead.ofByte? byte =
    if byte.toNat < 0xC2 then none
    else if byte.toNat < 0xE0 then some ⟨byte.toNat - 0xC0, 1, 0x80, 0xBF⟩
    else if byte.toNat = 0xE0 then some ⟨0x0, 2, 0xA0, 0xBF⟩
    else if byte.toNat = 0xED then some ⟨0xD, 2, 0x80, 0x9F⟩
    else if byte.toNat < 0xF0 then some ⟨byte.toNat - 0xE0, 2, 0x80, 0xBF⟩
    else if byte.toNat = 0xF0 then some ⟨0, 3, 0x90, 0xBF⟩
    else if byte.toNat < 0xF4 then some ⟨byte.toNat - 0xF0, 3, 0x80, 0xBF⟩
    else if byte.toNat = 0xF4 then some ⟨4, 3, 0x80, 0x8F⟩
    else none := by
  simp only [Lead.ofByte?, UInt8.lt_iff_toNat_lt, ← UInt8.toNat_inj]
  rfl

theorem continuation_cons {count : Nat} {byte least greatest : UInt8} {rest : Bytes}
    (lower : least.toNat ≤ byte.toNat) (upper : byte.toNat ≤ greatest.toNat) :
    continuation (count + 1) least greatest (byte :: rest) =
      (byte :: (continuation count 0x80 0xBF rest).1, (continuation count 0x80 0xBF rest).2) := by
  have inside : least ≤ byte ∧ byte ≤ greatest :=
    ⟨UInt8.le_iff_toNat_le.mpr lower, UInt8.le_iff_toNat_le.mpr upper⟩
  simp [continuation, inside]

theorem continuation_zero (least greatest : UInt8) (bytes : Bytes) :
    continuation 0 least greatest bytes = ([], bytes) := by
  simp [continuation]

theorem exists_of_continuation {count : Nat} {least greatest : UInt8} {bytes taken left : Bytes}
    (cut : continuation (count + 1) least greatest bytes = (taken, left))
    (whole : taken.length = count + 1) :
    ∃ byte rest later, bytes = byte :: rest ∧ taken = byte :: later ∧
      least.toNat ≤ byte.toNat ∧ byte.toNat ≤ greatest.toNat ∧
      continuation count 0x80 0xBF rest = (later, left) ∧ later.length = count := by
  cases bytes with
  | nil =>
      simp only [continuation, Prod.mk.injEq] at cut
      simp [← cut.1] at whole
  | cons byte rest =>
      simp only [continuation] at cut
      split at cut
      next inside =>
        simp only [Prod.mk.injEq] at cut
        obtain ⟨rfl, rfl⟩ := cut
        exact ⟨byte, rest, _, rfl, rfl, UInt8.le_iff_toNat_le.mp inside.1,
          UInt8.le_iff_toNat_le.mp inside.2, rfl, by simpa using whole⟩
      next =>
        simp only [Prod.mk.injEq] at cut
        simp [← cut.1] at whole

theorem toNat_ofNat_of_valid {point : Nat}
    (valid : point < 0xD800 ∨ 0xDFFF < point ∧ point < 0x110000) :
    (Char.ofNat point).val.toNat = point := by
  have isValid : point.isValidChar := valid
  rw [Char.ofNat, dif_pos isValid]
  rfl

/-! ### Reading back one character -/

theorem nextPiece_of_lead {byte : UInt8} (lead : Lead) (taken : Bytes) {rest left : Bytes}
    {point : Nat}
    (known : Lead.ofByte? byte = some lead)
    (cut : continuation lead.following lead.least lead.greatest rest = (taken, left))
    (whole : taken.length = lead.following) (value : codePoint lead.bits taken = point) :
    nextPiece byte rest = (.char (Char.ofNat point), left) := by
  have large : ¬ byte < 0x80 := by
    intro small
    have small := UInt8.lt_iff_toNat_lt.mp small
    simp only [UInt8.reduceToNat] at small
    rw [Lead.ofByte?_eq, if_pos (by omega)] at known
    contradiction
  simp [nextPiece, large, known, cut, whole, value]

theorem nextPiece_one_byte {point : Nat} (upper : point < 0x80) (rest : Bytes) :
    nextPiece (UInt8.ofNat point) rest = (.char (Char.ofNat point), rest) := by
  have small : UInt8.ofNat point < 0x80 := by
    rw [UInt8.lt_iff_toNat_lt, UInt8.toNat_ofNat']
    simp only [UInt8.reduceToNat]
    omega
  have same : point % 256 = point := by omega
  simp [nextPiece, small, same]

theorem nextPiece_two_bytes {point : Nat} (lower : 0x80 ≤ point) (upper : point < 0x800)
    (rest : Bytes) :
    nextPiece (UInt8.ofNat (point / 64 % 32 + 192)) (UInt8.ofNat (point % 64 + 128) :: rest) =
      (.char (Char.ofNat point), rest) := by
  apply nextPiece_of_lead ⟨point / 64, 1, 0x80, 0xBF⟩ [UInt8.ofNat (point % 64 + 128)]
  · rw [Lead.ofByte?_eq, UInt8.toNat_ofNat', if_neg (by omega), if_pos (by omega)]
    simp only [Option.some.injEq, Lead.mk.injEq, and_true]
    omega
  · rw [continuation_cons (by simp; omega) (by simp; omega), continuation_zero]
  · rfl
  · simp only [codePoint, List.foldl, UInt8.toNat_ofNat']
    omega

theorem nextPiece_three_bytes {point : Nat} (lower : 0x800 ≤ point) (upper : point < 0x10000)
    (valid : point < 0xD800 ∨ 0xDFFF < point) (rest : Bytes) :
    nextPiece (UInt8.ofNat (point / 4096 % 16 + 224))
        (UInt8.ofNat (point / 64 % 64 + 128) :: UInt8.ofNat (point % 64 + 128) :: rest) =
      (.char (Char.ofNat point), rest) := by
  have step : ∀ least greatest : UInt8,
      Lead.ofByte? (UInt8.ofNat (point / 4096 % 16 + 224)) =
        some ⟨point / 4096, 2, least, greatest⟩ →
      least.toNat ≤ point / 64 % 64 + 128 → point / 64 % 64 + 128 ≤ greatest.toNat →
      nextPiece (UInt8.ofNat (point / 4096 % 16 + 224))
          (UInt8.ofNat (point / 64 % 64 + 128) :: UInt8.ofNat (point % 64 + 128) :: rest) =
        (.char (Char.ofNat point), rest) := by
    intro least greatest known low high
    apply nextPiece_of_lead _
      [UInt8.ofNat (point / 64 % 64 + 128), UInt8.ofNat (point % 64 + 128)] known
    · dsimp only
      rw [continuation_cons (by simp; omega) (by simp; omega),
        continuation_cons (by simp; omega) (by simp; omega), continuation_zero]
    · rfl
    · simp only [codePoint, List.foldl, UInt8.toNat_ofNat']
      omega
  by_cases least : point / 4096 = 0
  · apply step 0xA0 0xBF
    · rw [Lead.ofByte?_eq, UInt8.toNat_ofNat', if_neg (by omega), if_neg (by omega),
        if_pos (by omega), least]
    · simp only [UInt8.reduceToNat]; omega
    · simp only [UInt8.reduceToNat]; omega
  · by_cases surrogates : point / 4096 = 0xD
    · apply step 0x80 0x9F
      · rw [Lead.ofByte?_eq, UInt8.toNat_ofNat', if_neg (by omega), if_neg (by omega),
          if_neg (by omega), if_pos (by omega), surrogates]
      · simp only [UInt8.reduceToNat]; omega
      · simp only [UInt8.reduceToNat]; omega
    · apply step 0x80 0xBF
      · rw [Lead.ofByte?_eq, UInt8.toNat_ofNat', if_neg (by omega), if_neg (by omega),
          if_neg (by omega), if_neg (by omega), if_pos (by omega)]
        simp only [Option.some.injEq, Lead.mk.injEq, and_true]
        omega
      · simp only [UInt8.reduceToNat]; omega
      · simp only [UInt8.reduceToNat]; omega

theorem nextPiece_four_bytes {point : Nat} (lower : 0x10000 ≤ point) (upper : point < 0x110000)
    (rest : Bytes) :
    nextPiece (UInt8.ofNat (point / 262144 % 8 + 240))
        (UInt8.ofNat (point / 4096 % 64 + 128) :: UInt8.ofNat (point / 64 % 64 + 128) ::
          UInt8.ofNat (point % 64 + 128) :: rest) =
      (.char (Char.ofNat point), rest) := by
  have step : ∀ least greatest : UInt8,
      Lead.ofByte? (UInt8.ofNat (point / 262144 % 8 + 240)) =
        some ⟨point / 262144, 3, least, greatest⟩ →
      least.toNat ≤ point / 4096 % 64 + 128 → point / 4096 % 64 + 128 ≤ greatest.toNat →
      nextPiece (UInt8.ofNat (point / 262144 % 8 + 240))
          (UInt8.ofNat (point / 4096 % 64 + 128) :: UInt8.ofNat (point / 64 % 64 + 128) ::
            UInt8.ofNat (point % 64 + 128) :: rest) =
        (.char (Char.ofNat point), rest) := by
    intro least greatest known low high
    apply nextPiece_of_lead _
      [UInt8.ofNat (point / 4096 % 64 + 128), UInt8.ofNat (point / 64 % 64 + 128),
        UInt8.ofNat (point % 64 + 128)] known
    · dsimp only
      rw [continuation_cons (by simp; omega) (by simp; omega),
        continuation_cons (by simp; omega) (by simp; omega),
        continuation_cons (by simp; omega) (by simp; omega), continuation_zero]
    · rfl
    · simp only [codePoint, List.foldl, UInt8.toNat_ofNat']
      omega
  by_cases least : point / 262144 = 0
  · apply step 0x90 0xBF
    · rw [Lead.ofByte?_eq, UInt8.toNat_ofNat', if_neg (by omega), if_neg (by omega),
        if_neg (by omega), if_neg (by omega), if_neg (by omega), if_pos (by omega), least]
    · simp only [UInt8.reduceToNat]; omega
    · simp only [UInt8.reduceToNat]; omega
  · by_cases last : point / 262144 = 4
    · apply step 0x80 0x8F
      · rw [Lead.ofByte?_eq, UInt8.toNat_ofNat', if_neg (by omega), if_neg (by omega),
          if_neg (by omega), if_neg (by omega), if_neg (by omega), if_neg (by omega),
          if_neg (by omega), if_pos (by omega), last]
      · simp only [UInt8.reduceToNat]; omega
      · simp only [UInt8.reduceToNat]; omega
    · apply step 0x80 0xBF
      · rw [Lead.ofByte?_eq, UInt8.toNat_ofNat', if_neg (by omega), if_neg (by omega),
          if_neg (by omega), if_neg (by omega), if_neg (by omega), if_neg (by omega),
          if_pos (by omega)]
        simp only [Option.some.injEq, Lead.mk.injEq, and_true]
        omega
      · simp only [UInt8.reduceToNat]; omega
      · simp only [UInt8.reduceToNat]; omega

theorem nextPiece_encode (char : Char) (rest : Bytes) :
    ∃ byte later, utf8EncodeChar char = byte :: later ∧
      nextPiece byte (later ++ rest) = (.char char, rest) := by
  have valid : char.toNat < 0xD800 ∨ 0xDFFF < char.toNat ∧ char.toNat < 0x110000 := char.valid
  have again : Char.ofNat char.toNat = char := Char.ofNat_toNat char
  have value : char.val.toNat = char.toNat := rfl
  generalize char.toNat = point at valid again value
  subst again
  unfold utf8EncodeChar
  rw [value]
  by_cases one : point ≤ 0x7f
  · refine ⟨UInt8.ofNat point, [], ?_, nextPiece_one_byte (by omega) rest⟩
    simp [one]
  · by_cases two : point ≤ 0x7ff
    · refine ⟨UInt8.ofNat (point / 64 % 32 + 192), [UInt8.ofNat (point % 64 + 128)], ?_,
        nextPiece_two_bytes (by omega) (by omega) rest⟩
      simp [one, two]
    · by_cases three : point ≤ 0xffff
      · refine ⟨UInt8.ofNat (point / 4096 % 16 + 224),
          [UInt8.ofNat (point / 64 % 64 + 128), UInt8.ofNat (point % 64 + 128)], ?_,
          nextPiece_three_bytes (by omega) (by omega) (by omega) rest⟩
        simp [one, two, three]
      · refine ⟨UInt8.ofNat (point / 262144 % 8 + 240),
          [UInt8.ofNat (point / 4096 % 64 + 128), UInt8.ofNat (point / 64 % 64 + 128),
            UInt8.ofNat (point % 64 + 128)], ?_,
          nextPiece_four_bytes (by omega) (by omega) rest⟩
        simp [one, two, three]

/-! ### A character that was read is the one that was written -/

/-- The bytes of an encoding, given that the code point is valid and their numbers are known. -/
theorem utf8EncodeChar_ofNat {point : Nat}
    (valid : point < 0xD800 ∨ 0xDFFF < point ∧ point < 0x110000) :
    utf8EncodeChar (Char.ofNat point) =
      if point ≤ 0x7f then [UInt8.ofNat point]
      else if point ≤ 0x7ff then
        [UInt8.ofNat (point / 64 % 32 + 192), UInt8.ofNat (point % 64 + 128)]
      else if point ≤ 0xffff then
        [UInt8.ofNat (point / 4096 % 16 + 224), UInt8.ofNat (point / 64 % 64 + 128),
          UInt8.ofNat (point % 64 + 128)]
      else
        [UInt8.ofNat (point / 262144 % 8 + 240), UInt8.ofNat (point / 4096 % 64 + 128),
          UInt8.ofNat (point / 64 % 64 + 128), UInt8.ofNat (point % 64 + 128)] := by
  unfold utf8EncodeChar
  rw [toNat_ofNat_of_valid valid]

theorem eq_ofNat_of_toNat (byte : UInt8) {value : Nat} (same : byte.toNat = value) :
    byte = UInt8.ofNat value := by
  rw [← same, UInt8.ofNat_toNat]

theorem encode_two_bytes {bits : Nat} {first second : UInt8}
    (lead : first.toNat = bits + 192) (lower : 2 ≤ bits) (upper : bits < 32)
    (least : 0x80 ≤ second.toNat) (greatest : second.toNat ≤ 0xBF) :
    utf8EncodeChar (Char.ofNat (codePoint bits [second])) = [first, second] := by
  have value : codePoint bits [second] = bits * 64 + (second.toNat - 0x80) := rfl
  rw [value, utf8EncodeChar_ofNat (by omega), if_neg (by omega), if_pos (by omega),
    ← eq_ofNat_of_toNat first (by omega),
    ← eq_ofNat_of_toNat second (by omega)]

theorem encode_three_bytes {bits : Nat} {first second third : UInt8}
    (lead : first.toNat = bits + 224) (upper : bits < 16)
    (least : 0x80 ≤ second.toNat) (greatest : second.toNat ≤ 0xBF)
    (noOverlong : bits = 0 → 0xA0 ≤ second.toNat)
    (noSurrogate : bits = 0xD → second.toNat ≤ 0x9F)
    (thirdLeast : 0x80 ≤ third.toNat) (thirdGreatest : third.toNat ≤ 0xBF) :
    utf8EncodeChar (Char.ofNat (codePoint bits [second, third])) = [first, second, third] := by
  have value : codePoint bits [second, third] =
      (bits * 64 + (second.toNat - 0x80)) * 64 + (third.toNat - 0x80) := rfl
  rw [value, utf8EncodeChar_ofNat (by omega), if_neg (by omega), if_neg (by omega),
    if_pos (by omega), ← eq_ofNat_of_toNat first (by omega),
    ← eq_ofNat_of_toNat second (by omega),
    ← eq_ofNat_of_toNat third (by omega)]

theorem encode_four_bytes {bits : Nat} {first second third fourth : UInt8}
    (lead : first.toNat = bits + 240) (upper : bits < 5)
    (least : 0x80 ≤ second.toNat) (greatest : second.toNat ≤ 0xBF)
    (noOverlong : bits = 0 → 0x90 ≤ second.toNat)
    (inRange : bits = 4 → second.toNat ≤ 0x8F)
    (thirdLeast : 0x80 ≤ third.toNat) (thirdGreatest : third.toNat ≤ 0xBF)
    (fourthLeast : 0x80 ≤ fourth.toNat) (fourthGreatest : fourth.toNat ≤ 0xBF) :
    utf8EncodeChar (Char.ofNat (codePoint bits [second, third, fourth])) =
      [first, second, third, fourth] := by
  have value : codePoint bits [second, third, fourth] =
      ((bits * 64 + (second.toNat - 0x80)) * 64 + (third.toNat - 0x80)) * 64 +
        (fourth.toNat - 0x80) := rfl
  rw [value, utf8EncodeChar_ofNat (by omega), if_neg (by omega), if_neg (by omega),
    if_neg (by omega), ← eq_ofNat_of_toNat first (by omega),
    ← eq_ofNat_of_toNat second (by omega),
    ← eq_ofNat_of_toNat third (by omega),
    ← eq_ofNat_of_toNat fourth (by omega)]

theorem encode_of_continuation {byte : UInt8} {lead : Lead} {rest taken left : Bytes}
    (known : Lead.ofByte? byte = some lead)
    (cut : continuation lead.following lead.least lead.greatest rest = (taken, left))
    (whole : taken.length = lead.following) :
    byte :: rest = utf8EncodeChar (Char.ofNat (codePoint lead.bits taken)) ++ left := by
  rw [Lead.ofByte?_eq] at known
  have two : ∀ {bits : Nat}, byte.toNat = bits + 192 → 2 ≤ bits → bits < 32 →
      continuation 1 0x80 0xBF rest = (taken, left) → taken.length = 1 →
      byte :: rest = utf8EncodeChar (Char.ofNat (codePoint bits taken)) ++ left := by
    intro bits first lower upper cut whole
    obtain ⟨second, after, later, rfl, rfl, least, greatest, cut, whole⟩ :=
      exists_of_continuation cut whole
    rw [continuation_zero, Prod.mk.injEq] at cut
    obtain ⟨rfl, rfl⟩ := cut
    rw [encode_two_bytes first lower upper least greatest]
    rfl
  have three : ∀ {bits : Nat} {least greatest : UInt8}, byte.toNat = bits + 224 → bits < 16 →
      0x80 ≤ least.toNat → greatest.toNat ≤ 0xBF → (bits = 0 → 0xA0 ≤ least.toNat) →
      (bits = 0xD → greatest.toNat ≤ 0x9F) →
      continuation 2 least greatest rest = (taken, left) → taken.length = 2 →
      byte :: rest = utf8EncodeChar (Char.ofNat (codePoint bits taken)) ++ left := by
    intro bits least greatest first upper atLeast atMost noOverlong noSurrogate cut whole
    obtain ⟨second, after, later, rfl, rfl, low, high, cut, whole⟩ :=
      exists_of_continuation cut whole
    obtain ⟨third, after, later, rfl, rfl, thirdLow, thirdHigh, cut, whole⟩ :=
      exists_of_continuation cut whole
    rw [continuation_zero, Prod.mk.injEq] at cut
    obtain ⟨rfl, rfl⟩ := cut
    rw [encode_three_bytes first upper (by omega) (by omega)
      (fun zero => by have := noOverlong zero; omega)
      (fun surrogates => by have := noSurrogate surrogates; omega) thirdLow thirdHigh]
    rfl
  have four : ∀ {bits : Nat} {least greatest : UInt8}, byte.toNat = bits + 240 → bits < 5 →
      0x80 ≤ least.toNat → greatest.toNat ≤ 0xBF → (bits = 0 → 0x90 ≤ least.toNat) →
      (bits = 4 → greatest.toNat ≤ 0x8F) →
      continuation 3 least greatest rest = (taken, left) → taken.length = 3 →
      byte :: rest = utf8EncodeChar (Char.ofNat (codePoint bits taken)) ++ left := by
    intro bits least greatest first upper atLeast atMost noOverlong inRange cut whole
    obtain ⟨second, after, later, rfl, rfl, low, high, cut, whole⟩ :=
      exists_of_continuation cut whole
    obtain ⟨third, after, later, rfl, rfl, thirdLow, thirdHigh, cut, whole⟩ :=
      exists_of_continuation cut whole
    obtain ⟨fourth, after, later, rfl, rfl, fourthLow, fourthHigh, cut, whole⟩ :=
      exists_of_continuation cut whole
    rw [continuation_zero, Prod.mk.injEq] at cut
    obtain ⟨rfl, rfl⟩ := cut
    rw [encode_four_bytes first upper (by omega) (by omega)
      (fun zero => by have := noOverlong zero; omega)
      (fun last => by have := inRange last; omega) thirdLow thirdHigh fourthLow fourthHigh]
    rfl
  split at known
  · contradiction
  split at known
  · obtain rfl := Option.some.inj known
    dsimp only at cut whole ⊢
    exact two (by omega) (by omega) (by omega) cut whole
  split at known
  · obtain rfl := Option.some.inj known
    dsimp only at cut whole ⊢
    exact three (by omega) (by omega) (by decide) (by decide) (fun _ => by decide) nofun cut whole
  split at known
  · obtain rfl := Option.some.inj known
    dsimp only at cut whole ⊢
    exact three (by omega) (by omega) (by decide) (by decide) nofun (fun _ => by decide) cut whole
  split at known
  · obtain rfl := Option.some.inj known
    dsimp only at cut whole ⊢
    exact three (by omega) (by omega) (by decide) (by decide)
      (fun zero => absurd zero (by omega)) (fun surrogates => absurd surrogates (by omega))
      cut whole
  split at known
  · obtain rfl := Option.some.inj known
    dsimp only at cut whole ⊢
    exact four (by omega) (by omega) (by decide) (by decide) (fun _ => by decide) nofun cut whole
  split at known
  · obtain rfl := Option.some.inj known
    dsimp only at cut whole ⊢
    exact four (by omega) (by omega) (by decide) (by decide)
      (fun zero => absurd zero (by omega)) (fun last => absurd last (by omega)) cut whole
  split at known
  · obtain rfl := Option.some.inj known
    dsimp only at cut whole ⊢
    exact four (by omega) (by omega) (by decide) (by decide) nofun (fun _ => by decide) cut whole
  · contradiction

theorem eq_encode_of_nextPiece (byte : UInt8) (rest : Bytes) {left : Bytes} {char : Char}
    (read : nextPiece byte rest = (.char char, left)) :
    byte :: rest = utf8EncodeChar char ++ left := by
  unfold nextPiece at read
  split at read
  next small =>
    simp only [Prod.mk.injEq, Piece.char.injEq] at read
    obtain ⟨rfl, rfl⟩ := read
    have bound := UInt8.lt_iff_toNat_lt.mp small
    simp only [UInt8.reduceToNat] at bound
    rw [utf8EncodeChar_ofNat (by omega), if_pos (by omega), UInt8.ofNat_toNat]
    rfl
  next =>
    split at read
    next => simp at read
    next lead known =>
      dsimp only at read
      split at read
      next whole =>
        simp only [Prod.mk.injEq, Piece.char.injEq] at read
        obtain ⟨rfl, rfl⟩ := read
        exact encode_of_continuation known rfl whole
      next => simp at read

/-! ### Whole texts -/

namespace Bytes

theorem pieces_encode_append (text : Text) (bytes : Bytes) :
    pieces (text.encode ++ bytes) = text.map .char ++ pieces bytes := by
  induction text with
  | nil => rfl
  | cons char later ih =>
      obtain ⟨byte, tail, encoded, read⟩ := nextPiece_encode char (Text.encode later ++ bytes)
      have whole : Text.encode (char :: later) ++ bytes =
          byte :: (tail ++ (Text.encode later ++ bytes)) := by
        simp [Text.encode, encoded]
      rw [whole, pieces_cons, read, ih]
      rfl

theorem pieces_encode (text : Text) : pieces text.encode = text.map .char := by
  have := pieces_encode_append text []
  simpa using this

theorem eq_encode_of_pieces {bytes : Bytes} {text : Text}
    (read : pieces bytes = text.map .char) : bytes = text.encode := by
  induction text generalizing bytes with
  | nil =>
      cases bytes with
      | nil => rfl
      | cons byte rest => simp [pieces_cons] at read
  | cons char later ih =>
      cases bytes with
      | nil => simp at read
      | cons byte rest =>
          rw [pieces_cons, List.map_cons, List.cons.injEq] at read
          have left := ih read.2
          have first := eq_encode_of_nextPiece byte rest (Prod.ext read.1 rfl)
          simp only [first, left, Text.encode, List.flatMap_cons]

theorem mapM_char?_eq_some_iff (pieces : List Piece) (text : Text) :
    pieces.mapM Piece.char? = some text ↔ pieces = text.map .char := by
  induction pieces generalizing text with
  | nil => cases text <;> simp
  | cons piece later ih =>
      cases piece with
      | char char =>
          rw [List.mapM_cons]
          cases rest : later.mapM Piece.char? with
          | none =>
              cases text with
              | nil => simp [Piece.char?]
              | cons other tail => simp [Piece.char?, ← ih, rest]
          | some read =>
              cases text with
              | nil => simp [Piece.char?]
              | cons other tail => simp [Piece.char?, ← ih, rest]
      | stray bytes => cases text <;> simp [Piece.char?]

/-- Bytes are read as a text exactly if they are its encoding. -/
theorem decode?_eq_some_iff (bytes : Bytes) (text : Text) :
    bytes.decode? = some text ↔ bytes = text.encode := by
  unfold decode?
  rw [mapM_char?_eq_some_iff]
  exact ⟨eq_encode_of_pieces, fun same => same ▸ pieces_encode text⟩

@[simp] theorem decode?_encode (text : Text) : Bytes.decode? text.encode = some text :=
  (decode?_eq_some_iff _ _).mpr rfl

end Bytes

theorem Text.encode_injective : Function.Injective Text.encode := by
  intro first second same
  have read := congrArg Bytes.decode? same
  rw [Bytes.decode?_encode, Bytes.decode?_encode] at read
  exact Option.some.inj read

end TypePolish
