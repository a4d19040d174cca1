import TypePolish.Text.Utf8
import TypePolish.Text.Visible

/-!
Quoted paths. A path is any run of bytes, and a message shows it between double quotes on one
line: the quote, the backslash and four controls by short escapes, a character that has no visible
form of its own by its code point, and a stray byte by its two hexadecimal digits.
-/

namespace TypePolish

def capitalHexDigit (value : Nat) : Char :=
  if value < 10 then Char.ofNat ('0'.toNat + value) else Char.ofNat ('A'.toNat + value - 10)

def escapedByte (byte : UInt8) : Text :=
  ['\\', 'x', capitalHexDigit (byte.toNat / 16), capitalHexDigit (byte.toNat % 16)]

def escapedCodePoint (char : Char) : Text :=
  '\\' :: 'u' :: '{' :: Nat.toDigits 16 char.toNat ++ ['}']

def shortEscape? (char : Char) : Option Char :=
  if char = '\x00' then some '0'
  else if char = '\t' then some 't'
  else if char = '\r' then some 'r'
  else if char = '\n' then some 'n'
  else if char = '\\' then some '\\'
  else if char = '"' then some '"'
  else none

def quotedChar (char : Char) : Text :=
  match shortEscape? char with
  | some letter => ['\\', letter]
  | none => if isPlainlyVisible char then [char] else escapedCodePoint char

def quotedPiece : Piece → Text
  | .char char => quotedChar char
  | .stray bytes => bytes.flatMap escapedByte

def Bytes.quoted (bytes : Bytes) : Text :=
  '"' :: bytes.pieces.flatMap quotedPiece ++ ['"']

end TypePolish
