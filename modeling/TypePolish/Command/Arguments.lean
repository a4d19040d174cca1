import TypePolish.Text.Utf8

/-!
What the arguments of the command ask for. They are read from left to right: the first flag or the
first mistake decides, and only at the end is it a mistake that no path was given. Two dashes alone
end the options, and one dash alone is a path. Short options may be joined, and the first letter
decides.
-/

namespace TypePolish

inductive Flag
  | help
  | version
  deriving DecidableEq, Repr

inductive Misuse
  | missingPath
  | emptyPath
  | surplus (argument : Bytes)
  | unknownOption (option : Text)
  | unexpectedValue (flag : Flag) (value : Bytes)
  deriving DecidableEq, Repr

inductive Request
  | inform (flag : Flag)
  | refuse (misuse : Misuse)
  | polish (path : Bytes)
  deriving DecidableEq, Repr

inductive Argument
  | path
  | endOfOptions
  | flag (flag : Flag)
  | mistake (misuse : Misuse)
  deriving DecidableEq, Repr

def dash : UInt8 := '-'.toUInt8

def equals : UInt8 := '='.toUInt8

def Flag.ofName? (name : Bytes) : Option Flag :=
  if name = Text.encode "help".toList then some .help
  else if name = Text.encode "version".toList then some .version
  else none

def Flag.ofLetter? (letter : Char) : Option Flag :=
  if letter = 'h' then some .help
  else if letter = 'V' then some .version
  else none

namespace Argument

def ofLongOption (option : Bytes) : Argument :=
  let name := option.takeWhile (· != equals)
  match Flag.ofName? name, option.dropWhile (· != equals) with
  | none, _ => .mistake (.unknownOption ("--".toList ++ Bytes.lossy name))
  | some known, [] => .flag known
  -- after an equals sign stands a value, and no flag takes one
  | some known, _ :: value => .mistake (.unexpectedValue known value)

def ofShortOptions (letters : Bytes) : Argument :=
  match letters.pieces.head? with
  | some (.char letter) =>
      match Flag.ofLetter? letter with
      | some known => .flag known
      | none => .mistake (.unknownOption ['-', letter])
  | _ => .mistake (.unknownOption ('-' :: letters.lossy))

def ofBytes (argument : Bytes) : Argument :=
  match argument with
  | [] => .path
  | first :: rest =>
      if first ≠ dash ∨ rest = [] then .path
      else if rest = [dash] then .endOfOptions
      else if rest.head? = some dash then ofLongOption rest.tail
      else ofShortOptions rest

end Argument

namespace Request

def ofPath : Option Bytes → Request
  | none => .refuse .missingPath
  | some path => if path = [] then .refuse .emptyPath else .polish path

/-- Reads the arguments, given the path so far and whether the options are over. A flag ends the
reading, and that is when an empty path before it is noticed. -/
def ofArgumentsFrom (path : Option Bytes) (optionsOver : Bool) : List Bytes → Request
  | [] => ofPath path
  | argument :: later =>
      match if optionsOver then .path else Argument.ofBytes argument with
      | .endOfOptions => ofArgumentsFrom path true later
      | .flag flag => if path = some [] then .refuse .emptyPath else .inform flag
      | .mistake misuse => .refuse misuse
      | .path =>
          match path with
          | none => ofArgumentsFrom (some argument) optionsOver later
          | some _ => .refuse (.surplus argument)

def ofArguments (arguments : List Bytes) : Request :=
  ofArgumentsFrom none false arguments

end Request

end TypePolish
