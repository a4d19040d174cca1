import TypePolish.Proofs.Rule.Clauses
import TypePolish.Proofs.Rule.Words

/-!
The interfaces of a generated file, as data and as text. `lines` is what the generator writes, and
`polishedLines` is what should become of it, said of the declarations and not of the text: names and
types lose the words in front, no field is optional, and a date field that is a string is a date.
-/

namespace TypePolish

structure DeclaredName where
  text : Text
  named : Named text
  text_ne_nil : text ≠ []
  not_pagination : ¬ paginationRepository <+: text

structure FieldType where
  text : Text
  space_not_mem : ' ' ∉ text
  mark_not_mem : '?' ∉ text
  stop_not_mem : ';' ∉ text
  newline_not_mem : '\n' ∉ text

structure Field where
  name : DeclaredName
  optional : Bool
  type : FieldType

structure Interface where
  name : DeclaredName
  fields : List Field

def stringWord : Text := ['s', 't', 'r', 'i', 'n', 'g']

namespace Field

def mark (field : Field) : Text :=
  if field.optional then ['?'] else []

def line (field : Field) : Text :=
  [' ', ' '] ++ field.name.text ++ field.mark ++ [':', ' '] ++ field.type.text ++ [';']

def polishedType (field : Field) : Text :=
  match paginationRepository.isPrefixOf? field.type.text with
  -- the rename takes the space along
  | some rest => ':' :: (pagination ++ rest)
  | none =>
      if plainWord field.type.text = stringWord ∧
          plainWord field.name.text ∈ Table.dateFields.map String.toList then
        Rule.dateType
      else
        [':', ' '] ++ plainWord field.type.text

def polishedLine (field : Field) : Text :=
  [' ', ' '] ++ plainWord field.name.text ++ field.polishedType ++ [';']

end Field

def exportWord : Text := "export".toList

def interfaceWord : Text := "interface".toList

def header (name : Text) : Text :=
  exportWord ++ ' ' :: interfaceWord ++ ' ' :: name ++ [' ', '{']

namespace Interface

def lines (interface : Interface) : List Text :=
  header interface.name.text :: (interface.fields.map Field.line ++ [['}']])

def polishedLines (interface : Interface) : List Text :=
  header (plainWord interface.name.text) :: (interface.fields.map Field.polishedLine ++ [['}']])

end Interface

def unlines (lines : List Text) : Text :=
  lines.flatMap (· ++ ['\n'])

end TypePolish
