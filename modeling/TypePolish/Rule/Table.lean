import TypePolish.Rule.Basic

/-!
The standard table. A generated declaration loses the words that the generator glues to type
names, its optional fields become required, and its date fields get the type `Date`. The order
matters: the rename of the pagination type comes before the strip of its last word, and the mark of
optional fields goes before the date rules look for a name with a colon behind it.
-/

namespace TypePolish

namespace Rule

def literal (target substitute : String) (target_ne_nil : target.toList ≠ [] := by simp) : Rule :=
  ⟨.anywhere, target.toList, substitute.toList, target_ne_nil⟩

def stringDeclaration : Text := [':', ' ', 's', 't', 'r', 'i', 'n', 'g', ';']

def dateDeclaration : Text := [':', ' ', 'D', 'a', 't', 'e', ';']

def dateField (name : Text) : Rule where
  place := .nameStart
  target := name ++ stringDeclaration
  substitute := name ++ dateDeclaration
  target_ne_nil := by simp [stringDeclaration]

end Rule

namespace Table

def ofDateFields (names : List Text) : Table :=
  names.map Rule.dateField

def dateFields : List String :=
  ["createdAt", "updatedAt", "soldTime", "purchaseTime", "warrantyExpires", "expiresAt", "date"]

def wordRules : Table :=
  [.literal " PaginationResultRepo" "PaginationResult",
    .literal " Repo" " ",
    .literal " Services" " ",
    .literal " V1" " ",
    .literal "?:" ":"]

def standard : Table :=
  wordRules ++ ofDateFields (dateFields.map String.toList)

end Table

end TypePolish
