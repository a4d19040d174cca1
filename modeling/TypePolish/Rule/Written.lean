import TypePolish.Rule.Basic

/-!
How a rule is written down. The pattern is a regular expression in which the target stands
literally, after a group that captures the boundary character of a name start. The template refers
to that group as the first one, and holds the substitute with each dollar sign doubled.
-/

namespace TypePolish

def patternMarks : List Char :=
  "\\.+*?()|[]\x7b\x7d^$#&-~".toList

def literalPattern (text : Text) : Text :=
  text.flatMap fun char => if char ∈ patternMarks then ['\\', char] else [char]

def literalTemplate (text : Text) : Text :=
  text.flatMap fun char => if char = '$' then ['$', '$'] else [char]

namespace Place

def pattern : Place → Text
  | .anywhere => []
  | .nameStart => "(^|[^\\w$])".toList

def template : Place → Text
  | .anywhere => []
  | .nameStart => "$\x7b1\x7d".toList

end Place

namespace Rule

def pattern (rule : Rule) : Text :=
  rule.place.pattern ++ literalPattern rule.target

def template (rule : Rule) : Text :=
  rule.place.template ++ literalTemplate rule.substitute

def display (rule : Rule) : Text :=
  ['\''] ++ rule.pattern ++ "' -> '".toList ++ rule.template ++ ['\'']

end Rule

end TypePolish
