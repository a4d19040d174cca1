import TypePolish.Rule.Written
import TypePolish.Rule.Table

/-!
Polishing a text: put the line of provenance in front, whether or not there is one already, then run
the table over the whole, that line included. Each rule is announced before it is applied, and an
announcement that fails ends the run.
-/

namespace TypePolish

def provenanceLine : Text :=
  "/* post-processed by ./scripts/process-types.py */\n".toList

def Rule.announcement (rule : Rule) : Text :=
  "Replacing ".toList ++ rule.display ++ ['\n']

def Table.applyAnnounced {m : Type → Type} [Monad m] (announce : Text → m Unit) :
    Table → Text → m Text
  | [], text => pure text
  | rule :: later, text => do
      announce rule.announcement
      Table.applyAnnounced announce later (rule.apply text)

def polish {m : Type → Type} [Monad m] (announce : Text → m Unit) (table : Table)
    (content : Text) : m Text :=
  table.applyAnnounced announce (provenanceLine ++ content)

end TypePolish
