import TypePolish.FileTree.Access

/-!
Trees that differ in what some of their texts say. Bytes that are text stay text, and nothing else
differs. No lookup can tell such trees apart, except by the content of the file at its end
(`lookup_alike`), and changes of two files may be made in either order (`put_comm`).
-/

namespace TypePolish

def IsText (bytes : Bytes) : Prop :=
  ∃ text, bytes.decode? = some text

inductive Node.Alike : Option Node → Option Node → Prop
  | same (node? : Option Node) : Alike node? node?
  | text (mode : Mode) {first second : Bytes} (isText : IsText first) (alsoText : IsText second) :
      Alike (some (.file mode first)) (some (.file mode second))

inductive Spot.Alike : Except Fault Spot → Except Fault Spot → Prop
  | same (found : Except Fault Spot) : Alike found found
  | text (location : Location) (mode : Mode) {first second : Bytes} (isText : IsText first)
      (alsoText : IsText second) :
      Alike (.ok (.file location mode first)) (.ok (.file location mode second))

namespace FileTree

structure Alike (tree other : FileTree) : Prop where
  working : other.working = tree.working
  nodes : ∀ location, Node.Alike (tree.node? location) (other.node? location)

section

variable {tree other : FileTree} {caller : Caller}

theorem walkWith_alike (alike : tree.Alike other)
    {follow followOther : Location → Bytes → List Step → Except Fault Spot}
    (followed : ∀ directory target later,
      Spot.Alike (follow directory target later) (followOther directory target later))
    (start : Location) (steps : List Step) :
    Spot.Alike (tree.walkWith caller follow start steps)
      (other.walkWith caller followOther start steps) := by
  induction steps generalizing start with
  | nil =>
      have here := alike.nodes start
      simp only [walkWith]
      generalize tree.node? start = node at here
      generalize other.node? start = otherNode at here
      cases here with
      | same node? => exact .same _
      | text mode isText alsoText => exact .text start mode isText alsoText
  | cons step later ih =>
      have here := alike.nodes start
      simp only [walkWith]
      generalize tree.node? start = node at here
      generalize other.node? start = otherNode at here
      cases here with
      | text mode isText alsoText => exact .same _
      | same node? =>
          split
          · split
            · cases step with
              | insist => exact ih start
              | stay => exact ih start
              | up => exact ih start.dropLast
              | enter name =>
                  dsimp only
                  split
                  · exact .same _
                  · have next := alike.nodes (start ++ [name])
                    generalize tree.node? (start ++ [name]) = node at next
                    generalize other.node? (start ++ [name]) = otherNode at next
                    cases next with
                    | text mode isText alsoText => exact ih (start ++ [name])
                    | same node? =>
                        split
                        · exact followed _ _ _
                        · exact ih (start ++ [name])
                        · exact .same _
            · exact .same _
          · exact .same _
          · exact .same _

theorem walk_alike (alike : tree.Alike other) (links : Nat) (start : Location)
    (steps : List Step) :
    Spot.Alike (tree.walk caller links start steps) (other.walk caller links start steps) := by
  induction links generalizing start steps with
  | zero => exact walkWith_alike alike (fun _ _ _ => .same _) start steps
  | succ links ih =>
      apply walkWith_alike alike
      intro directory target later
      exact ih _ _

theorem lookup_alike (alike : tree.Alike other) (path : Bytes) :
    Spot.Alike (tree.lookup caller path) (other.lookup caller path) := by
  unfold lookup
  rw [alike.working]
  cases checkPath path with
  | error fault => exact .same _
  | ok _ => exact walk_alike alike mostLinks _ _

end

theorem putIn_comm {entries : List (Location × Node)} {first second : Location}
    {oldFirst oldSecond : Node} (firstListed : nodeIn? entries first = some oldFirst)
    (secondListed : nodeIn? entries second = some oldSecond) (differ : first ≠ second)
    (node other : Node) :
    putIn (putIn entries first node) second other =
      putIn (putIn entries second other) first node := by
  induction entries with
  | nil => contradiction
  | cons entry later ih =>
      obtain ⟨location, old⟩ := entry
      by_cases isFirst : location = first
      · subst isFirst
        simp [putIn, differ]
      · by_cases isSecond : location = second
        · subst isSecond
          simp [putIn, isFirst]
        · simp only [nodeIn?, if_neg isFirst] at firstListed
          simp only [nodeIn?, if_neg isSecond] at secondListed
          simp [putIn, isFirst, isSecond, ih firstListed secondListed]

theorem put_comm {tree : FileTree} {first second : Location} {oldFirst oldSecond : Node}
    (firstListed : tree.node? first = some oldFirst)
    (secondListed : tree.node? second = some oldSecond) (differ : first ≠ second)
    (node other : Node) :
    (tree.put first node).put second other = (tree.put second other).put first node :=
  congrArg (FileTree.mk · tree.working)
    (putIn_comm firstListed secondListed differ node other)

end FileTree

end TypePolish
