import TypePolish.Proofs.FileTree.Rewriting
import TypePolish.Proofs.Polish.Progress
import TypePolish.Text.Utf8.RoundTrip

/-!
A run either rewrites the file to which the path leads, or it leaves the tree alone. Every step that
may fail comes before the replacement, and the replacement itself fails before it changes anything.
-/

namespace TypePolish

namespace Session

theorem eq_encode_of_textOf {bytes : Bytes} {content : Text} (read : textOf bytes = .ok content) :
    bytes = content.encode := by
  unfold textOf at read
  split at read
  next text decoded =>
    cases read
    exact (Bytes.decode?_eq_some_iff bytes content).mp decoded
  next => contradiction

/-- What was read is the content of one file, and the caller may read it. -/
theorem lookup_of_readText {tree : FileTree} {caller : Caller} {path : Bytes} {content : Text}
    (read : tree.read caller path >>= textOf = .ok content) :
    ∃ location mode, tree.lookup caller path = .ok (.file location mode content.encode) := by
  cases loaded : tree.read caller path with
  | error fault =>
      rw [loaded] at read
      contradiction
  | ok bytes =>
      rw [loaded] at read
      obtain ⟨location, mode, found, _⟩ := (FileTree.read_eq_ok_iff path bytes).mp loaded
      rw [eq_encode_of_textOf read] at found
      exact ⟨location, mode, found⟩

theorem rewrites_of_replace {session written : Session} {caller : Caller} {path : Bytes}
    {location : Location} {mode : Mode} {old new : Bytes}
    (found : session.tree.lookup caller path = .ok (.file location mode old))
    (replaced : session.replace caller path new = (.ok (), written)) :
    session.tree.Rewrites location old new written.tree := by
  unfold replace at replaced
  rw [FileTree.replace_of_lookup found] at replaced
  split at replaced
  next tree permitted =>
    split at permitted
    · cases permitted
      cases replaced
      exact FileTree.rewrites_put (FileTree.node?_of_lookup found) new
    · contradiction
  next => cases replaced

theorem tree_of_replace_error {session tried : Session} {caller : Caller} {path new : Bytes}
    {fault : Fault} (failed : session.replace caller path new = (.error fault, tried)) :
    tried.tree = session.tree := by
  unfold replace at failed
  split at failed
  · cases failed
  · cases failed
    rfl

/-- What may come of a run. Success means that the path led to one file, whose content was text, and
that this file alone has changed: it holds what polishing makes of that text. Otherwise the whole
tree is as it was. -/
def RewritesOrKeeps (before : Session) (caller : Caller) (table : Table) (path : Bytes) :
    Except Failure Outcome × Session → Prop
  | (.ok .polished, later) =>
      ∃ location mode content result,
        before.tree.lookup caller path = .ok (.file location mode (Text.encode content)) ∧
        Polishes table content result ∧
        before.tree.Rewrites location content.encode result.encode later.tree
  | (.ok .missing, later) => later.tree = before.tree
  | (.error failure, later) =>
      later.tree = before.tree ∧
        ∃ fault, failure = .progress fault ∨ failure = .unreadable path fault ∨
          failure = .unwritable path fault

section

variable {before started reported : Session} {caller : Caller} {table : Table} {path : Bytes}

theorem rewritesOrKeeps_replace {location : Location} {mode : Mode} {content result : Text}
    (same : reported.tree = before.tree)
    (found : before.tree.lookup caller path = .ok (.file location mode content.encode))
    (polished : Polishes table content result) :
    RewritesOrKeeps before caller table path
      (match reported.replace caller path result.encode with
      | (.error fault, tried) => (.error (.unwritable path fault), tried)
      | (.ok (), written) => (.ok .polished, written)) := by
  cases replaced : reported.replace caller path result.encode with
  | mk outcome tried =>
      cases outcome with
      | error fault =>
          have untouched := tree_of_replace_error replaced
          exact ⟨untouched.trans same, fault, .inr (.inr rfl)⟩
      | ok _ =>
          rw [← same] at found
          have rewrites := rewrites_of_replace found replaced
          rw [same] at found rewrites
          exact ⟨location, mode, content, result, found, polished, rewrites⟩

theorem rewritesOrKeeps_missing (kept : started.tree = before.tree) :
    RewritesOrKeeps before caller table path
      (match started.announce (missingLine path) with
      | (.error fault, tried) => (.error (.progress fault), tried)
      | (.ok (), reported) => (.ok .missing, reported)) := by
  have missed := tree_announce started (missingLine path)
  cases told : started.announce (missingLine path) with
  | mk result reported =>
      rw [told] at missed
      cases result with
      | error fault => exact ⟨missed.trans kept, fault, .inl rfl⟩
      | ok _ => exact missed.trans kept

end

/-- Every run rewrites the file or keeps the tree, whatever fails on the way. -/
theorem polishFile_rewrites_or_keeps (session : Session) (caller : Caller) (table : Table)
    (path : Bytes) :
    RewritesOrKeeps session caller table path (session.polishFile caller table path) := by
  rw [polishFile_eq]
  have kept := tree_announce session (startLine path)
  cases announced : session.announce (startLine path) with
  | mk result started =>
      rw [announced] at kept
      cases result with
      | error fault => exact ⟨kept, fault, .inl rfl⟩
      | ok _ =>
          dsimp only at kept ⊢
          by_cases present : started.tree.isPresent caller path
          · rw [if_pos present]
            cases read : started.tree.read caller path >>= textOf with
            | error fault => exact ⟨kept, fault, .inr (.inl rfl)⟩
            | ok content =>
                dsimp only
                rw [after_polish]
                cases polished : (started.output.polish table content).1 with
                | error failure =>
                    obtain ⟨fault, rfl⟩ := Sink.progress_of_applyTable polished
                    exact ⟨kept, fault, .inl rfl⟩
                | ok result =>
                    obtain ⟨location, mode, found⟩ := lookup_of_readText read
                    rw [kept] at found
                    exact rewritesOrKeeps_replace kept found (polishes_of_polish polished)
          · rw [if_neg present]
            exact rewritesOrKeeps_missing kept

end Session

end TypePolish
