import TypePolish.Proofs.Polish.Progress

/-!
A run as one report and what comes of it. What a run says in all, how it ends and which tree it
leaves are decided by the tree, the table and the path alone (`FileTree.course`), and everything is
said before anything is changed. So a run is the write of its whole report, however that is cut
into lines, and then its end, unless the sink had no room for the report
(`Session.polishFile_eq_course`).
-/

namespace TypePolish

def Table.report (table : Table) : Text :=
  table.flatMap Rule.announcement

theorem Rule.announcement_words (rule : Rule) :
    rule.announcement =
      "Replacing '".toList ++ rule.pattern ++ "' -> '".toList ++ rule.template ++
        "'\n".toList := by
  have opened : "Replacing '".toList = "Replacing ".toList ++ ['\''] := by decide
  have closed : "'\n".toList = ['\''] ++ ['\n'] := by decide
  rw [opened, closed]
  unfold announcement display
  simp only [List.append_assoc]

/-- The progress lines of a table, one for each rule and in its order. They say nothing about the
text that it is applied to. -/
theorem Table.report_words (table : Table) :
    table.report = table.flatMap fun rule =>
      "Replacing '".toList ++ rule.pattern ++ "' -> '".toList ++ rule.template ++
        "'\n".toList :=
  congrArg (table.flatMap ·) (funext Rule.announcement_words)

namespace Sink

theorem write_append (sink : Sink) (first second : Bytes) :
    sink.write (first ++ second) =
      match sink.write first with
      | (.ok (), later) => later.write second
      | (.error fault, later) => (.error fault, later) := by
  cases bounded : sink.room with
  | none => simp only [write, bounded, List.append_assoc]
  | some room =>
      simp only [write, bounded]
      by_cases fits : (sink.taken ++ first).length ≤ room
      · rw [if_pos fits]
        simp only [List.take_of_length_le fits, List.append_assoc]
      · -- the room ends within the first part, and the second adds nothing
        have early : room ≤ (sink.taken ++ first).length := by omega
        have tooMuch : ¬ (sink.taken ++ (first ++ second)).length ≤ room := by
          simp only [List.length_append] at fits ⊢
          omega
        rw [if_neg fits, if_neg tooMuch, ← List.append_assoc, List.take_append_of_le_length early]

def Sound (sink : Sink) : Prop :=
  ∀ room ∈ sink.room, sink.taken.length ≤ room

theorem sound_unbounded : unbounded.Sound := by
  intro room bounded
  contradiction

theorem sound_bounded (room : Nat) (fault : Fault) : (bounded room fault).Sound := by
  rintro limit ⟨⟩
  exact Nat.zero_le room

theorem write_nil {sink : Sink} (sound : sink.Sound) : sink.write [] = (.ok (), sink) := by
  obtain ⟨taken, room, fault⟩ := sink
  cases room with
  | none => simp [write]
  | some room =>
      have fits : taken.length ≤ room := sound room rfl
      simp [write, fits, List.take_of_length_le fits]

theorem sound_of_write {sink later : Sink} {bytes : Bytes}
    (written : sink.write bytes = (.ok (), later)) : later.Sound := by
  obtain ⟨taken, room, fault⟩ := sink
  cases room with
  | none =>
      cases written
      intro room bounded
      contradiction
  | some most =>
      have after : later = ⟨(taken ++ bytes).take most, some most, fault⟩ :=
        (congrArg Prod.snd written).symm
      subst after
      rintro room ⟨⟩
      exact List.length_take_le most _

/-- The lines of a table may be written at once. -/
theorem applyTable_eq_write {sink : Sink} (sound : sink.Sound) (table : Table) (text : Text) :
    sink.applyTable table text =
      match sink.write table.report.encode with
      | (.ok (), later) => (.ok (table.apply text), later)
      | (.error fault, later) => (.error (.progress fault), later) := by
  induction table generalizing sink text with
  | nil =>
      have quiet := write_nil sound
      simp only [Table.report, List.flatMap_nil, Text.encode, quiet]
      rfl
  | cons rule later ih =>
      have parts : Text.encode (Table.report (rule :: later)) =
          rule.announcement.encode ++ (Table.report later).encode := by
        simp only [Table.report, Text.encode, List.flatMap_cons, List.flatMap_append]
      rw [applyTable_cons, parts, write_append]
      cases written : sink.write rule.announcement.encode with
      | mk result taken =>
          cases result with
          | error fault => rfl
          | ok _ => exact ih (sound_of_write written) (rule.apply text)

theorem polish_eq_write {sink : Sink} (sound : sink.Sound) (table : Table) (content : Text) :
    sink.polish table content =
      match sink.write table.report.encode with
      | (.ok (), later) => (.ok (table.apply (provenanceLine ++ content)), later)
      | (.error fault, later) => (.error (.progress fault), later) :=
  applyTable_eq_write sound table (provenanceLine ++ content)

theorem write_bounded_of_le {room : Nat} {bytes : Bytes} (fits : bytes.length ≤ room)
    (fault : Fault) :
    (bounded room fault).write bytes = (.ok (), { bounded room fault with taken := bytes }) := by
  simp [write, bounded, fits, List.take_of_length_le fits]

theorem write_bounded_of_lt {room : Nat} {bytes : Bytes} (tooMuch : room < bytes.length)
    (fault : Fault) :
    (bounded room fault).write bytes =
      (.error fault, { bounded room fault with taken := bytes.take room }) := by
  have tooLong : ¬ bytes.length ≤ room := by omega
  simp [write, bounded, tooLong]

end Sink

structure Course where
  report : Text
  result : Except Failure Outcome
  tree : FileTree

namespace FileTree

def written (tree : FileTree) (caller : Caller) (path : Bytes) (polished : Text) :
    Except Failure Outcome × FileTree :=
  match tree.replace caller path polished.encode with
  | .ok later => (.ok .polished, later)
  | .error fault => (.error (.unwritable path fault), tree)

def course (tree : FileTree) (caller : Caller) (table : Table) (path : Bytes) : Course :=
  if tree.isPresent caller path then
    match tree.read caller path >>= textOf with
    | .error fault => ⟨startLine path, .error (.unreadable path fault), tree⟩
    | .ok content =>
        let (result, later) := tree.written caller path (table.apply (provenanceLine ++ content))
        ⟨startLine path ++ table.report, result, later⟩
  else ⟨startLine path ++ missingLine path, .ok .missing, tree⟩

end FileTree

namespace Session

theorem announce_append (session : Session) (first second : Text) :
    session.announce (first ++ second) =
      match session.announce first with
      | (.ok (), later) => later.announce second
      | (.error fault, later) => (.error fault, later) := by
  have parts : (first ++ second).encode = first.encode ++ second.encode := List.flatMap_append
  simp only [announce, parts, Sink.write_append]
  cases session.output.write first.encode with
  | mk result later => cases result <;> rfl

theorem after_polish_eq_announce {session : Session} (sound : session.output.Sound)
    (caller : Caller) (table : Table) (content : Text) :
    session.after (polish (host caller).progress table content) =
      match session.announce table.report with
      | (.ok (), later) => (.ok (table.apply (provenanceLine ++ content)), later)
      | (.error fault, later) => (.error (.progress fault), later) := by
  rw [after_polish, Sink.polish_eq_write sound]
  unfold announce
  cases session.output.write table.report.encode with
  | mk result later => cases result <;> rfl

theorem sound_of_announce {session later : Session} {line : Text}
    (announced : session.announce line = (.ok (), later)) : later.output.Sound := by
  unfold announce at announced
  cases written : session.output.write line.encode with
  | mk result taken =>
      rw [written] at announced
      cases announced
      exact Sink.sound_of_write written

theorem startLine_prefix_report (tree : FileTree) (caller : Caller) (table : Table)
    (path : Bytes) : startLine path <+: (tree.course caller table path).report := by
  unfold FileTree.course
  split
  · split
    · exact List.prefix_rfl
    · exact List.prefix_append _ _
  · exact List.prefix_append _ _

def conclude (session : Session) (report : Text) (result : Except Failure Outcome)
    (tree : FileTree) : Except Failure Outcome × Session :=
  match session.announce report with
  | (.ok (), reported) => (result, { reported with tree })
  | (.error fault, reported) => (.error (.progress fault), reported)

theorem conclude_append {session started : Session} {first : Text}
    (announced : session.announce first = (.ok (), started)) (rest : Text)
    (result : Except Failure Outcome) (tree : FileTree) :
    session.conclude (first ++ rest) result tree = started.conclude rest result tree := by
  simp only [conclude, announce_append, announced]

theorem conclude_same_tree (session : Session) (report : Text)
    (result : Except Failure Outcome) :
    session.conclude report result session.tree =
      match session.announce report with
      | (.error fault, tried) => (.error (.progress fault), tried)
      | (.ok (), reported) => (result, reported) := by
  have kept := tree_announce session report
  unfold conclude
  cases told : session.announce report with
  | mk taken reported =>
      rw [told] at kept
      cases taken with
      | error fault => rfl
      | ok _ => rw [← kept]

theorem replace_eq_written (session : Session) (caller : Caller) (path : Bytes) (polished : Text) :
    (match session.replace caller path polished.encode with
      | (.error fault, tried) => (.error (.unwritable path fault), tried)
      | (.ok (), later) => (.ok .polished, later)) =
    ((session.tree.written caller path polished).1,
      { session with tree := (session.tree.written caller path polished).2 }) := by
  unfold replace FileTree.written
  cases session.tree.replace caller path polished.encode <;> rfl

/-- The part of a run that follows when the content is at hand. -/
theorem polish_then_replace {session : Session} (sound : session.output.Sound) (caller : Caller)
    (table : Table) (path : Bytes) (content : Text) :
    (match session.after (polish (host caller).progress table content) with
      | (.error failure, reported) => (.error failure, reported)
      | (.ok polished, reported) =>
          match reported.replace caller path polished.encode with
          | (.error fault, tried) => (.error (.unwritable path fault), tried)
          | (.ok (), later) => (.ok .polished, later)) =
    session.conclude table.report
      (session.tree.written caller path (table.apply (provenanceLine ++ content))).1
      (session.tree.written caller path (table.apply (provenanceLine ++ content))).2 := by
  have kept := tree_announce session table.report
  rw [after_polish_eq_announce sound]
  unfold conclude
  cases told : session.announce table.report with
  | mk taken reported =>
      rw [told] at kept
      cases taken with
      | error fault => rfl
      | ok _ =>
          rw [← kept]
          exact replace_eq_written reported caller path _

/-- A run announces its whole report and then comes to its end. -/
theorem polishFile_eq_course (session : Session) (caller : Caller) (table : Table)
    (path : Bytes) :
    session.polishFile caller table path =
      session.conclude (session.tree.course caller table path).report
        (session.tree.course caller table path).result
        (session.tree.course caller table path).tree := by
  rw [polishFile_eq]
  have kept := tree_announce session (startLine path)
  cases announced : session.announce (startLine path) with
  | mk taken started =>
      rw [announced] at kept
      cases taken with
      | error fault =>
          obtain ⟨rest, whole⟩ := startLine_prefix_report session.tree caller table path
          rw [conclude, ← whole, announce_append, announced]
      | ok _ =>
          dsimp only at kept ⊢
          rw [← kept]
          unfold FileTree.course
          by_cases present : started.tree.isPresent caller path
          · rw [if_pos present, if_pos present]
            cases started.tree.read caller path >>= textOf with
            | error fault => simp only [conclude, announced]
            | ok content =>
                rw [conclude_append announced]
                exact polish_then_replace (sound_of_announce announced) caller table path content
          · rw [if_neg present, if_neg present, conclude_append announced]
            exact (conclude_same_tree started (missingLine path) (.ok .missing)).symm

end Session

end TypePolish
