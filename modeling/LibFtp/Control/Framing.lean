import LibFtp.Detail.Utils

/-! A byte stream of commands as an FTP server cuts it: after each CRLF, wherever it
comes from. -/

namespace LibFtp

/-- The commands up to the last CRLF, and what is left behind it. -/
def cutLines : Bytes → List Bytes × Bytes
  | [] => ([], [])
  | [ch] => ([], [ch])
  | ch :: next :: rest =>
    if ch = cr ∧ next = lf then
      let (lines, last) := cutLines rest
      ([] :: lines, last)
    else
      match cutLines (next :: rest) with
      | ([], last) => ([], ch :: last)
      | (line :: lines, last) => ((ch :: line) :: lines, last)

/-- No CRLF inside. -/
def Whole (command : Bytes) : Prop := ¬ crlf <:+: command

def frame (command : Bytes) : Bytes := command ++ crlf

private theorem crlf_prefix : crlf <+: ch :: rest ↔ ch = cr ∧ rest.head? = some lf := by
  cases rest with
  | nil => simp [crlf, List.prefix_cons_iff, List.prefix_nil]
  | cons next rest => simp [crlf, List.cons_prefix_cons, eq_comm]

theorem whole_cons : Whole (ch :: rest) ↔ ¬ (ch = cr ∧ rest.head? = some lf) ∧ Whole rest := by
  rw [Whole, List.infix_cons_iff, crlf_prefix, not_or]
  rfl

/-- A front without CR adds nothing. -/
theorem whole_append (front rest : Bytes) (plain : cr ∉ front) : Whole (front ++ rest) ↔ Whole rest := by
  induction front with
  | nil => rfl
  | cons ch front ih =>
    obtain ⟨other, plain⟩ := not_or.mp (fun found => plain (List.mem_cons.mpr found))
    rw [List.cons_append, whole_cons, ih plain, and_iff_right]
    exact fun both => other both.1.symm

theorem whole_plain (command : Bytes) (plain : cr ∉ command) : Whole command := by
  rw [← List.append_nil command, whole_append _ _ plain]
  simp [Whole, crlf]

theorem cutLines_frame (command rest : Bytes) (whole : Whole command) :
    cutLines (frame command ++ rest) = (command :: (cutLines rest).1, (cutLines rest).2) := by
  induction command with
  | nil => simp [frame, crlf, cutLines]
  | cons ch command ih =>
    obtain ⟨other, whole⟩ := whole_cons.mp whole
    have ih := ih whole
    cases command with
    | nil =>
      simp only [frame, crlf, List.nil_append, List.cons_append] at ih ⊢
      rw [cutLines, if_neg fun both => absurd both.2 (by decide), ih]
    | cons next command =>
      have apart : ¬ (ch = cr ∧ next = lf) := fun both => other ⟨both.1, congrArg some both.2⟩
      simp only [frame, List.cons_append] at ih ⊢
      rw [cutLines, if_neg apart, ih]

theorem cutLines_frames (commands : List Bytes) (whole : ∀ command ∈ commands, Whole command) :
    cutLines (commands.flatMap frame) = (commands, []) := by
  induction commands with
  | nil => rfl
  | cons command commands ih =>
    obtain ⟨first, later⟩ := List.forall_mem_cons.mp whole
    rw [List.flatMap_cons, cutLines_frame command _ first, ih later]

private theorem cutLines_first (same : (cutLines (next :: rest)).1 = line :: lines) :
    line = [] ∨ line.head? = some next := by
  cases rest with
  | nil => simp [cutLines] at same
  | cons other rest =>
    rw [cutLines] at same
    split at same
    · exact .inl (List.cons.inj same).1.symm
    · split at same
      · cases same
      · rw [← (List.cons.inj same).1]
        exact .inr rfl

/-- What the server takes for a command has no CRLF inside. -/
theorem cutLines_whole (bytes : Bytes) : ∀ line ∈ (cutLines bytes).1, Whole line := by
  induction bytes using cutLines.induct with
  | case1 => simp [cutLines]
  | case2 ch => simp [cutLines]
  | case3 ch next rest both lines last same ih =>
    rw [cutLines, if_pos both]
    intro line member
    rcases List.mem_cons.mp member with first | later
    · exact first ▸ whole_plain [] List.not_mem_nil
    · exact ih line later
  | case4 ch next rest apart last same ih =>
    rw [cutLines, if_neg apart, same]
    simp
  | case5 ch next rest apart line lines last same ih =>
    rw [cutLines, if_neg apart, same]
    rw [same] at ih
    obtain ⟨first, later⟩ := List.forall_mem_cons.mp ih
    refine List.forall_mem_cons.mpr ⟨whole_cons.mpr ⟨?_, first⟩, later⟩
    intro ⟨isCr, isLf⟩
    rcases cutLines_first (congrArg Prod.fst same) with empty | head
    · rw [empty] at isLf
      cases isLf
    · exact apart ⟨isCr, Option.some.inj (head.symm.trans isLf)⟩

/-- Where some of the commands were sent, the server sees exactly the commands when
all were sent and none has a CRLF inside. -/
theorem cutLines_eq_iff (sent commands : List Bytes) (part : sent.Sublist commands) :
    cutLines (sent.flatMap frame) = (commands, []) ↔
      (∀ command ∈ commands, Whole command) ∧ sent = commands := by
  constructor
  · intro same
    have whole : ∀ command ∈ commands, Whole command := by
      have lines := cutLines_whole (sent.flatMap frame)
      rwa [same] at lines
    have cut := cutLines_frames sent fun command member => whole command (part.subset member)
    exact ⟨whole, (Prod.mk.inj (cut.symm.trans same)).1⟩
  · intro ⟨whole, same⟩
    rw [same]
    exact cutLines_frames commands whole

end LibFtp
