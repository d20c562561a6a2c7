import LibFtp.App.CommandHandler
import LibFtp.Text.Quoted

/-! The command lines of the user: a command word, and arguments that may be quoted. -/

namespace LibFtp

open Text

namespace CommandParser

/-- The blanks of the classic locale. -/
def isSpace (ch : Byte) : Bool := ch = space || (9 ≤ ch && ch ≤ 13)

/-- `std::quoted` with its default delimiter and escape character. -/
def quoted : Quoting Byte := ⟨isSpace, 34, 92, rfl, by decide⟩

def toUpper (ch : Byte) : Byte := if 97 ≤ ch ∧ ch ≤ 122 then ch - 32 else ch

/-- What the parser relies on of `boost::iequals`. -/
def IgnoresCase (iequals : Bytes → Bytes → Bool) : Prop :=
  ∀ str other, iequals str other = true ↔ str.map toUpper = other.map toUpper

def commandNames : List (String × Command) :=
  [("open", .open), ("mode", .mode), ("active", .active), ("passive", .passive), ("user", .user),
    ("logout", .logout), ("close", .close), ("cd", .cd), ("cdup", .cdup), ("ls", .ls), ("put", .put),
    ("get", .get), ("rename", .rename), ("pwd", .pwd), ("mkdir", .mkdir), ("rmdir", .rmdir),
    ("del", .del), ("stat", .stat), ("syst", .syst), ("type", .type), ("binary", .binary),
    ("ascii", .ascii), ("size", .size), ("noop", .noop), ("rhelp", .rhelp), ("help", .help),
    ("exit", .exit)]

section Parser
variable (iequals : Bytes → Bytes → Bool)

def getCommandFromString (str : Bytes) : Except AppError Command :=
  match commandNames.find? fun entry => iequals str (text entry.1) with
  | some entry => .ok entry.2
  | none => .error (.cmdline "Invalid command." [])

def parseCommand (line : Bytes) : Except AppError (Command × List Bytes) := do
  -- Without a word the string stays empty and the stream fails.
  let (commandStr, rest) := (quoted.word line).getD ([], [])
  let command ← getCommandFromString iequals commandStr
  return (command, quoted.extractAll rest)

end Parser

section Words

/-- A word that stands for an entry of the table. -/
structure Spells (str : Bytes) (entry : String × Command) : Prop where
  known : entry ∈ commandNames
  cased : str.map toUpper = (text entry.1).map toUpper

private theorem names_apart : ∀ entry ∈ commandNames, ∀ other ∈ commandNames,
    (text entry.1).map toUpper = (text other.1).map toUpper → entry = other := by
  decide +kernel

private theorem names_solid : ∀ entry ∈ commandNames, (text entry.1).map toUpper ≠ [] ∧
    ∀ ch ∈ (text entry.1).map toUpper, isSpace ch = false := by
  decide +kernel

private theorem toUpper_space {ch : Byte} (blank : isSpace ch = true) : isSpace (toUpper ch) = true := by
  have other : ¬ (97 ≤ ch ∧ ch ≤ 122) := by
    intro ⟨lower, _⟩
    simp only [isSpace, Bool.or_eq_true, Bool.and_eq_true, decide_eq_true_eq] at blank
    rcases blank with rfl | ⟨_, upper⟩
    · exact absurd lower (by decide)
    · exact absurd (UInt8.le_trans lower upper) (by decide)
  rw [toUpper, if_neg other]
  exact blank

theorem Spells.solid {str : Bytes} {entry : String × Command} (spells : Spells str entry) :
    str ≠ [] ∧ ∀ ch ∈ str, quoted.blank ch = false := by
  obtain ⟨given, solid⟩ := names_solid entry spells.known
  rw [← spells.cased] at given solid
  constructor
  · intro empty
    exact given (by rw [empty]; rfl)
  · intro ch member
    have upper := solid (toUpper ch) (List.mem_map_of_mem member)
    exact Bool.eq_false_of_not_eq_true fun blank =>
      Bool.false_ne_true (upper.symm.trans (toUpper_space blank))

theorem Spells.found {str : Bytes} {entry : String × Command} (spells : Spells str entry)
    {iequals : Bytes → Bytes → Bool} (ignores : IgnoresCase iequals) :
    getCommandFromString iequals str = .ok entry.2 := by
  have equal := (ignores str (text entry.1)).mpr spells.cased
  unfold getCommandFromString
  cases found : commandNames.find? fun entry => iequals str (text entry.1) with
  | none => exact absurd equal (List.find?_eq_none.mp found entry spells.known)
  | some other =>
    have holds := List.find?_some found
    have cased := (ignores str (text other.1)).mp holds
    have same := names_apart other (List.mem_of_find?_eq_some found) entry spells.known
      (cased.symm.trans spells.cased)
    rw [same]

end Words

/-- A line is refused, or the arguments that begin in it are all returned. -/
def Keeps (begun : List (Begun Byte)) (parsed : Except AppError (Command × List Bytes)) : Prop :=
  (∃ error, parsed = .error error) ∨
    ∃ command args, parsed = .ok (command, args) ∧ begun = args.map Begun.complete

section Lines
variable {iequals : Bytes → Bytes → Bool} {str blanks rest : Bytes} {entry : String × Command}

private theorem parseCommand_splits (ignores : IgnoresCase iequals) (spells : Spells str entry)
    (gap : quoted.Gap blanks) (ends : ∀ ch ∈ rest.head?, quoted.blank ch = true)
    {begun : List (Begun Byte)} (splits : quoted.Splits rest begun) :
    parseCommand iequals (blanks ++ (str ++ rest)) = .ok (entry.2, Quoting.values begun) := by
  obtain ⟨given, solid⟩ := spells.solid
  obtain ⟨ch, letters, rfl⟩ := List.exists_cons_of_ne_nil given
  have word := Quoting.word_eq gap solid ends
  have args := Quoting.extractAll_splits splits
  simp only [parseCommand, word, Option.getD_some, spells.found ignores, args]
  rfl

/-- A command in any letter case is recognized, with all its arguments where they are written
by the standard library; and the arguments of a line are all kept just where none of them is
left open. -/
theorem parseCommand_keeps_iff (ignores : IgnoresCase iequals) (spells : Spells str entry)
    (gap : quoted.Gap blanks) (ends : ∀ ch ∈ rest.head?, quoted.blank ch = true) :
    (∀ args, quoted.Spaced args rest →
      parseCommand iequals (blanks ++ (str ++ rest)) = .ok (entry.2, args)) ∧
    ∃ begun, quoted.Splits rest begun ∧ (∀ other, quoted.Splits rest other → other = begun) ∧
      (Keeps begun (parseCommand iequals (blanks ++ (str ++ rest))) ↔
        ∀ body, Begun.unterminated body ∉ begun) := by
  constructor
  · intro args spaced
    rw [parseCommand_splits ignores spells gap ends spaced.splits, Quoting.values_complete]
  · obtain ⟨begun, splits⟩ := Quoting.splits_exists quoted rest
    refine ⟨begun, splits, fun other others => Quoting.splits_unique others splits, ?_⟩
    rw [parseCommand_splits ignores spells gap ends splits, ← Quoting.values_all_iff]
    constructor
    · rintro (⟨error, refused⟩ | ⟨command, args, returned, same⟩)
      · cases refused
      · obtain ⟨_, rfl⟩ := Prod.mk.inj (Except.ok.inj returned)
        exact same
    · exact fun same => .inr ⟨_, _, rfl, same⟩

/-- The comparison in the classic locale. -/
def ignoring (str other : Bytes) : Bool := str.map toUpper = other.map toUpper

theorem ignoring_ignoresCase : IgnoresCase ignoring := fun _ _ => decide_eq_true_iff

private theorem nothing : quoted.Gap [] := fun _ member => absurd member List.not_mem_nil

private theorem gap : quoted.Gap [space] := by
  intro ch member
  rw [List.mem_singleton.mp member]
  rfl

theorem parseCommand_keeps_iff_get :
    parseCommand ignoring (text "GeT \"a b\" \"\"") = .ok (.get, [text "a b", []]) := by
  have spells : Spells (text "GeT") ("get", .get) := ⟨by decide, by decide⟩
  have spaced : quoted.Spaced [text "a b", []] (text " \"a b\" \"\"") :=
    .cons gap (List.cons_ne_nil _ _) (.cons gap (List.cons_ne_nil _ _) (.nil nothing))
  exact (parseCommand_keeps_iff ignoring_ignoresCase spells nothing (by decide +kernel)).1 _ spaced

/-- An argument without its closing quote is dropped. -/
theorem unterminated_dropped : ¬ ∀ (line rest : Bytes) (begun : List (Begun Byte)),
    line = text "get" ++ rest → quoted.Splits rest begun → Keeps begun (parseCommand ignoring line) := by
  intro keeps
  have spells : Spells (text "get") ("get", .get) := ⟨by decide, by decide⟩
  have unclosed : quoted.Unclosed (text "a b") :=
    .plain (by decide) (by decide) (.plain (by decide) (by decide) (.plain (by decide) (by decide) .nil))
  have splits : quoted.Splits (text " \"a b") [.unterminated (text "a b")] := .unterminated gap unclosed
  have returned : parseCommand ignoring (text "get" ++ text " \"a b") = .ok (.get, []) :=
    parseCommand_splits ignoring_ignoresCase spells nothing (by decide +kernel) splits
  have kept := keeps _ _ _ rfl splits
  rw [returned] at kept
  rcases kept with ⟨error, refused⟩ | ⟨command, args, returned, same⟩
  · cases refused
  · obtain ⟨_, rfl⟩ := Prod.mk.inj (Except.ok.inj returned)
    cases same

end Lines

end CommandParser

end LibFtp
