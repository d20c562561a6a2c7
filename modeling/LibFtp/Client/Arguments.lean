import LibFtp.Client.Frame

/-! Where the caller's arguments go: every command is one of the client's own, or a
verb with one argument of the operation behind it. -/

namespace LibFtp

open Effect

namespace Client

/-- The operation puts the argument behind the verb. -/
def Operation.Passes : Operation → String → Bytes → Prop
  | .connect _ _ username password, verb, argument =>
    (verb = "USER" ∧ username = some argument) ∨
      (verb = "PASS" ∧ username.isSome ∧ argument = password)
  | .login username password, verb, argument =>
    (verb = "USER" ∧ argument = username) ∨ (verb = "PASS" ∧ argument = password)
  | .changeCurrentDirectory path, verb, argument => verb = "CWD" ∧ argument = path
  | .downloadFile path _, verb, argument => verb = "RETR" ∧ argument = path
  | .uploadFile path uploadUnique _, verb, argument =>
    verb = (if uploadUnique then "STOU" else "STOR") ∧ argument = path
  | .appendFile path _, verb, argument => verb = "APPE" ∧ argument = path
  | .getFileList path onlyNames, verb, argument =>
    verb = (if onlyNames then "NLST" else "LIST") ∧ path = some argument
  | .rename fromPath toPath, verb, argument =>
    (verb = "RNFR" ∧ argument = fromPath) ∨ (verb = "RNTO" ∧ argument = toPath)
  | .removeFile path, verb, argument => verb = "DELE" ∧ argument = path
  | .createDirectory path, verb, argument => verb = "MKD" ∧ argument = path
  | .removeDirectory path, verb, argument => verb = "RMD" ∧ argument = path
  | .getFileSize path, verb, argument => verb = "SIZE" ∧ argument = path
  | .getFileModifiedTime path, verb, argument => verb = "MDTM" ∧ argument = path
  | .getStatus path, verb, argument => verb = "STAT" ∧ path = some argument
  | .getHelp remoteCommand, verb, argument => verb = "HELP" ∧ remoteCommand = some argument
  | .sendSiteCommand remoteCommand, verb, argument => verb = "SITE" ∧ argument = remoteCommand
  | _, _, _ => False

/-- Verbs that never stand before a user name or a password. -/
def plainVerbs : List String :=
  ["CWD", "RETR", "STOU", "STOR", "APPE", "NLST", "LIST", "RNFR", "RNTO", "DELE", "MKD", "RMD",
    "SIZE", "MDTM", "STAT", "HELP", "SITE"]

def loginVerbs : List String := ["USER", "PASS"]

/-- Commands without a byte of the caller's. -/
def fixedCommands : List String :=
  ["EPSV", "PASV", "ABOR", "AUTH TLS", "PBSZ 0", "PROT P", "TYPE I", "TYPE A", "REIN", "CDUP",
    "PWD", "NLST", "LIST", "STAT", "SYST", "HELP", "SITE HELP", "NOOP", "QUIT"]

/-- The client's own commands. -/
inductive Own : Bytes → Prop where
  | fixed (member : command ∈ fixedCommands) : Own (text command)
  | eprt (endpoint : Endpoint) : Own (makeEprtCommand endpoint)
  | port (endpoint : Endpoint) : Own (makePortCommand endpoint)

/-- The operations that log in. -/
def Operation.LogsIn : Operation → Prop
  | .login .. | .connect _ _ (some _) _ => True
  | _ => False

theorem Operation.Passes.verb_mem {operation : Operation} (passes : operation.Passes verb argument) :
    verb ∈ plainVerbs ∨ verb ∈ loginVerbs ∧ operation.LogsIn := by
  cases operation with
  | connect hostname port username password =>
    rcases passes with ⟨rfl, same⟩ | ⟨rfl, named, -⟩
    · subst same
      exact .inr ⟨by decide, trivial⟩
    · obtain ⟨name, same⟩ := Option.isSome_iff_exists.mp named
      subst same
      exact .inr ⟨by decide, trivial⟩
  | login username password =>
    rcases passes with ⟨rfl, -⟩ | ⟨rfl, -⟩ <;> exact .inr ⟨by decide, trivial⟩
  | uploadFile path uploadUnique callback =>
    obtain ⟨rfl, -⟩ := passes
    cases uploadUnique <;> exact .inl (by decide)
  | getFileList path onlyNames =>
    obtain ⟨rfl, -⟩ := passes
    cases onlyNames <;> exact .inl (by decide)
  | rename fromPath toPath =>
    rcases passes with ⟨rfl, -⟩ | ⟨rfl, -⟩ <;> exact .inl (by decide)
  | changeCurrentDirectory | downloadFile | appendFile | removeFile | createDirectory
  | removeDirectory | getFileSize | getFileModifiedTime | getStatus | getHelp | sendSiteCommand =>
    obtain ⟨rfl, -⟩ := passes
    exact .inl (by decide)
  | _ => exact passes.elim

/-- A command with a caller's argument, or one of the client's own. -/
def Operation.Explains (operation : Operation) (command : Bytes) : Prop :=
  (∃ verb argument, operation.Passes verb argument ∧ command = makeCommand verb (some argument)) ∨
    Own command

private theorem own_fixed (literal : String) (member : literal ∈ fixedCommands)
    (same : command = text literal) : Own command :=
  same ▸ .fixed member

private theorem own_type (type : TransferType) : Own (makeTypeCommand type) := by
  cases type
  · exact own_fixed "TYPE I" (by decide) (by decide)
  · exact own_fixed "TYPE A" (by decide) (by decide)

private theorem own_negotiates (negotiates : Negotiates command) : Own command := by
  cases negotiates with
  | epsv => exact .fixed (by decide)
  | pasv => exact .fixed (by decide)
  | eprt endpoint => exact .eprt endpoint
  | port endpoint => exact .port endpoint
  | abor => exact .fixed (by decide)

private theorem login_explained (logsIn : Client.LogsIn username password command)
    (user : ∀ argument, argument = username → operation.Passes "USER" argument)
    (pass : ∀ argument, argument = password → Operation.Passes operation "PASS" argument) :
    operation.Explains command := by
  cases logsIn with
  | user => exact .inl ⟨_, _, user _ rfl, rfl⟩
  | pass => exact .inl ⟨_, _, pass _ rfl, rfl⟩
  | pbsz => exact .inr (.fixed (by decide))
  | prot => exact .inr (.fixed (by decide))
  | type type => exact .inr (own_type type)

theorem Operation.Issues.explained {operation : Operation} (issues : operation.Issues command) :
    operation.Explains command := by
  have bare (verb : String) (argument : Option Bytes) (same : command = makeCommand verb argument)
      (member : verb ∈ fixedCommands)
      (passes : ∀ given, argument = some given → operation.Passes verb given) :
      operation.Explains command := by
    cases argument with
    | none => exact .inr (own_fixed verb member same)
    | some given => exact .inl ⟨_, _, passes given rfl, same⟩
  cases operation with
  | connect hostname port username password =>
    rcases issues with same | ⟨name, same, logsIn⟩
    · exact .inr (own_fixed "AUTH TLS" (by decide) same)
    · subst same
      exact login_explained logsIn (fun _ same => .inl ⟨rfl, same ▸ rfl⟩)
        (fun _ same => .inr ⟨rfl, rfl, same⟩)
  | login username password =>
    exact login_explained issues (fun _ same => .inl ⟨rfl, same⟩) (fun _ same => .inr ⟨rfl, same⟩)
  | downloadFile path callback =>
    rcases issues with negotiates | same
    · exact .inr (own_negotiates negotiates)
    · exact .inl ⟨_, _, ⟨rfl, rfl⟩, same⟩
  | uploadFile path uploadUnique callback =>
    rcases issues with negotiates | same
    · exact .inr (own_negotiates negotiates)
    · exact .inl ⟨_, _, ⟨rfl, rfl⟩, same⟩
  | appendFile path callback =>
    rcases issues with negotiates | same
    · exact .inr (own_negotiates negotiates)
    · exact .inl ⟨_, _, ⟨rfl, rfl⟩, same⟩
  | getFileList path onlyNames =>
    rcases issues with negotiates | same
    · exact .inr (own_negotiates negotiates)
    · exact bare _ path same (by cases onlyNames <;> decide) fun _ given => ⟨rfl, given⟩
  | rename fromPath toPath =>
    rcases issues with same | same
    · exact .inl ⟨_, _, .inl ⟨rfl, rfl⟩, same⟩
    · exact .inl ⟨_, _, .inr ⟨rfl, rfl⟩, same⟩
  | getStatus path => exact bare "STAT" path issues (by decide) fun _ given => ⟨rfl, given⟩
  | getHelp remoteCommand => exact bare "HELP" remoteCommand issues (by decide) fun _ given => ⟨rfl, given⟩
  | setTransferType type =>
    have same : command = makeTypeCommand type := issues
    exact .inr (same ▸ own_type type)
  | disconnect graceful => exact .inr (own_fixed "QUIT" (by decide) issues.2)
  | logout => exact .inr (own_fixed "REIN" (by decide) issues)
  | changeCurrentDirectoryUp => exact .inr (own_fixed "CDUP" (by decide) issues)
  | getCurrentDirectory => exact .inr (own_fixed "PWD" (by decide) issues)
  | getSystemType => exact .inr (own_fixed "SYST" (by decide) issues)
  | sendNoop => exact .inr (own_fixed "NOOP" (by decide) issues)
  | getSiteCommands =>
    have same : command = makeCommand "SITE" (some (text "HELP")) := issues
    exact .inr (own_fixed "SITE HELP" (by decide) (same.trans (by decide)))
  | changeCurrentDirectory | removeFile | createDirectory | removeDirectory | getFileSize
  | getFileModifiedTime | sendSiteCommand => exact .inl ⟨_, _, ⟨rfl, rfl⟩, issues⟩
  | _ => exact issues.elim

/-- The command that starts the transfer. -/
def Operation.mainCommand : Operation → Option Bytes
  | .downloadFile path _ => some (makeCommand "RETR" (some path))
  | .uploadFile path uploadUnique _ =>
    some (makeCommand (if uploadUnique then "STOU" else "STOR") (some path))
  | .appendFile path _ => some (makeCommand "APPE" (some path))
  | .getFileList path onlyNames => some (makeCommand (if onlyNames then "NLST" else "LIST") path)
  | _ => none

private theorem take_text (literal : String) (rest : Bytes) (four : (text literal).length = 4) :
    (text literal ++ rest).take 4 = text literal := by
  rw [List.take_append_of_le_length four.ge, List.take_of_length_le four.le]

private theorem take_makeCommand (verb : String) (argument : Option Bytes)
    (four : (text verb).length = 4) : (makeCommand verb argument).take 4 = text verb := by
  cases argument with
  | none => exact List.take_of_length_le four.le
  | some argument =>
    rw [makeCommand, List.append_assoc]
    exact take_text verb _ four

private theorem negotiates_take (negotiates : Negotiates command) :
    command.take 4 ∈ ["EPSV", "PASV", "EPRT", "PORT", "ABOR"].map text := by
  cases negotiates with
  | epsv => decide
  | pasv => decide
  | eprt endpoint =>
    simp only [makeEprtCommand, List.append_assoc]
    rw [take_text "EPRT" _ (by decide)]
    decide
  | port endpoint =>
    simp only [makePortCommand, List.append_assoc]
    rw [take_text "PORT" _ (by decide)]
    decide
  | abor => decide

theorem mainCommand_take {operation : Operation}
    (transfers : operation.mainCommand = some main) :
    main.take 4 ∈ ["RETR", "STOU", "STOR", "APPE", "NLST", "LIST"].map text := by
  have verb (verb : String) (argument : Option Bytes) (four : (text verb).length = 4)
      (member : text verb ∈ ["RETR", "STOU", "STOR", "APPE", "NLST", "LIST"].map text)
      (same : makeCommand verb argument = main) :
      main.take 4 ∈ ["RETR", "STOU", "STOR", "APPE", "NLST", "LIST"].map text := by
    rw [← same, take_makeCommand verb argument four]
    exact member
  cases operation with
  | downloadFile path callback =>
    exact verb "RETR" (some path) (by decide) (by decide) (Option.some.inj transfers)
  | uploadFile path uploadUnique callback =>
    cases uploadUnique with
    | true => exact verb "STOU" (some path) (by decide) (by decide) (Option.some.inj transfers)
    | false => exact verb "STOR" (some path) (by decide) (by decide) (Option.some.inj transfers)
  | appendFile path callback =>
    exact verb "APPE" (some path) (by decide) (by decide) (Option.some.inj transfers)
  | getFileList path onlyNames =>
    cases onlyNames with
    | true => exact verb "NLST" path (by decide) (by decide) (Option.some.inj transfers)
    | false => exact verb "LIST" path (by decide) (by decide) (Option.some.inj transfers)
  | _ => cases transfers

/-- The first four bytes tell the commands around a transfer from the main command. -/
theorem Negotiates.ne_main (negotiates : Negotiates command) {operation : Operation}
    (transfers : operation.mainCommand = some main) : command ≠ main := by
  intro same
  have apart : ∀ front ∈ ["EPSV", "PASV", "EPRT", "PORT", "ABOR"].map text,
      front ∉ ["RETR", "STOU", "STOR", "APPE", "NLST", "LIST"].map text := by
    decide
  exact apart _ (negotiates_take negotiates) (same ▸ mainCommand_take transfers)

end Client

end LibFtp
