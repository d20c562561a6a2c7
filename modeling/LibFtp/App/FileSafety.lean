import LibFtp.App.Frame
import LibFtp.App.LocalFiles
import LibFtp.Effect.Temporal

/-! The local files over a whole run of the program. It writes to files that it has made
itself, and what it removes is one of them, or a link that led nowhere. -/

namespace LibFtp

open Effect

namespace Disk

/-- What led somewhere is as it was: the files, the directories, and the links to them. -/
def Kept (naming : Naming) (files : Files) (disk : Disk) : Prop :=
  ∀ entry, naming.Leads files entry → disk.files entry = files entry

/-- And what is written to is none of it. -/
structure Safe (naming : Naming) (files : Files) (disk : Disk) : Prop where
  kept : Kept naming files disk
  fresh : ∀ entry, disk.target = some entry → ¬ naming.Leads files entry

namespace Safe

variable {naming : Naming} {files : Files} {disk : Disk} {entry path : Bytes}

theorem update (safe : Safe naming files disk) (nowhere : ¬ naming.Leads files entry)
    (held : Option Node) : Kept naming files ⟨Function.update disk.files entry held, disk.target⟩ := by
  intro other leads
  have different : other ≠ entry := by
    rintro rfl
    exact nowhere leads
  exact (Function.update_of_ne different _ _).trans (safe.kept other leads)

theorem append (safe : Safe naming files disk) (data : Bytes) :
    Safe naming files (disk.append data) := by
  unfold Disk.append
  split
  · exact safe
  · rename_i entry target
    split
    · exact ⟨safe.update (safe.fresh entry target) _, safe.fresh⟩
    · exact safe

/-- An entry that is not there has led nowhere before. -/
theorem absent (safe : Safe naming files disk) (absent : disk.files entry = none) :
    ¬ naming.Leads files entry :=
  fun leads => leads.present ((safe.kept entry leads).symm.trans absent)

end Safe

/-- The files are followed, and whether what led somewhere has been kept so far. -/
abbrev guarded (naming : Naming) (files : Files) : Monitor boundary (Disk × Prop) :=
  (monitor naming).guard (Kept naming files)

def Guarded (naming : Naming) (files : Files) (moment : Disk × Prop) : Prop :=
  Safe naming files moment.1 ∧ moment.2

variable {naming : Naming} {files : Files}

private theorem Safe.guarded {moment after : Disk × Prop} {event : BoundaryEvent}
    (safe : Safe naming files after.1) (holds : Guarded naming files moment)
    (step : (guarded naming files).step moment event after) : Guarded naming files after := by
  refine ⟨safe, ?_⟩
  rw [step.2]
  exact ⟨holds.2, safe.kept⟩

private theorem guarded_undisturbed (moment : Disk × Prop) (event : BoundaryEvent)
    (after : Disk × Prop) (unfiled : Unfiled event.query) (holds : Guarded naming files moment)
    (step : (guarded naming files).step moment event after) : Guarded naming files after := by
  refine Safe.guarded ?_ holds step
  rcases unfiled_step unfiled step.1 with same | ⟨data, same⟩
  · rw [same]
    exact holds.1
  · rw [same]
    exact holds.1.append data

end Disk

namespace CommandHandler

open Client Disk

variable (naming : Naming) (files : Files) (fuel : Nat)

private theorem files_bear :
    Bears (guarded naming files) fuel (fun _ => Guarded naming files)
      (fun _ _ => Guarded naming files) where
  raised _ _ _ _ := id
  left _ _ _ := id
  breaks event error _ ghost after breaks holds step := by
    have unfiled (query : Boundary.Query) (same : event.query = query) (unfiled : Unfiled query) :
        Guarded naming files after :=
      guarded_undisturbed ghost event after (by rw [same]; exact unfiled) holds step
    cases breaks with
    | line => exact unfiled _ rfl fun _ => ⟨nofun, nofun⟩
    | password => exact unfiled _ rfl fun _ => ⟨nofun, nofun⟩
    | existence => exact unfiled _ rfl fun _ => ⟨nofun, nofun⟩
    | removal ec =>
      refine Safe.guarded ?_ holds step
      rw [show after.1 = ghost.1 from step.1]
      exact holds.1
  spun _ _ := id
  asked query answer _ ghost after plain holds step := by
    have unfiled : Unfiled query := by
      intro path
      constructor
      · rintro rfl
        cases plain
      · rintro rfl
        cases plain
    exact guarded_undisturbed ghost ⟨query, answer⟩ after unfiled holds step
  performed operation handler ghost _ holds := by
    have undisturbed (ghost : Disk × Prop) (event : BoundaryEvent) (after : Disk × Prop)
        (remote : Remote event.query) (holds : Guarded naming files ghost)
        (step : (guarded naming files).step ghost event after) : Guarded naming files after := by
      have unfiled : Unfiled event.query := by
        intro path
        constructor
        · intro same
          rw [same] at remote
          cases remote
        · intro same
          rw [same] at remote
          cases remote
      exact guarded_undisturbed ghost event after unfiled holds step
    exact (remote_upholds undisturbed).invoke operation (fun _ _ => trivial) fuel handler.ftpClient
      ghost holds

variable {naming files fuel}

/-- The path leads to a place where nothing is. -/
private def Free (naming : Naming) (path : Bytes) (disk : Disk) : Prop :=
  ∃ entry, naming.resolve disk.files path = some entry ∧ disk.files entry = none

private theorem exists_files (path : Bytes) :
    Program.Triple (guarded naming files) fuel
      (fun handler moment => Guarded naming files moment ∧ Connected handler)
      (ask (.fileExists path))
      (fun found handler moment => (Guarded naming files moment ∧ Connected handler) ∧
        (found = .ok false → ¬ naming.Leads files (naming.entry path) ∧ Free naming path moment.1))
      (fun _ _ => Guarded naming files) := by
  intro handler moment ⟨holds, isConnected⟩ found after step
  have unfiled : Unfiled (.fileExists path) := fun _ => ⟨nofun, nofun⟩
  have kept := guarded_undisturbed moment ⟨.fileExists path, found⟩ after unfiled holds step
  refine ⟨⟨kept, isConnected⟩, ?_⟩
  rintro rfl
  obtain ⟨⟨⟨entry, resolved, absent⟩, same⟩, -⟩ := step
  have absent : moment.1.files entry = none := by simpa using absent.symm
  rw [same]
  exact ⟨Naming.leads_kept holds.1.kept resolved absent, entry, resolved, absent⟩

private theorem create_files (path : Bytes) :
    Program.Triple (guarded naming files) fuel
      (fun handler moment => (Guarded naming files moment ∧ Connected handler) ∧
        Free naming path moment.1)
      (ask (.fileCreate path))
      (fun _ handler moment => Guarded naming files moment ∧ Connected handler)
      (fun _ _ => Guarded naming files) := by
  intro handler moment ⟨⟨holds, isConnected⟩, entry, resolved, absent⟩ created after step
  refine ⟨Safe.guarded ?_ holds step, isConnected⟩
  obtain ⟨step, -⟩ := step
  cases created with
  | false =>
    rw [show after.1 = moment.1 from step]
    exact holds.1
  | true =>
    obtain ⟨target, again, same⟩ := step
    obtain rfl : entry = target := Option.some.inj (resolved.symm.trans again)
    rw [same]
    have nowhere := holds.1.absent absent
    refine ⟨holds.1.update nowhere _, fun other same => ?_⟩
    rw [← Option.some.inj same]
    exact nowhere

private theorem remove_files {path : Bytes} (nowhere : ¬ naming.Leads files (naming.entry path))
    {pre : CommandHandler → Prop} :
    (files_bear naming files fuel).Runs pre (ask (.fileRemove path)) fun _ => pre := by
  intro handler moment ⟨holds, known⟩ refused after step
  refine ⟨Safe.guarded ?_ holds step, known⟩
  obtain ⟨step, -⟩ := step
  cases refused with
  | some ec =>
    rw [show after.1 = moment.1 from step]
    exact holds.1
  | none =>
    rw [show after.1 = { moment.1 with files := Function.update moment.1.files (naming.entry path) none }
      from step]
    exact ⟨holds.1.update nowhere _, holds.1.fresh⟩

/-- The target of a download led nowhere before it was made. -/
private theorem createTarget_files (args : List Bytes) :
    Program.Triple (guarded naming files) fuel (fun _ moment => Guarded naming files moment ∧ True)
      (createTarget args)
      (fun names handler moment => (Guarded naming files moment ∧ Connected handler) ∧
        ¬ naming.Leads files (naming.entry names.2))
      (fun _ _ => Guarded naming files) := by
  have bears := files_bear naming files fuel
  refine bears.requireConnected_holds.bind fun _ => ?_
  refine (bears.transferArgs_holds _ _ args).bind fun names => ?_
  refine (exists_files names.2).bind fun found => ?_
  rcases found with ec | (_ | _)
  · exact fun _ _ both => both.1.1
  · intro handler moment both
    obtain ⟨nowhere, free⟩ := both.2 rfl
    dsimp only
    rw [Program.wp_bind]
    refine (create_files names.2).apply ⟨both.1, free⟩ (fun created last after kept => ?_) fun _ _ _ => id
    cases created with
    | false => exact kept.1
    | true => exact ⟨kept, nowhere⟩
  · exact fun _ _ both => both.1.1

private theorem fetch_files {localFile : Bytes}
    (nowhere : ¬ naming.Leads files (naming.entry localFile)) (remoteFile : Bytes) :
    (files_bear naming files fuel).Runs Connected (fetch remoteFile localFile) Bears.Ends := by
  have bears := files_bear naming files fuel
  have downloads : bears.Runs Connected (onClient (Client.processDownload remoteFile true))
      Bears.Ends := bears.offered_holds .downloadFile rfl
  refine downloads.bind fun replies => ?_
  cases replies.isPositive with
  | true => exact bears.ret _ fun _ _ => trivial
  | false =>
    refine bears.answers (remove_files nowhere) fun refused => ?_
    cases refused with
    | none => exact .inl (bears.ret _ fun _ _ => trivial)
    | some ec => exact .inr ⟨_, rfl, .removal ec⟩

private theorem get_files (args : List Bytes) :
    (files_bear naming files fuel).Runs (fun _ => True) (get args) Bears.Ends := by
  rw [get_eq]
  refine (createTarget_files args).bind fun names => ?_
  exact fun handler moment both => fetch_files both.2 names.1 handler moment both.1

end CommandHandler

namespace CmdlineInterface

open Client CommandHandler Disk

/-- At every moment of a run of the program every file and every directory that was there before
it, and every link that led to one, holds what it held. -/
theorem run_keeps_files (naming : Naming) (iequals : Bytes → Bytes → Bool)
    (message : ErrorCode → Bytes) (host : Host boundary World) (fuel : Nat) (handler : CommandHandler)
    (world : World) (files : Files) (front back : List BoundaryEvent) (middle last : Disk)
    (split : ((run iequals message).run host fuel handler world).events = front ++ back)
    (first : (Disk.monitor naming).Drives ⟨files, none⟩ front middle)
    (second : (Disk.monitor naming).Drives middle back last) :
    ∀ entry, naming.Leads files entry → middle.files entry = files entry := by
  have safe : Safe naming files ⟨files, none⟩ := ⟨fun _ _ => rfl, nofun⟩
  have ends := (files_bear naming files fuel).program_holds get_files iequals message handler
    (⟨files, none⟩, True) ⟨⟨safe, trivial⟩, trivial⟩
  refine guarded_run (Program.wp_mono ends ?_ ?_) split safe.kept first second
  · exact fun _ _ _ both => both.1.2
  · exact fun _ _ _ holds => holds.2

section Cases

/-- A user who types the given lines, and then leaves. -/
def typing : Host boundary (List Bytes × Script) where
  respond
    | .consoleRead _, ([], script) => (some (text "exit"), ([], script))
    | .consoleRead _, (line :: lines, script) => (some line, (lines, script))
    | query, (lines, script) =>
      ((Script.respond query script).1, (lines, (Script.respond query script).2))

/-- Letters are compared as the parser compares them. -/
def ignoringCase (str other : Bytes) : Bool :=
  str.map CommandParser.toUpper = other.map CommandParser.toUpper

/-- A download that the server refuses, on a client that is not logged in. -/
private def refusedGet : List BoundaryEvent :=
  ((run ignoringCase fun _ => []).run typing 9 CommandHandler.new
    ([text "open h", text "u", text "get f"],
      .ofReplies [text "220 r\r\n", text "530 u\r\n", text "500 no\r\n", text "221 b\r\n"])).events

private def isStill : Boundary.Query → Bool
  | .fileExists _ | .fileCreate _ | .fileRemove _ | .sinkWrite _ | .sinkFlush => false
  | _ => true

private theorem still_drives {naming : Naming} {disk : Disk} {events : List BoundaryEvent}
    (still : (events.all fun event => isStill event.query) = true) :
    (Disk.monitor naming).Drives disk events disk := by
  induction events with
  | nil => exact .nil
  | cons event events ih =>
    rw [List.all_cons, Bool.and_eq_true] at still
    refine .cons ?_ (ih still.2)
    obtain ⟨query, answer⟩ := event
    cases query <;> first | rfl | cases still.1

private def plainly : Naming := ⟨id, 40⟩

/-- A file, and a link to it. -/
private def oldFiles : Files := fun entry =>
  if entry = text "g" then some (.file (text "old"))
  else if entry = text "l" then some (.link (text "g"))
  else none

private def targeted : Disk :=
  ⟨Function.update oldFiles (text "f") (some (.file [])), some (text "f")⟩

theorem run_keeps_files_refused :
    ∃ middle, (Disk.monitor plainly).Drives ⟨oldFiles, none⟩ (refusedGet.take 15) middle ∧
      middle.files (text "f") = some (.file []) ∧ middle.files (text "l") = some (.link (text "g")) := by
  have parts : refusedGet.take 15 = refusedGet.take 13 ++
      [⟨.fileExists (text "f"), .ok false⟩, ⟨.fileCreate (text "f"), true⟩] := by decide +kernel
  have others : refusedGet.drop 15 = (refusedGet.drop 15).take 4 ++
      (⟨.fileRemove (text "f"), none⟩ :: refusedGet.drop 20) := by decide +kernel
  have made : plainly.resolve oldFiles (text "f") = some (text "f") := by decide +kernel
  have first : (Disk.monitor plainly).Drives ⟨oldFiles, none⟩ (refusedGet.take 15) targeted := by
    rw [parts]
    exact (still_drives (by decide +kernel)).append
      (.cons ⟨⟨_, made, rfl⟩, rfl⟩ (.cons ⟨_, made, rfl⟩ .nil))
  have second : (Disk.monitor plainly).Drives targeted (refusedGet.drop 15)
      { targeted with files := Function.update targeted.files (text "f") none } := by
    rw [others]
    exact (still_drives (by decide +kernel)).append (.cons rfl (still_drives (by decide +kernel)))
  have leads : plainly.Leads oldFiles (text "l") :=
    ⟨text "g", by decide +kernel, by decide +kernel⟩
  refine ⟨targeted, first, rfl, ?_⟩
  exact run_keeps_files plainly ignoringCase (fun _ => []) typing 9 CommandHandler.new _ oldFiles _ _
    targeted _ (List.take_append_drop 15 refusedGet).symm first second (text "l") leads

end Cases

end CmdlineInterface

end LibFtp
