import LibFtp.App.CommandHandler
import LibFtp.App.Disk
import LibFtp.Client.Record
import LibFtp.Detail.Script

/-! What the get command makes of the local files. The target is there before the download
begins, and is removed on one of the ways out only. -/

namespace LibFtp

open Effect Client

namespace CommandHandler

/-- The first half of `get`, up to the creation of the local file. -/
def createTarget (args : List Bytes) : Action (Bytes × Bytes) := do
  requireConnected
  let (remoteFile, localFile) ←
    transferArgs "remote-file: " "usage: get remote-file [ local-file ]" args
  match ← ask (.fileExists localFile) with
  | .error ec => Program.raise (.filesystem ec)
  | .ok true => throwCmdline "File '%1%' already exists." [localFile]
  | .ok false =>
    if !(← ask (.fileCreate localFile)) then throwCmdline "Cannot create file '%1%'." [localFile]
    return (remoteFile, localFile)

/-- The second half. -/
def fetch (remoteFile localFile : Bytes) : Action Unit := do
  let replies ← onClient (Client.processDownload remoteFile true)
  if !replies.isPositive then
    match ← ask (.fileRemove localFile) with
    | some ec => Program.raise (.filesystem ec)
    | none => pure ()

theorem get_eq (args : List Bytes) : get args = (do
    let (remoteFile, localFile) ← createTarget args
    fetch remoteFile localFile) := by
  simp only [get, createTarget, bind_assoc]
  congr 1
  funext _
  congr 1
  funext files
  obtain ⟨remoteFile, localFile⟩ := files
  dsimp only
  congr 1
  funext answer
  rcases answer with ec | (_ | _)
  · rfl
  · dsimp only
    rw [bind_assoc]
    congr 1
    funext created
    cases created <;> rfl
  · rfl

/-- The replies that the observers are told of. -/
def heard (event : BoundaryEvent) : Option Reply := (notification event).map Prod.snd

section Target
variable {naming : Naming} {fuel : Nat} {handler : CommandHandler} {files : Files}

private theorem transferArgs_spec (prompt usage : String) (args : List Bytes) :
    (transferArgs prompt usage args).wp ((Disk.monitor naming).both (Monitor.collect heard)) fuel
      (fun _ _ last => last = (⟨files, none⟩, [])) (fun _ _ last => last = (⟨files, none⟩, []))
      handler (⟨files, none⟩, []) := by
  unfold transferArgs
  split
  · rw [Program.wp_bind]
    apply wp_readLine
    · intro name ⟨disk, told⟩ ⟨kept, silent⟩
      have kept : disk = ⟨files, none⟩ := kept
      have silent : told = [] := silent
      rw [kept, silent]
      rfl
    · intro ⟨disk, told⟩ ⟨kept, silent⟩
      have kept : disk = ⟨files, none⟩ := kept
      have silent : told = [] := silent
      rw [kept, silent]
  · rfl
  · rfl
  · rfl

/-- The target is new, and it is there when the first half ends. -/
private theorem createTarget_spec (args : List Bytes) :
    (createTarget args).wp ((Disk.monitor naming).both (Monitor.collect heard)) fuel
      (fun names _ last => last.2 = [] ∧ ∃ entry, naming.resolve files names.2 = some entry ∧
        files entry = none ∧
        last.1 = ⟨Function.update files entry (some (.file [])), some entry⟩)
      (fun _ _ last => last.1.files = files) handler (⟨files, none⟩, []) := by
  unfold createTarget requireConnected
  simp only [Program.wp_bind, Program.wp_get, Program.wp_ite]
  split
  · rfl
  rw [Program.wp_pure]
  refine Program.wp_mono (transferArgs_spec _ _ args) ?_ fun _ _ _ same => congrArg (·.1.files) same
  intro ⟨remoteFile, localFile⟩ _ last same
  subst last
  intro answer ⟨disk, told⟩ ⟨asked, silent⟩
  obtain rfl : told = [] := silent
  cases answer with
  | error ec =>
    obtain rfl : disk = ⟨files, none⟩ := asked
    rfl
  | ok found =>
    obtain ⟨⟨entry, resolved, absent⟩, same⟩ := asked
    obtain rfl : disk = ⟨files, none⟩ := same
    cases found with
    | true => rfl
    | false =>
      have absent : files entry = none := by simpa using absent.symm
      intro created ⟨disk, told⟩ ⟨step, silent⟩
      obtain rfl : told = [] := silent
      cases created with
      | true =>
        obtain ⟨target, again, step⟩ := step
        obtain rfl : entry = target := Option.some.inj (resolved.symm.trans again)
        exact ⟨rfl, entry, resolved, absent, step⟩
      | false =>
        obtain rfl : disk = ⟨files, none⟩ := step
        rfl

private theorem createTarget_run {World : Type} (host : Host boundary World) (fuel : Nat)
    (handler : CommandHandler) (world : World) (args : List Bytes) (files : Files) (disk : Disk)
    (drives : (Disk.monitor naming).Drives ⟨files, none⟩
      ((createTarget args).run host fuel handler world).events disk) :
    (∃ remoteFile localFile entry,
      ((createTarget args).run host fuel handler world).value.1 = .ok (remoteFile, localFile) ∧
      naming.resolve files localFile = some entry ∧ files entry = none ∧
      Disk.Beside files entry disk ∧
      ((createTarget args).run host fuel handler world).events.filterMap heard = []) ∨
    (∃ stop, ((createTarget args).run host fuel handler world).value.1 = .error stop ∧
      disk.files = files) := by
  have told := Monitor.collect_drives heard [] ((createTarget args).run host fuel handler world).events
  rcases Program.wp_run (createTarget_spec args) host world (drives.both told) with
    ⟨⟨remoteFile, localFile⟩, same, silent, entry, resolved, absent, created⟩ | ⟨stop, same, kept⟩
  · refine .inl ⟨remoteFile, localFile, entry, same, resolved, absent, ?_, silent⟩
    obtain rfl : disk = _ := created
    constructor
    · rfl
    · exact ⟨[], Function.update_self _ _ _⟩
    · exact fun other different => Function.update_of_ne different _ _
  · exact .inr ⟨stop, same, kept⟩

end Target

section Fetch
variable {World : Type}

abbrev DownloadRun (World : Type) := Run boundary World (Except (Stop FtpException) Replies × Client)

/-- What the second half makes of a download. -/
def settle (host : Host boundary World) (localFile : Bytes) (download : DownloadRun World) :
    Run boundary World (Except (Stop AppError) Unit × CommandHandler) :=
  match download.value with
  | (.ok replies, client) =>
    if replies.isPositive then ⟨(.ok (), ⟨client⟩), download.world, download.events⟩
    else
      let removal := host.respond (.fileRemove localFile) download.world
      let ended := match removal.1 with
        | none => .ok ()
        | some ec => .error (.raised (.filesystem ec))
      ⟨(ended, ⟨client⟩), removal.2, download.events ++ [⟨.fileRemove localFile, removal.1⟩]⟩
  | (.error (.raised error), client) =>
    ⟨(.error (.raised (.ftp error)), ⟨client⟩), download.world, download.events⟩
  | (.error .spinning, client) => ⟨(.error .spinning, ⟨client⟩), download.world, download.events⟩

private theorem removal_run (host : Host boundary World) (fuel : Nat) (localFile : Bytes)
    (handler : CommandHandler) (world : World) :
    (do
      match ← ask (.fileRemove localFile) with
      | some ec => Program.raise (.filesystem ec)
      | none => pure () : Action Unit).run host fuel handler world =
      let removal := host.respond (.fileRemove localFile) world
      ⟨((match removal.1 with
        | none => .ok ()
        | some ec => .error (.raised (.filesystem ec))), handler), removal.2,
        [⟨.fileRemove localFile, removal.1⟩]⟩ := by
  rw [Program.run_bind]
  have asked : (ask (.fileRemove localFile)).run host fuel handler world =
    ⟨(.ok (host.respond (.fileRemove localFile) world).1, handler),
      (host.respond (.fileRemove localFile) world).2,
      [⟨.fileRemove localFile, (host.respond (.fileRemove localFile) world).1⟩]⟩ := rfl
  rw [asked]
  generalize host.respond (.fileRemove localFile) world = removal
  obtain ⟨answer, after⟩ := removal
  cases answer <;> rfl

private theorem fetch_run (host : Host boundary World) (fuel : Nat) (remoteFile localFile : Bytes)
    (handler : CommandHandler) (world : World) :
    (fetch remoteFile localFile).run host fuel handler world =
      settle host localFile
        ((processDownload remoteFile true).run host fuel handler.ftpClient world) := by
  simp only [fetch, onClient, Program.run_bind, Program.run_recover, Program.run_zoom]
  generalize (processDownload remoteFile true).run host fuel handler.ftpClient world = download
  obtain ⟨⟨(error | _) | replies, client⟩, after, events⟩ := download
  · simp [settle, Program.run, Program.raise, Tree.run]
  · rfl
  · cases positive : replies.isPositive with
    | true =>
      simp only [settle, positive]
      exact congrArg (Run.mk (Except.ok (), CommandHandler.mk client) after) (List.append_nil events)
    | false =>
      have removed := removal_run host fuel localFile ⟨client⟩ after
      simp only [settle, positive, Bool.not_false, if_true, removed]
      rfl

/-- A download that returns has told the observers of every reply in its list. -/
private theorem processDownload_heard (host : Host boundary World) (fuel : Nat) (path : Bytes)
    (client : Client) (world : World) (replies : Replies) {run : DownloadRun World}
    (same : (processDownload path true).run host fuel client world = run)
    (returned : run.value.1 = .ok replies) :
    replies.isPositive = true → ∀ reply ∈ run.events.filterMap heard, reply.isPositive = true := by
  have recorded := invoke_records (.downloadFile path true) fuel client
  simp only [invoke, Program.wp_bind, Program.wp_pure] at recorded
  rcases Program.wp_run recorded host world (Monitor.history_drives [] _) with
    ⟨value, equal, faithful⟩ | ⟨stop, equal, _⟩
  · rw [same] at equal faithful
    obtain rfl : replies = value := Except.ok.inj (returned.symm.trans equal)
    have record := faithful replies rfl
    intro positive reply member
    have told : run.events.filterMap heard = replies.replies := by
      have mapped := congrArg (List.map Prod.snd) record.notified
      rw [List.map_map, List.nil_append, List.map_filterMap] at mapped
      exact mapped.trans (List.map_id _)
    rw [told] at member
    exact (record.isPositive.mp positive).2 reply member
  · rw [same] at equal
    cases returned.symm.trans equal

private theorem processDownload_beside (host : Host boundary World) (fuel : Nat) (path : Bytes)
    (client : Client) (world : World) {naming : Naming} {files : Files} {entry : Bytes}
    {disk after : Disk} (beside : Disk.Beside files entry disk)
    (drives : (Disk.monitor naming).Drives disk
      ((processDownload path true).run host fuel client world).events after) :
    Disk.Beside files entry after := by
  have kept := (Disk.beside_carries naming files entry).processDownload (fun _ _ => trivial) path
    true trivial fuel client disk beside
  rcases Program.wp_run kept host world drives with ⟨_, _, after⟩ | ⟨_, _, after⟩
  · exact after
  · exact after

end Fetch

/-- The files are as they were, but for a new one after a return with all replies positive. -/
def AllOrNothing (before after : Files) (told : List Reply)
    (ended : Except (Stop AppError) Unit) : Prop :=
  (∀ entry held, before entry = some held → after entry = some held) ∧
    (after ≠ before → ended = .ok () ∧ ∀ reply ∈ told, reply.isPositive = true)

/-- Once the target has been created, the download raises nothing, and after a negative reply
the removal is not refused and meets the file itself, not a link that led to it. -/
def Settles (naming : Naming) (files : Files) (host : Host boundary World) (fuel : Nat)
    (handler : CommandHandler) (world : World) (args : List Bytes) : Prop :=
  ∀ remoteFile localFile : Bytes,
    let begun := (createTarget args).run host fuel handler world
    let download := (processDownload remoteFile true).run host fuel begun.value.2.ftpClient begun.world
    begun.value.1 = .ok (remoteFile, localFile) →
      ∃ replies, download.value.1 = .ok replies ∧
        (replies.isPositive = true ∨
          (host.respond (.fileRemove localFile) download.world).1 = none ∧
            files (naming.entry localFile) = none)

section Verdict
variable {naming : Naming} {files : Files} {localFile entry : Bytes} {disk last : Disk}
  {told : List Reply} {ended : Except (Stop AppError) Unit}

private theorem not_allOrNothing (beside : Disk.Beside files entry last)
    (absent : files entry = none) (failed : ended ≠ .ok ()) :
    ¬ AllOrNothing files last.files told ended :=
  fun holds => failed (holds.2 (beside.changed absent)).1

private theorem allOrNothing_beside (beside : Disk.Beside files entry last)
    (absent : files entry = none) (positive : ∀ reply ∈ told, reply.isPositive = true) :
    AllOrNothing files last.files told (.ok ()) := by
  constructor
  · intro kept content held
    have other : kept ≠ entry := by
      intro same
      rw [same, absent] at held
      cases held
    exact (beside.others kept other).trans held
  · exact fun _ => ⟨rfl, positive⟩

private theorem allOrNothing_same (same : last.files = files) :
    AllOrNothing files last.files told ended := by
  rw [same]
  exact ⟨fun _ _ held => held, fun changed => absurd rfl changed⟩

/-- A name that nothing bears is the entry that is created. -/
private theorem entry_bare (resolved : naming.resolve files localFile = some entry)
    (bare : files (naming.entry localFile) = none) : naming.entry localFile = entry := by
  rw [Naming.resolve, Naming.follow_other (by simp [bare])] at resolved
  exact Option.some.inj resolved

private theorem removed_same (beside : Disk.Beside files entry last)
    (absent : files entry = none) : Function.update last.files entry none = files := by
  funext path
  by_cases same : path = entry
  · rw [same, Function.update_self, absent]
  · rw [Function.update_of_ne same, beside.others path same]

private theorem settle_iff (host : Host boundary World) (download : DownloadRun World)
    (heardAll : ∀ replies, download.value.1 = .ok replies → replies.isPositive = true →
      ∀ reply ∈ download.events.filterMap heard, reply.isPositive = true)
    (resolved : naming.resolve files localFile = some entry) (absent : files entry = none)
    (kept : ∀ after, (Disk.monitor naming).Drives disk download.events after →
      Disk.Beside files entry after)
    (drives : (Disk.monitor naming).Drives disk (settle host localFile download).events last)
    (ends : (settle host localFile download).value.1 ≠ .error .spinning) :
    AllOrNothing files last.files ((settle host localFile download).events.filterMap heard)
        (settle host localFile download).value.1 ↔
      ∃ replies, download.value.1 = .ok replies ∧
        (replies.isPositive = true ∨
          (host.respond (.fileRemove localFile) download.world).1 = none ∧
            files (naming.entry localFile) = none) := by
  obtain ⟨⟨(error | _) | replies, client⟩, after, events⟩ := download
  · refine iff_of_false (not_allOrNothing (kept last drives) absent nofun) ?_
    exact fun ⟨_, returned, _⟩ => nomatch returned
  · exact absurd rfl ends
  · cases positive : replies.isPositive with
    | true =>
      simp only [settle, positive, if_true] at drives ⊢
      exact iff_of_true (allOrNothing_beside (kept last drives) absent (heardAll replies rfl positive))
        ⟨replies, rfl, .inl positive⟩
    | false =>
      simp only [settle, positive, Bool.false_eq_true, if_false] at drives ⊢
      obtain ⟨middle, front, back⟩ := Monitor.drives_append_iff.mp drives
      have beside := kept middle front
      generalize host.respond (.fileRemove localFile) after = removal at back ⊢
      obtain ⟨answer, later⟩ := removal
      have step : (Disk.monitor naming).step middle ⟨.fileRemove localFile, answer⟩ last := by
        cases back with
        | cons step rest =>
          cases rest
          exact step
      cases answer with
      | none =>
        have after : last.files = Function.update middle.files (naming.entry localFile) none :=
          congrArg Disk.files step
        cases bare : files (naming.entry localFile) with
        | none =>
          have same : last.files = files := by
            rw [after, entry_bare resolved bare]
            exact removed_same beside absent
          exact iff_of_true (allOrNothing_same same) ⟨replies, rfl, .inr ⟨rfl, rfl⟩⟩
        | some held =>
          -- What the name bore is a link, which is gone.
          refine iff_of_false (fun holds => ?_) ?_
          · have left := holds.1 _ held bare
            rw [after, Function.update_self] at left
            cases left
          · intro ⟨other, returned, either⟩
            obtain rfl : replies = other := Except.ok.inj returned
            rcases either with accepted | ⟨_, removed⟩
            · cases positive.symm.trans accepted
            · cases removed
      | some ec =>
        obtain rfl : last = middle := step
        refine iff_of_false (not_allOrNothing beside absent nofun) ?_
        intro ⟨other, returned, either⟩
        obtain rfl : replies = other := Except.ok.inj returned
        rcases either with accepted | ⟨removed, _⟩
        · cases positive.symm.trans accepted
        · cases removed

end Verdict

/-- The command is all or nothing but where the download raises, or the removal is refused or
takes a link that was there before. -/
theorem get_allOrNothing_iff (naming : Naming) (host : Host boundary World) (fuel : Nat)
    (handler : CommandHandler) (world : World) (args : List Bytes) (files : Files) (last : Disk)
    (drives : (Disk.monitor naming).Drives ⟨files, none⟩
      ((get args).run host fuel handler world).events last)
    (ends : ((get args).run host fuel handler world).value.1 ≠ .error .spinning) :
    AllOrNothing files last.files
        (((get args).run host fuel handler world).events.filterMap heard)
        ((get args).run host fuel handler world).value.1 ↔
      Settles naming files host fuel handler world args := by
  have whole : (get args).run host fuel handler world =
      ((do
        let (remoteFile, localFile) ← createTarget args
        fetch remoteFile localFile : Action Unit).run host fuel handler world) := by rw [get_eq]
  rw [Program.run_bind] at whole
  have begins (disk : Disk) (drives : (Disk.monitor naming).Drives ⟨files, none⟩ _ disk) :=
    createTarget_run host fuel handler world args files disk drives
  unfold Settles
  generalize (createTarget args).run host fuel handler world = begun at *
  obtain ⟨⟨stop | ⟨remoteFile, localFile⟩, middle⟩, between, events⟩ := begun
  · dsimp only at whole
    rw [whole] at drives ends ⊢
    rcases begins last drives with ⟨_, _, _, returned, _⟩ | ⟨_, _, same⟩
    · cases returned
    · exact iff_of_true (allOrNothing_same same) fun _ _ returned => nomatch returned
  · dsimp only at whole
    rw [fetch_run] at whole
    rw [whole] at drives ends ⊢
    obtain ⟨disk, front, back⟩ := Monitor.drives_append_iff.mp drives
    rcases begins disk front with
      ⟨remote, target, entry, returned, resolved, absent, beside, silent⟩ | ⟨_, stopped, _⟩
    · obtain ⟨rfl, rfl⟩ : remoteFile = remote ∧ localFile = target :=
        Prod.mk.inj (Except.ok.inj returned)
      rw [List.filterMap_append, silent, List.nil_append]
      have settles := settle_iff host _
        (processDownload_heard host fuel remoteFile middle.ftpClient between · rfl) resolved absent
        (fun _ => processDownload_beside host fuel remoteFile middle.ftpClient between beside) back ends
      refine settles.trans ⟨fun holds remote target same => ?_, fun holds => holds _ _ rfl⟩
      obtain ⟨rfl, rfl⟩ := Prod.mk.inj (Except.ok.inj same)
      exact holds
    · cases stopped

section Cases

/-- A user who is connected. -/
private def connected : CommandHandler :=
  ⟨{ new.ftpClient with control := ⟨[], ⟨.plain, true⟩⟩ }⟩

/-- The command with the given replies of the server, beginning with the reply to EPSV. -/
private def getRun (replies : List String) :=
  (get [text "f"]).run Script.host 9 connected (.ofReplies (replies.map text))

private def created : List BoundaryEvent :=
  [⟨.fileExists (text "f"), .ok false⟩, ⟨.fileCreate (text "f"), true⟩,
    ⟨.notifyRequest [0] (text "EPSV"), ()⟩, ⟨.write .control .plain (text "EPSV\r\n"), none⟩]

/-- A file system without directories. -/
private def flat : Naming := ⟨id, 40⟩

private def target : Disk :=
  ⟨Function.update (fun _ => none) (text "f") (some (.file [])), some (text "f")⟩

private theorem created_drives :
    (Disk.monitor flat).Drives ⟨fun _ => none, none⟩ created target :=
  .cons ⟨⟨text "f", rfl, rfl⟩, rfl⟩ (.cons ⟨text "f", rfl, rfl⟩ (.cons rfl (.cons rfl .nil)))

theorem get_allOrNothing_iff_refused :
    AllOrNothing (fun _ => none) (Function.update target.files (text "f") none)
        ((getRun ["500 no\r\n"]).events.filterMap heard) (getRun ["500 no\r\n"]).value.1 ↔
      Settles flat (fun _ => none) Script.host 9 connected (.ofReplies [text "500 no\r\n"])
        [text "f"] := by
  have events : (getRun ["500 no\r\n"]).events = created ++
      [⟨.readSome .control .plain 8192, .ok ⟨text "500 no\r\n", by decide, by decide⟩⟩,
        ⟨.notifyReply [0] ⟨500, text "500 no"⟩, ()⟩, ⟨.fileRemove (text "f"), none⟩] := by
    decide +kernel
  have drives : (Disk.monitor flat).Drives ⟨fun _ => none, none⟩ (getRun ["500 no\r\n"]).events
      { target with files := Function.update target.files (text "f") none } := by
    rw [events]
    exact created_drives.append (.cons rfl (.cons rfl (.cons rfl .nil)))
  exact get_allOrNothing_iff flat Script.host 9 connected _ _ _ _ drives (by decide +kernel)

/-- A server that hangs up before it answers leaves the user with an empty file. -/
theorem get_leaves_file : ¬ ∀ (handler : CommandHandler) (world : Script) (args : List Bytes)
    (files : Files) (last : Disk),
    (Disk.monitor flat).Drives ⟨files, none⟩ ((get args).run Script.host 9 handler world).events last →
    ((get args).run Script.host 9 handler world).value.1 ≠ .error .spinning →
    AllOrNothing files last.files (((get args).run Script.host 9 handler world).events.filterMap heard)
      ((get args).run Script.host 9 handler world).value.1 := by
  intro holds
  have events : (getRun []).events = created ++ [⟨.readSome .control .plain 8192, .error .eof⟩] := by
    decide +kernel
  have drives : (Disk.monitor flat).Drives ⟨fun _ => none, none⟩ (getRun []).events target := by
    rw [events]
    exact created_drives.append (.cons rfl .nil)
  have given := holds connected (.ofReplies []) [text "f"] (fun _ => none) target drives
    (by decide +kernel)
  have changed : target.files ≠ fun _ => none := by
    intro same
    have found := congrFun same (text "f")
    cases found
  have returned := (given.2 changed).1
  have failed : (getRun []).value.1 ≠ .ok () := by decide +kernel
  exact failed returned

end Cases

end CommandHandler

end LibFtp
