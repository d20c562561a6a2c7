import LibFtp.Client.Footprint
import LibFtp.Detail.Script
import LibFtp.Detail.TransferLoops

/-! A file list is the same in both transfer types, whatever its line ends are and however
it arrives. -/

namespace LibFtp

open Effect

/-- A name that is one line. -/
def OneLine (name : Bytes) : Prop := cr ∉ name ∧ lf ∉ name

instance (name : Bytes) : Decidable (OneLine name) := inferInstanceAs (Decidable (_ ∧ _))

/-- The names, each followed by one of the two line ends. The last line may go without,
unless it is empty. -/
inductive Renders : List Bytes → Bytes → Prop where
  | nil : Renders [] []
  | lf (plain : OneLine name) (rest : Renders names listing) :
      Renders (name :: names) (name ++ lf :: listing)
  | crlf (plain : OneLine name) (rest : Renders names listing) :
      Renders (name :: names) (name ++ cr :: lf :: listing)
  | unended (plain : OneLine name) (given : name ≠ []) : Renders [name] name

namespace FileListReply

private theorem getLines_plain (name rest line : Bytes) (plain : lf ∉ name) :
    getLines (name ++ rest) line = getLines rest (line ++ name) := by
  induction name generalizing line with
  | nil => rw [List.nil_append, List.append_nil]
  | cons ch name ih =>
    have other : ch ≠ lf := fun same => plain (by simp [same])
    rw [List.cons_append, getLines, if_neg other,
      ih (line ++ [ch]) fun member => plain (List.mem_cons_of_mem _ member), List.append_assoc]
    rfl

private theorem getLines_lf (name rest : Bytes) (plain : lf ∉ name) :
    getLines (name ++ lf :: rest) [] = name :: getLines rest [] := by
  rw [getLines_plain name _ [] plain, getLines, if_pos rfl]
  rfl

private theorem strip_plain {name : Bytes} (plain : cr ∉ name) :
    (if name.getLast? = some cr then name.dropLast else name) = name :=
  if_neg fun last => plain (List.mem_of_getLast? last)

/-- The parser takes both line ends. -/
theorem parse_renders {names : List Bytes} {listing : Bytes} (renders : Renders names listing) :
    parseFileList listing = names := by
  induction renders with
  | nil => rfl
  | lf plain _ ih =>
    rw [parseFileList, getLines_lf _ _ plain.2, List.map_cons, strip_plain plain.1]
    exact congrArg _ ih
  | @crlf name names listing plain _ ih =>
    have line : lf ∉ name ++ [cr] := by
      rw [List.mem_append, List.mem_singleton, not_or]
      exact ⟨plain.2, by decide⟩
    have regroup : name ++ cr :: lf :: listing = (name ++ [cr]) ++ lf :: listing := by simp
    rw [parseFileList, regroup, getLines_lf _ _ line, List.map_cons, List.getLast?_concat, if_pos rfl,
      List.dropLast_concat]
    exact congrArg _ ih
  | @unended name plain given =>
    have whole := getLines_plain name [] [] plain.2
    rw [List.append_nil, List.nil_append, getLines, if_neg (by simpa using given)] at whole
    rw [parseFileList, whole, List.map_cons, strip_plain plain.1]
    rfl

end FileListReply

namespace Ascii

private theorem joinCrlf_plain (name rest : Bytes) (plain : cr ∉ name) :
    joinCrlf (name ++ rest) = name ++ joinCrlf rest := by
  induction name with
  | nil => rfl
  | cons ch name ih =>
    have other : ch ≠ cr := fun same => plain (by simp [same])
    rw [List.cons_append, joinCrlf_other other,
      ih fun member => plain (List.mem_cons_of_mem _ member), List.cons_append]

/-- The ASCII decoding of a listing renders the same names. -/
theorem joinCrlf_renders {names : List Bytes} {listing : Bytes} (renders : Renders names listing) :
    Renders names (joinCrlf listing) := by
  induction renders with
  | nil => exact .nil
  | lf plain _ ih =>
    rw [joinCrlf_plain _ _ plain.1, joinCrlf_other (by decide)]
    exact .lf plain ih
  | crlf plain _ ih =>
    rw [joinCrlf_plain _ _ plain.1, joinCrlf_crlf]
    exact .lf plain ih
  | @unended name plain given =>
    have whole := joinCrlf_plain name [] plain.1
    rw [List.append_nil, joinCrlf_nil, List.append_nil] at whole
    rw [whole]
    exact .unended plain given

end Ascii

/-- A monitor that admits one course of the data channel only: it hands over the chunks and
then ends. -/
structure HandsOver (monitor : Monitor boundary Ghost) (holds : List Bytes → Ghost → Prop) :
    Prop where
  handed : holds chunks ghost → monitor.step ghost
    ⟨.readSome .data layer DataConnection.bufSize, .ok chunk⟩ after →
      ∃ rest, chunks = chunk.data :: rest ∧ holds rest after
  ended : holds chunks ghost → monitor.step ghost
    ⟨.readSome .data layer DataConnection.bufSize, .error ec⟩ after →
      ec = .eof ∧ chunks = [] ∧ holds [] after
  missed : ∀ {ec : ErrorCode}, holds chunks ghost → monitor.step ghost
    ⟨.unopened .data layer (.readSome DataConnection.bufSize), ec⟩ after →
      (ec = .eof → chunks = []) ∧ holds chunks after

theorem arrives_handsOver : HandsOver arrives fun chunks ghost => ghost = chunks where
  handed same step := ⟨_, same.symm.trans step, rfl⟩
  ended same step := ⟨step.1, same.symm.trans step.2.1, step.2.2⟩
  missed same step := ⟨fun eof => same.symm.trans (step.1 eof), step.2.trans same⟩

namespace DataConnection

variable {monitor : Monitor boundary Ghost} {holds : List Bytes → Ghost → Prop} {fuel : Nat}
  {type : TransferType}

/-- What a string stream holds after the transfer of some data. -/
def decoded : TransferType → Bytes → Bytes
  | .binary, data => data
  | .ascii, data => Ascii.joinCrlf data

private theorem written_decoded (chunks : List Bytes) :
    ((OutputStream.mk type false (.memory [])).written chunks).flatten =
      decoded type chunks.flatten := by
  cases type with
  | binary => exact congrArg List.flatten (OutputStream.written_binary false _ chunks)
  | ascii => exact OutputStream.written_ascii false _ chunks

private theorem collected (stream : OutputStream) (content : Bytes) (memory : stream.dst = .memory content)
    (chunks : List Bytes) :
    (chunks.foldl OutputStream.advance stream).settled.dst =
      .memory (content ++ (stream.written chunks).flatten) := by
  induction chunks generalizing stream content with
  | nil => rw [List.foldl_nil, OutputStream.settled, memory]; rfl
  | cons chunk rest ih =>
    have next : (stream.advance chunk).dst = .memory (content ++ stream.emit chunk) := by
      rw [OutputStream.advance, memory]
      rfl
    rw [List.foldl_cons, ih _ _ next, OutputStream.written, List.flatten_cons, List.append_assoc]

private theorem write_memory (prevCr : Bool) (content data : Bytes)
    {post : Unit → OutputStream → Ghost → Prop} {fail : Stop FtpException → OutputStream → Ghost → Prop}
    {ghost : Ghost} (ends : post () (OutputStream.advance ⟨type, prevCr, .memory content⟩ data) ghost) :
    (OutputStream.write data).wp monitor fuel post fail ⟨type, prevCr, .memory content⟩ ghost := by
  cases type with
  | binary =>
    have fed := OutputStream.feed_binary prevCr data
    rw [OutputStream.advance, OutputStream.emit, fed] at ends
    exact ends
  | ascii =>
    have fed := Ascii.convert_eq_feed prevCr data
    rw [OutputStream.advance, OutputStream.emit, OutputStream.coder, ← fed] at ends
    exact ends

private theorem flush_memory {stream : OutputStream} {content : Bytes}
    (memory : stream.dst = .memory content)
    {post : Unit → OutputStream → Ghost → Prop} {fail : Stop FtpException → OutputStream → Ghost → Prop}
    {ghost : Ghost} (ends : post () stream.settled ghost) :
    OutputStream.flush.wp monitor fuel post fail stream ghost := by
  obtain ⟨type, prevCr, dst⟩ := stream
  obtain rfl : dst = .memory content := memory
  have settled : OutputStream.settled ⟨type, prevCr, .memory content⟩ =
      if type = .ascii ∧ prevCr then ⟨type, false, .memory (content ++ [cr])⟩
      else ⟨type, prevCr, .memory content⟩ := by
    cases type <;> cases prevCr <;> simp [OutputStream.settled, OutputStream.pending, Destination.take]
  rw [settled] at ends
  cases type <;> cases prevCr <;> exact ends

private theorem recvLoop_collects (handsOver : HandsOver monitor holds) (connection : DataConnection)
    (steps : Nat) (stream : OutputStream) (content : Bytes) (memory : stream.dst = .memory content)
    (chunks : List Bytes) (ghost : Ghost) (start : holds chunks ghost) :
    (recvLoop false steps stream).wp monitor fuel
      (fun value after last => after = connection ∧
        (value = (chunks.foldl OutputStream.advance stream, some .eof) ∧ holds [] last ∨
          connection.socket.isOpen = false ∧ ∃ ec, ec ≠ .eof ∧ value.2 = some ec))
      (fun _ _ _ => steps ≤ chunks.length) connection ghost := by
  induction steps generalizing stream content chunks ghost with
  | zero => exact Nat.zero_le _
  | succ steps ih =>
    simp only [recvLoop, onSocket, Program.wp_bind, Program.wp_zoom, Socket.wp_readSome]
    by_cases opened : connection.socket.isOpen = true
    · rw [if_pos opened]
      intro answer after step
      cases answer with
      | error ec =>
        obtain ⟨rfl, rfl, last⟩ := handsOver.ended start step
        exact ⟨rfl, .inl ⟨rfl, last⟩⟩
      | ok chunk =>
        obtain ⟨rest, rfl, next⟩ := handsOver.handed start step
        obtain ⟨type, prevCr, dst⟩ := stream
        obtain rfl : dst = .memory content := memory
        simp only [Program.wp_bind, Program.wp_on]
        refine write_memory prevCr content chunk.data ?_
        refine Program.wp_mono (ih _ _ rfl rest after next) ?_ ?_
        · exact fun _ _ _ => id
        · exact fun _ _ _ short => Nat.succ_le_succ short
    · rw [if_neg opened]
      intro ec after step
      obtain ⟨nothing, held⟩ := handsOver.missed start step
      by_cases eof : ec = .eof
      · obtain rfl : chunks = [] := nothing eof
        subst eof
        exact ⟨rfl, .inl ⟨rfl, held⟩⟩
      · exact ⟨rfl, .inr ⟨by simpa using opened, ec, eof, rfl⟩⟩

/-- A transfer into a string stream that returns has collected all that arrived. It returns
where the connection is open. -/
theorem recv_collects (handsOver : HandsOver monitor holds) (connection : DataConnection)
    (chunks : List Bytes) (ghost : Ghost) (start : holds chunks ghost) :
    (recv ⟨type, false, .memory []⟩ false).wp monitor fuel
      (fun stream after last => after = connection ∧ holds [] last ∧
        stream.dst = .memory (decoded type chunks.flatten))
      (fun _ _ _ => connection.socket.isOpen = false ∨ fuel ≤ chunks.length) connection ghost := by
  simp only [recv, Program.wp_bind, Program.wp_loop, Bool.false_eq_true, if_false]
  refine Program.wp_mono (recvLoop_collects handsOver connection fuel _ [] rfl chunks ghost start) ?_
    fun _ _ _ => .inr
  rintro ⟨stream, ec⟩ after last ⟨kept, ended⟩
  subst after
  simp only [recvTail, Program.wp_bind, wp_throwUnless]
  rcases ended with ⟨same, held⟩ | ⟨shut, ec', fatal, failed⟩
  · obtain ⟨rfl, rfl⟩ := Prod.mk.inj same
    have dst := collected (OutputStream.mk type false (.memory [])) [] rfl chunks
    rw [written_decoded, List.nil_append] at dst
    generalize chunks.foldl OutputStream.advance _ = through at dst
    simp only [Program.wp_on, Program.wp_pure]
    obtain ⟨content, memory⟩ : ∃ content, through.dst = .memory content := by
      cases memory : through.dst with
      | caller =>
        rw [OutputStream.settled, memory] at dst
        cases dst
      | memory content => exact ⟨content, rfl⟩
    exact flush_memory memory ⟨rfl, held, dst⟩
  · obtain rfl : ec = some ec' := failed
    simp only [if_neg fatal]
    exact .inl shut

end DataConnection

namespace Client

open DataConnection

variable {fuel : Nat}

private def Aside (query : Boundary.Query) : Prop :=
  ∀ layer maxSize, query ≠ .readSome .data layer maxSize

private theorem aside_negotiating : Negotiating Aside where
  link := by
    intro layer query link layer' maxSize same
    subst same
    cases link with
    | closing closing => cases closing
  written _ _ := nofun
  missed _ _ := nofun
  requested _ _ := nofun
  heard _ _ := nofun
  plumbing := by
    intro query plumbing layer maxSize same
    subst same
    cases plumbing
  dialled _ := nofun
  accepts := nofun
  localEndpoint := nofun
  remoteEndpoint := nofun

private theorem createDataConnection_aside (command : Bytes) (replies : Replies) (client : Client)
    (chunks : List Bytes) :
    (createDataConnection command replies).wp arrives fuel
      (fun _ after last => after.transferType = client.transferType ∧ last = chunks)
      (fun _ _ _ => True) client chunks := by
  have carries : Carries arrives (fun after _ => after.transferType = client.transferType)
      (fun after _ => after.transferType = client.transferType) (fun _ => True) :=
    settings_carries fun _ _ same => same
  have type : (createDataConnection command replies).wp arrives fuel
      (fun _ after _ => after.transferType = client.transferType)
      (fun _ after _ => after.transferType = client.transferType) client chunks :=
    carries.createDataConnection (fun _ _ => trivial) trivial replies fuel client chunks rfl
  have asks := aside_negotiating.createDataConnection (by exact nofun) command replies
  have undisturbed (ghost : List Bytes) (event : BoundaryEvent) (after : List Bytes)
      (aside : Aside event.query) (same : ghost = chunks) (step : arrives.step ghost event after) :
      after = chunks := by
    obtain ⟨query, answer⟩ := event
    cases query with
    | readSome channel layer maxSize =>
      cases channel with
      | data => exact absurd rfl (aside layer maxSize)
      | control => exact Eq.trans step same
    | unopened channel layer request =>
      cases channel with
      | data =>
        cases request with
        | readSome => exact step.2.trans same
        | _ => exact Eq.trans step same
      | control => exact Eq.trans step same
    | _ => exact Eq.trans step same
  have still := asks.keeps undisturbed fuel client chunks rfl
  exact Program.wp_mono (Program.wp_and type still) (fun _ _ _ => id) fun _ _ _ _ => trivial

/-- A listing that returns is parsed from all that arrived. -/
private theorem getFileList_parses (path : Option Bytes) (onlyNames : Bool) (client : Client)
    (chunks : List Bytes) :
    (getFileList path onlyNames).wp arrives fuel
      (fun reply _ last => last = [] →
        reply.fileList = FileListReply.parseFileList (decoded client.transferType chunks.flatten))
      (fun _ _ _ => True) client chunks := by
  unfold getFileList
  rw [Program.wp_bind]
  refine Program.wp_mono (createDataConnection_aside _ Replies.empty client chunks) ?_
    fun _ _ _ => id
  intro ⟨connection, replies⟩ after last ⟨type, same⟩
  subst last
  cases connection with
  | none =>
    intro ended
    obtain rfl : chunks = [] := ended
    cases client.transferType <;> rfl
  | some connection =>
    simp only [Program.wp_bind, Program.wp_get, Program.wp_on]
    refine Program.wp_mono (recv_collects arrives_handsOver connection chunks chunks rfl) ?_
      fun _ _ _ _ => trivial
    intro stream connection last ⟨_, _, dst⟩
    rw [dst, type]
    refine Program.wp_always _ (fun _ _ _ => ?_) fun _ _ _ => trivial
    refine Program.wp_always _ (fun _ _ _ => ?_) fun _ _ _ => trivial
    exact Program.wp_always _ (fun _ _ _ _ => rfl) fun _ _ _ => trivial

section Served

/-- A client that is connected. -/
def lister (type : TransferType) : Client :=
  { Client.new .passive type false true with control := ⟨[], ⟨.plain, true⟩⟩ }

/-- A server with the given replies on the control connection that sends the chunks. -/
def served (replies : List String) (chunks : List Bytes) : Script :=
  { Script.ofReplies (replies.map text) with data := chunks }

/-- Pieces that a read of the data connection takes. -/
def Fitting (chunks : List Bytes) : Prop := ∀ chunk ∈ chunks, chunk ≠ [] ∧ chunk.length ≤ bufSize

instance (chunks : List Bytes) : Decidable (Fitting chunks) :=
  inferInstanceAs (Decidable (∀ chunk ∈ chunks, _))

private theorem served_handsOver (replies : List String) :
    HandsOver (Monitor.only Script.host)
      fun chunks script => Fitting chunks ∧ script = served replies chunks where
  handed := by
    intro chunks script layer chunk after ⟨fitting, same⟩ step
    subst same
    have answered : ((Script.piece bufSize chunks).1, served replies (Script.piece bufSize chunks).2) =
        (.ok chunk, after) := step
    cases chunks with
    | nil => cases answered
    | cons first rest =>
      have fits := fitting first List.mem_cons_self
      have handed : Script.piece bufSize (first :: rest) = (.ok ⟨first, fits.1, fits.2⟩, rest) :=
        dif_pos fits
      rw [handed] at answered
      cases answered
      exact ⟨rest, rfl, fun chunk member => fitting chunk (List.mem_cons_of_mem _ member), rfl⟩
  ended := by
    intro chunks script layer ec after ⟨fitting, same⟩ step
    subst same
    have answered : ((Script.piece bufSize chunks).1, served replies (Script.piece bufSize chunks).2) =
        (.error ec, after) := step
    cases chunks with
    | nil =>
      cases answered
      exact ⟨rfl, rfl, fitting, rfl⟩
    | cons first rest =>
      have handed : Script.piece bufSize (first :: rest) = _ := dif_pos (fitting first List.mem_cons_self)
      rw [handed] at answered
      cases answered
  missed := by
    intro chunks script layer after ec ⟨fitting, same⟩ step
    subst same
    have answered : (ErrorCode.badDescriptor, served replies chunks) = (ec, after) := step
    cases answered
    exact ⟨nofun, fitting, rfl⟩

private theorem negotiate_served (type : TransferType) (replies : Replies) (chunks : List Bytes) :
    (negotiate replies).wp (Monitor.only Script.host) fuel
      (fun opened after script => opened.1 = some ⟨⟨⟨.plain, true⟩, false⟩, false⟩ ∧
        after = lister type ∧ script = served ["150 o\r\n", "226 d\r\n"] chunks)
      (fun _ _ _ => False) (lister type)
      (served ["229 (|||2021|)\r\n", "150 o\r\n", "226 d\r\n"] chunks) := by
  rw [Program.wp_only]
  exact ⟨rfl, rfl, rfl⟩

private theorem openMain_served (type : TransferType) (command : Bytes) (replies : Replies)
    (chunks : List Bytes) :
    (openMain command (some ⟨⟨⟨.plain, true⟩, false⟩, false⟩) replies).wp
      (Monitor.only Script.host) fuel
      (fun opened after script => opened.1 = some ⟨⟨.plain, true⟩, false⟩ ∧
        after = lister type ∧ script = served ["226 d\r\n"] chunks)
      (fun _ _ _ => False) (lister type) (served ["150 o\r\n", "226 d\r\n"] chunks) := by
  rw [Program.wp_only]
  exact ⟨rfl, rfl, rfl⟩

private theorem ending_served (fuel : Nat) (type : TransferType) (content : Bytes)
    (replies : Replies) :
    (do
      notifyFileList content
      let _closed ← Program.on ⟨⟨.plain, true⟩, false⟩ (DataConnection.disconnect true)
      let (_, replies) ← recvInto replies
      return FileListReply.ofReplies replies content : Method Client FileListReply).wp
      (Monitor.only Script.host) fuel
      (fun reply _ _ => reply.fileList = FileListReply.parseFileList content)
      (fun _ _ _ => False) (lister type) (served ["226 d\r\n"] []) := by
  rw [Program.wp_only]
  exact rfl

private theorem getFileList_served (type : TransferType) (path : Option Bytes) (onlyNames : Bool)
    (chunks : List Bytes) (fitting : Fitting chunks) (enough : chunks.length < fuel) :
    (getFileList path onlyNames).wp (Monitor.only Script.host) fuel
      (fun reply _ _ => reply.fileList = FileListReply.parseFileList (decoded type chunks.flatten))
      (fun _ _ _ => False) (lister type)
      (served ["229 (|||2021|)\r\n", "150 o\r\n", "226 d\r\n"] chunks) := by
  unfold getFileList
  simp only [createDataConnection_eq, Program.wp_bind]
  refine Program.wp_mono (negotiate_served type Replies.empty chunks) ?_ fun _ _ _ => id
  intro ⟨negotiated, replies⟩ client script ⟨opened, same, left⟩
  obtain rfl : negotiated = _ := opened
  subst client script
  refine Program.wp_mono (openMain_served type _ replies chunks) ?_ fun _ _ _ => id
  intro ⟨connection, replies⟩ client script ⟨opened, same, left⟩
  obtain rfl : connection = _ := opened
  subst client script
  simp only [Program.wp_bind, Program.wp_get, Program.wp_on]
  refine Program.wp_mono (recv_collects (served_handsOver ["226 d\r\n"]) _ chunks _ ⟨fitting, rfl⟩) ?_ ?_
  · intro stream connection script ⟨kept, ⟨_, left⟩, dst⟩
    subst connection script
    rw [dst]
    have ending := ending_served fuel type (decoded type chunks.flatten) replies
    simp only [Program.wp_bind, Program.wp_on] at ending
    exact ending
  · intro _ _ _ short
    rcases short with shut | short
    · cases shut
    · exact absurd enough (Nat.not_lt.mpr short)

end Served

/-- Whatever the transfer type and however the listing is cut, what a client makes of it are
the names; and it makes that of every listing that a server sends. -/
theorem getFileList_lists {names chunks : List Bytes} (renders : Renders names chunks.flatten) :
    (∀ (World : Type) (host : Host boundary World) (fuel : Nat) (client : Client) (world : World)
        (path : Option Bytes) (onlyNames : Bool) (reply : FileListReply),
      arrives.Drives chunks ((getFileList path onlyNames).run host fuel client world).events [] →
      ((getFileList path onlyNames).run host fuel client world).value.1 = .ok reply →
      reply.fileList = names) ∧
    (∀ (type : TransferType) (path : Option Bytes) (onlyNames : Bool) (fuel : Nat),
      Fitting chunks → chunks.length < fuel →
      ∃ reply, ((getFileList path onlyNames).run Script.host fuel (lister type)
          (served ["229 (|||2021|)\r\n", "150 o\r\n", "226 d\r\n"] chunks)).value.1 = .ok reply ∧
        reply.fileList = names) := by
  have parsed (type : TransferType) :
      FileListReply.parseFileList (decoded type chunks.flatten) = names := by
    cases type with
    | binary => exact FileListReply.parse_renders renders
    | ascii => exact FileListReply.parse_renders (Ascii.joinCrlf_renders renders)
  constructor
  · intro World host fuel client world path onlyNames reply drives returned
    rcases Program.wp_run (getFileList_parses path onlyNames client chunks) host world drives with
      ⟨value, same, list⟩ | ⟨stop, same, _⟩
    · obtain rfl : reply = value := Except.ok.inj (returned.symm.trans same)
      exact (list rfl).trans (parsed client.transferType)
    · cases returned.symm.trans same
  · intro type path onlyNames fuel fitting enough
    have ends := getFileList_served type path onlyNames chunks fitting enough
    rw [Program.wp_only] at ends
    revert ends
    generalize ((getFileList path onlyNames).run _ _ _ _).value = settled
    obtain ⟨stop | reply, last⟩ := settled
    · exact False.elim
    · exact fun list => ⟨reply, rfl, list.trans (parsed type)⟩

theorem getFileList_lists_mixed :
    ∃ reply, ((getFileList none true).run Script.host 9 (lister .ascii)
        (served ["229 (|||2021|)\r\n", "150 o\r\n", "226 d\r\n"]
          [text "a\r", text "\n\nb"])).value.1 = .ok reply ∧
      reply.fileList = [text "a", [], text "b"] := by
  have renders : Renders [text "a", [], text "b"] [text "a\r", text "\n\nb"].flatten := by
    have last : Renders [text "b"] (text "b") := .unended (by decide) (by decide)
    have empty : Renders [[], text "b"] (text "\nb") := .lf (by decide) last
    exact Renders.crlf (by decide) empty
  exact (getFileList_lists renders).2 .ascii none true 9 (by decide) (by decide)

end Client

end LibFtp
