import LibFtp.Client.Frame
import LibFtp.Detail.Script

/-! The replies that an operation hands out are those it has read, one after the
other, and those the observers were shown. -/

namespace LibFtp

open Effect

namespace Replies

/-- The list that the replies of one operation make. -/
def ofList (told : List Reply) : Replies := told.foldl append empty

private theorem foldl_replies (told : List Reply) (all : Replies) :
    (told.foldl append all).replies = all.replies ++ told := by
  induction told generalizing all with
  | nil => simp
  | cons reply rest ih => rw [List.foldl_cons, ih, append_replies, List.append_assoc]; rfl

private theorem foldl_isPositive (told : List Reply) (all : Replies) (begun : all.replies ≠ []) :
    (told.foldl append all).isPositive = (all.isPositive && told.all Reply.isPositive) := by
  induction told generalizing all with
  | nil => simp
  | cons reply rest ih =>
    have empty : all.replies.isEmpty = false := by simpa using begun
    rw [List.foldl_cons, ih _ (by simp), List.all_cons]
    cases positive : reply.isPositive <;> simp [append, empty, positive]

private theorem foldl_statusString (told : List Reply) (all : Replies) (begun : all.replies ≠ []) :
    (told.foldl append all).statusString =
      all.statusString ++ told.flatMap fun reply => crlf ++ reply.statusString := by
  induction told generalizing all with
  | nil => simp
  | cons reply rest ih =>
    have empty : all.replies.isEmpty = false := by simpa using begun
    rw [List.foldl_cons, ih _ (by simp), List.flatMap_cons]
    simp [append, empty]

theorem ofList_replies (told : List Reply) : (ofList told).replies = told :=
  foldl_replies told empty

theorem ofList_isPositive (told : List Reply) : (ofList told).isPositive = true ↔
    told ≠ [] ∧ ∀ reply ∈ told, reply.isPositive = true := by
  cases told with
  | nil => simp [ofList, empty]
  | cons first rest =>
    have begun : (empty.append first).replies ≠ [] := by simp
    rw [ofList, List.foldl_cons, foldl_isPositive rest _ begun]
    simp [append, empty]

theorem ofList_statusString (told : List Reply) :
    (ofList told).statusString = List.intercalate crlf (told.map Reply.statusString) := by
  cases told with
  | nil => rfl
  | cons first rest =>
    have begun : (empty.append first).replies ≠ [] := by simp
    rw [ofList, List.foldl_cons, foldl_statusString rest _ begun]
    have joined (head : Bytes) (others : List Reply) :
        List.intercalate crlf (head :: others.map Reply.statusString) =
          head ++ others.flatMap fun reply => crlf ++ reply.statusString := by
      induction others generalizing head with
      | nil => simp [List.intercalate]
      | cons next others ih =>
        have tail := ih next.statusString
        simp only [List.intercalate, List.map_cons, List.intersperse_cons_cons, List.flatten_cons,
          List.flatMap_cons] at tail ⊢
        rw [tail]
        simp
    rw [List.map_cons, joined]
    rfl

end Replies

/-- Questions other than for the next bytes of the control connection; none tells the
observers of a reply. -/
def Deaf : Boundary.Query → Prop
  | .readSome .control _ _ | .notifyReply .. => False
  | _ => True

/-- A call of `recv` that begins with the buffer, asks what the events say and returns the
reply, with the rest left in the buffer. -/
def Receives (buffer : Bytes) (events : List BoundaryEvent) (reply : Reply) (rest : Bytes) : Prop :=
  ∃ fuel connection after, connection.buffer = buffer ∧ after.buffer = rest ∧
    (ControlConnection.recv fuel connection).Traces events (.ok reply, after)

/-- The events of one operation read the replies from the control connection, one after
the other, and show each of them to the observers when it has been read. No byte is read
in between. -/
inductive Hears (observers : List ObserverId) :
    Bytes → List BoundaryEvent → List Reply → Bytes → Prop where
  | nil : Hears observers buffer [] [] buffer
  | deaf (deaf : Deaf event.query) (rest : Hears observers buffer events told last) :
      Hears observers buffer (event :: events) told last
  | reply (receives : Receives buffer events reply middle)
      (rest : Hears observers middle others told last) :
      Hears observers buffer (events ++ ⟨.notifyReply observers reply, ()⟩ :: others)
        (reply :: told) last

variable {observers : List ObserverId} {buffer middle last : Bytes}

theorem Hears.append (front : Hears observers buffer events told middle)
    (back : Hears observers middle others more last) :
    Hears observers buffer (events ++ others) (told ++ more) last := by
  induction front with
  | nil => exact back
  | deaf deaf _ ih => exact .deaf deaf (ih back)
  | reply receives _ ih =>
    have later := Hears.reply receives (ih back)
    simpa using later

theorem Hears.ofDeaf {events : List BoundaryEvent} (deaf : ∀ event ∈ events, Deaf event.query) :
    Hears observers buffer events [] buffer := by
  induction events with
  | nil => exact .nil
  | cons event events ih =>
    exact .deaf (deaf event (List.mem_cons_self ..))
      (ih fun other member => deaf other (List.mem_cons_of_mem _ member))

/-- What an event tells the observers of a reply. -/
def notification : BoundaryEvent → Option (List ObserverId × Reply)
  | ⟨.notifyReply observers reply, _⟩ => some (observers, reply)
  | _ => none

private def Unheard (past : List BoundaryEvent) : Prop :=
  past.filterMap notification = []

private theorem unheard_steady (layer : Layer) : Steady Monitor.history layer Unheard := by
  intro past event after link unheard step
  have step : after = past ++ [event] := step
  subst after
  have none : notification event = none := by
    obtain ⟨query, answer⟩ := event
    cases link with
    | closing closing => cases closing <;> rfl
    | _ => rfl
  simp only [Unheard, List.filterMap_append, show past.filterMap notification = [] from unheard,
    List.filterMap_cons, none, List.filterMap_nil, List.append_nil]

theorem Receives.unheard (receives : Receives buffer events reply rest) :
    events.filterMap notification = [] := by
  obtain ⟨fuel, connection, after, _, _, traces⟩ := receives
  have stays := ControlConnection.recv_stays (unheard_steady connection.socket.layer) fuel connection
    [] ⟨rfl, rfl⟩
  exact (stays.traces traces (Monitor.history_drives [] events)).2

private theorem deaf_unheard (deaf : Deaf event.query) : notification event = none := by
  obtain ⟨query, answer⟩ := event
  cases query with
  | notifyReply => exact deaf.elim
  | _ => rfl

theorem Hears.notified (hears : Hears observers buffer events told last) :
    events.filterMap notification = told.map (observers, ·) := by
  induction hears with
  | nil => rfl
  | deaf deaf _ ih => rw [List.filterMap_cons, deaf_unheard deaf, ih]
  | reply receives _ ih =>
    rw [List.filterMap_append, receives.unheard, List.nil_append, List.filterMap_cons, ih]
    rfl

namespace Client

/-- Whatever the program hears it appends to the replies that it is given. -/
private def Records (program : Method Client Value) (replies : Replies) (out : Value → Replies) :
    Prop :=
  ∀ fuel client past, program.wp Monitor.history fuel
    (fun value state after => state.observers = client.observers ∧
      ∃ events told, after = past ++ events ∧
        Hears client.observers client.control.buffer events told state.control.buffer ∧
        out value = told.foldl Replies.append replies)
    (fun _ _ _ => True) client past

namespace Records

variable {replies : Replies} {out : Value → Replies}

private theorem pure (value : Value) (same : out value = replies) :
    Records (pure value) replies out :=
  fun _ _ past => ⟨rfl, [], [], (List.append_nil past).symm, .nil, same⟩

private theorem raise (error : FtpException) :
    Records (Program.raise error : Method Client Value) replies out :=
  fun _ _ _ => trivial

private theorem bind {Other : Type} {first : Method Client Other} {rest : Other → Method Client Value}
    {middle : Other → Replies} (head : Records first replies middle)
    (tail : ∀ value, Records (rest value) (middle value) out) :
    Records (first >>= rest) replies out := by
  intro fuel client past
  rw [Program.wp_bind]
  refine Program.wp_mono (head fuel client past) ?_ fun _ _ _ _ => trivial
  intro value state after ⟨observers, events, told, same, hears, recorded⟩
  refine Program.wp_mono (tail value fuel state after) ?_ fun _ _ _ _ => trivial
  intro result last final ⟨observers', others, more, same', hears', recorded'⟩
  rw [observers] at observers' hears'
  refine ⟨observers', events ++ others, told ++ more, ?_, hears.append hears', ?_⟩
  · rw [same', same, List.append_assoc]
  · rw [recorded', recorded, List.foldl_append]

private theorem get : Records (Program.get : Method Client Client) replies fun _ => replies :=
  fun _ _ past => ⟨rfl, [], [], (List.append_nil past).symm, .nil, rfl⟩

private theorem ite {condition : Prop} [Decidable condition] {yes no : Method Client Value}
    (left : Records yes replies out) (right : Records no replies out) :
    Records (if condition then yes else no) replies out := by
  split
  · exact left
  · exact right

/-- A program that hears nothing and leaves the buffer alone. -/
private theorem deaf {program : Method Client Value} (asks : program.Asks Deaf)
    (still : ∀ fuel client past, program.wp Monitor.history fuel
      (fun _ state _ => state.observers = client.observers ∧
        state.control.buffer = client.control.buffer) (fun _ _ _ => True) client past) :
    Records program replies fun _ => replies := by
  intro fuel client past
  let Quiet (after : List BoundaryEvent) : Prop :=
    ∃ events, after = past ++ events ∧ ∀ event ∈ events, Deaf event.query
  have kept : program.wp Monitor.history fuel (fun _ _ => Quiet) (fun _ _ => Quiet) client past := by
    refine asks.keeps (fun after event next deaf quiet step => ?_) fuel client past ?_
    · obtain ⟨events, same, all⟩ := quiet
      have step : next = after ++ [event] := step
      refine ⟨events ++ [event], by rw [step, same, List.append_assoc], ?_⟩
      intro other member
      rcases List.mem_append.mp member with early | last
      · exact all other early
      · exact List.mem_singleton.mp last ▸ deaf
    · exact ⟨[], (List.append_nil past).symm, fun _ member => absurd member List.not_mem_nil⟩
  refine Program.wp_mono (Program.wp_and (still fuel client past) kept) ?_ fun _ _ _ _ => trivial
  intro value state after ⟨⟨observers, buffer⟩, events, same, all⟩
  refine ⟨observers, events, [], same, ?_, rfl⟩
  rw [buffer]
  exact .ofDeaf all

private theorem quiet_deaf {query : Boundary.Query} (quiet : Quiet query) : Deaf query := by
  cases quiet <;> trivial

private theorem call {query : Boundary.Query} (quiet : Quiet query) :
    Records (call query : Method Client _) replies fun _ => replies :=
  deaf (.ask (quiet_deaf quiet)) fun _ _ _ _ _ _ => ⟨rfl, rfl⟩

private theorem on {Part : Type} {object : Part} {program : Method Part Value}
    (quiet : program.Asks Quiet) :
    Records (Program.on object program : Method Client _) replies fun _ => replies := by
  refine deaf (.on (quiet.mono fun _ => quiet_deaf)) fun fuel client past => ?_
  rw [Program.wp_on]
  exact Program.wp_always _ (fun _ _ _ => ⟨rfl, rfl⟩) fun _ _ _ => trivial

private theorem onControl {program : Method ControlConnection Value} (asks : program.Asks Deaf)
    (still : ∀ fuel connection past, program.wp Monitor.history fuel
      (fun _ state _ => state.buffer = connection.buffer) (fun _ _ _ => True) connection past) :
    Records (onControl program) replies fun _ => replies := by
  refine deaf (.zoom asks) fun fuel client past => ?_
  simp only [Client.onControl, Program.wp_zoom]
  exact Program.wp_mono (still fuel client.control past) (fun _ _ _ same => ⟨True.intro, same⟩)
    fun _ _ _ _ => trivial

private theorem opens (hostname : Bytes) (port : UInt16) :
    Records (Client.onControl (ControlConnection.connect hostname port)) replies fun _ => replies := by
  refine onControl ?_ fun fuel connection past => ?_
  · refine .bind (.ask trivial) fun _ => .bind (throwIf_asks _ _) fun _ =>
      .bind (.ask trivial) fun answer => ?_
    cases answer with
    | none => exact .modify _
    | some ec =>
      have close : (Socket.close .control).Asks Deaf :=
        .bind .get fun _ => .ite
          (.bind (.ask trivial) fun _ => .bind (.modify _) fun _ => .pure _)
          (.bind (.ask trivial) fun _ => .pure _)
      exact .bind (.modify _) fun _ => .bind (.zoom close) fun _ => .raise _
  · refine Program.wp_mono (ControlConnection.connect_socket hostname port connection past) ?_
      fun _ _ _ _ => trivial
    intro _ state _ same
    rw [same]

private theorem setSsl (layer : Layer) :
    Records (Client.onControl (ControlConnection.setSsl layer)) replies fun _ => replies := by
  refine onControl (.zoom (.bind (.ask trivial) fun _ => .modify _)) fun fuel connection past => ?_
  simp only [ControlConnection.setSsl, ControlConnection.onSocket, Program.wp_zoom, Socket.wp_setSsl]
  exact fun _ _ _ => True.intro

private theorem sslHandshake :
    Records (Client.onControl ControlConnection.sslHandshake) replies fun _ => replies := by
  refine onControl (.bind (.zoom ?_) fun _ => throwIf_asks _ _) fun fuel connection past => ?_
  · refine .bind .get fun socket => ?_
    cases socket.layer with
    | plain => exact .pure none
    | ssl => exact .ask trivial
  · simp only [ControlConnection.sslHandshake, ControlConnection.onSocket, Program.wp_bind,
      Program.wp_zoom, Socket.wp_sslHandshake, wp_throwIf]
    split
    · intro answer _ _
      cases answer <;> trivial
    · trivial

private theorem endpoint {query : Boundary.Query} (quiet : Quiet query)
    (read : Boundary.Answer query → Except ErrorCode Value) (fmt : String) :
    Records (Client.onControl (do valueOrThrow (read (← LibFtp.call query)) fmt)) replies
      fun _ => replies := by
  refine onControl (.bind (.ask (quiet_deaf quiet)) fun _ => valueOrThrow_asks _ _)
    fun fuel connection past => ?_
  simp only [Program.wp_bind, wp_call]
  intro answer after _
  cases read answer with
  | ok value => exact rfl
  | error ec => trivial

private theorem send (command : Bytes) :
    Records (send command) replies fun _ => replies := by
  refine deaf ?_ fun fuel client past => send_any command client past (fun _ => ⟨rfl, rfl⟩)
    fun _ _ _ => trivial
  refine .bind (.bind .get fun _ => .ask trivial) fun _ => .zoom ?_
  refine .bind (.zoom ?_) fun _ => throwIf_asks _ _
  exact .bind .get fun _ => .ite (.ask trivial) (.bind (.ask trivial) fun _ => .pure _)

/-- Where replies are read, they are appended. -/
private theorem recvInto (replies : Replies) : Records (recvInto replies) replies Prod.snd := by
  intro fuel client past
  simp only [Client.recvInto, notifyReply, Client.onControl, Program.wp_bind, Program.wp_zoom,
    Program.wp_get, wp_call, Program.wp_pure]
  have traces := Tree.sat_traces (ControlConnection.recv fuel client.control) past
  refine Tree.Sat.mono traces ?_
  rintro settled after ⟨events, same, traces⟩
  rcases settled with ⟨stop | reply, control⟩
  · trivial
  · intro _ notified step
    have step : notified = after ++ [⟨.notifyReply client.observers reply, ()⟩] := step
    refine ⟨True.intro, events ++ [⟨.notifyReply client.observers reply, ()⟩], [reply], ?_, ?_, rfl⟩
    · rw [step, same, List.append_assoc]
    · exact .reply ⟨fuel, client.control, control, rfl, rfl, traces⟩ .nil

private theorem processCommandInto (command : Bytes) (replies : Replies) :
    Records (processCommandInto command replies) replies Prod.snd :=
  .bind (send command) fun _ => recvInto replies

private theorem applySettings (reply : Reply) (replies : Replies) :
    Records (applySettings reply replies) replies Prod.snd := by
  refine .ite (.pure _ rfl) (.bind .get fun client => .ite ?_ (processCommandInto _ _))
  refine .bind (processCommandInto _ _) fun ⟨reply, replies⟩ => .ite (.pure _ rfl) ?_
  refine .bind (processCommandInto _ _) fun ⟨reply, replies⟩ => .ite (.pure _ rfl) ?_
  exact processCommandInto _ _

private theorem processLogin (username password : Bytes) (replies : Replies) :
    Records (processLogin username password replies) replies Prod.snd := by
  rw [processLogin_eq]
  refine .bind (processCommandInto _ _) fun _ => .ite ?_ (applySettings _ _)
  exact .bind (processCommandInto _ _) fun _ => applySettings _ _

private theorem processAbort (replies : Replies) :
    Records (processAbort replies) replies Prod.snd :=
  .bind (processCommandInto _ _) fun _ => .ite (recvInto _) (.pure _ rfl)

private theorem secure (reply : Reply) (replies : Replies) :
    Records (secure reply replies) replies (Except.casesOn · id id) := by
  refine .ite (.pure _ rfl) (.bind .get fun _ => .ite ?_ (.pure _ rfl))
  refine .bind (processCommandInto _ _) fun ⟨reply, replies⟩ => .ite (.pure _ rfl) ?_
  exact .bind (setSsl .ssl) fun _ => .bind sslHandshake fun _ => .pure _ rfl

private theorem connect (hostname : Bytes) (port : UInt16) (username : Option Bytes)
    (password : Bytes) :
    Records (connect hostname port username password) .empty id := by
  rw [connect_eq]
  have greeted : Records (greet hostname port) .empty (Except.casesOn · id id) := by
    refine .bind (opens hostname port) fun _ => ?_
    refine .bind (.bind .get fun _ => call .notifyConnected) fun _ => ?_
    exact .bind (recvInto _) fun ⟨reply, replies⟩ => secure reply replies
  refine .bind greeted fun outcome => ?_
  cases outcome with
  | error replies => exact .pure _ rfl
  | ok replies =>
    cases username with
    | none => exact .pure _ rfl
    | some name => exact .bind (processLogin name password replies) fun _ => .pure _ rfl

private theorem readyConnection (connection : DataConnection) :
    Records (readyConnection connection) replies fun _ => replies := by
  refine .bind .get fun client => .ite ?_ (.pure _ rfl)
  exact .bind (on (DataConnection.setSsl_quiet _)) fun _ =>
    .bind (on DataConnection.sslHandshake_quiet) fun _ => .pure _ rfl

private theorem answerMain (negotiated : Negotiated) (reply : Reply) (replies : Replies) :
    Records (answerMain negotiated reply replies) replies Prod.snd := by
  refine .ite (.ite (.pure _ rfl) ?_) (.ite ?_ ?_)
  · exact .bind (on DataConnection.accept_quiet) fun _ =>
      .bind (readyConnection _) fun _ => .pure _ rfl
  · exact .bind (on (DataConnection.disconnect_quiet _)) fun _ => .pure _ rfl
  · exact .bind (readyConnection _) fun _ => .pure _ rfl

private theorem negotiateActive (makeEndpointCommand : Endpoint → Bytes) (replies : Replies) :
    Records (negotiateActive makeEndpointCommand replies) replies Prod.snd := by
  refine .bind (endpoint .localEndpoint id _) fun _ => ?_
  refine .bind (on (DataConnection.listen_quiet _)) fun _ => ?_
  refine .bind (on DataConnection.getListenEndpoint_quiet) fun _ => ?_
  exact .bind (processCommandInto _ _) fun _ => .ite (.pure _ rfl) (.pure _ rfl)

private theorem negotiate (replies : Replies) :
    Records (negotiate replies) replies Prod.snd := by
  refine .bind .get fun client => ?_
  cases client.transferMode <;> cases client.rfc2428Support
  · refine .bind (processCommandInto _ _) fun ⟨reply, replies⟩ => .ite (.pure _ rfl) ?_
    cases tryParsePasvReply reply with
    | none => exact .raise _
    | some remote => exact .bind (on (DataConnection.connectText_quiet _ _)) fun _ => .pure _ rfl
  · refine .bind (processCommandInto _ _) fun ⟨reply, replies⟩ => .ite (.pure _ rfl) ?_
    cases tryParseEpsvReply reply with
    | none => exact .raise _
    | some remotePort =>
      exact .bind (endpoint .remoteEndpoint id _) fun _ =>
        .bind (on (DataConnection.connect_quiet _)) fun _ => .pure _ rfl
  · exact negotiateActive makePortCommand replies
  · exact negotiateActive makeEprtCommand replies

private theorem createDataConnection (command : Bytes) (replies : Replies) :
    Records (createDataConnection command replies) replies Prod.snd := by
  rw [createDataConnection_eq]
  refine .bind (negotiate replies) fun ⟨negotiated, replies⟩ => ?_
  cases negotiated with
  | none => exact .pure _ rfl
  | some negotiated => exact .bind (processCommandInto _ _) fun _ => answerMain _ _ _

private theorem finishTransfer (connection : DataConnection) (callback : Bool) (replies : Replies) :
    Records (finishTransfer connection callback replies) replies id := by
  have rest (cancelled : Bool) : Records (endTransfer connection replies cancelled) replies id := by
    refine .ite ?_ ?_
    · exact .bind (processAbort _) fun _ =>
        .bind (on (DataConnection.disconnect_quiet _)) fun _ => .pure _ rfl
    · exact .bind (on (DataConnection.disconnect_quiet _)) fun _ =>
        .bind (recvInto _) fun _ => .pure _ rfl
  rw [finishTransfer_eq]
  exact .ite (.bind (call .isCancelled) rest) (.bind (pure false rfl) rest)

private theorem overData {Moved Out : Type} {command : Bytes}
    {moves : Client → Method DataConnection Moved} {refusal : Replies → Out}
    {rest : Replies → Moved × DataConnection → Method Client Out} {project : Out → Replies}
    (quiet : ∀ client, (moves client).Asks Quiet)
    (refused : ∀ replies, project (refusal replies) = replies)
    (ends : ∀ replies moved, Records (rest replies moved) replies project) :
    Records (overData command moves refusal rest) .empty project := by
  refine .bind (createDataConnection _ _) fun ⟨connection, replies⟩ => ?_
  cases connection with
  | none => exact .pure _ (refused replies)
  | some connection => exact .bind .get fun client => .bind (on (quiet client)) fun _ => ends _ _

private theorem processDownload (path : Bytes) (callback : Bool) :
    Records (processDownload path callback) .empty id := by
  rw [processDownload_eq]
  exact overData (fun _ => DataConnection.recv_quiet _ _) (fun _ => rfl)
    fun _ _ => finishTransfer _ _ _

private theorem processUpload (remoteCommand : String) (path : Bytes) (callback : Bool) :
    Records (processUpload remoteCommand path callback) .empty id := by
  rw [processUpload_eq]
  exact overData (fun _ => DataConnection.send_quiet _ _) (fun _ => rfl)
    fun _ _ => finishTransfer _ _ _

private theorem getFileList (path : Option Bytes) (onlyNames : Bool) :
    Records (getFileList path onlyNames) .empty FileListReply.toReplies := by
  rw [getFileList_eq]
  refine overData (fun _ => DataConnection.recv_quiet _ _) (fun _ => rfl) fun replies moved => ?_
  exact .bind (.bind .get fun _ => call .notifyFileList) fun _ =>
    .bind (finishTransfer _ _ _) fun _ => .pure _ rfl

private theorem rename (fromPath toPath : Bytes) :
    Records (rename fromPath toPath) .empty id :=
  .bind (processCommandInto _ _) fun _ =>
    .ite (.bind (processCommandInto _ _) fun _ => .pure _ rfl) (.pure _ rfl)

end Records

/-- The list of replies that an operation returned, where it returns one. -/
def Output.listed : Output → Option Replies
  | .replies all => some all
  | .fileList answer => some answer.toReplies
  | _ => .none

/-- The list holds what was heard along the events, and the observers were shown the same. -/
structure FaithfulRecord (client : Client) (events : List BoundaryEvent) (buffer : Bytes)
    (replies : Replies) : Prop where
  heard : Hears client.observers client.control.buffer events replies.replies buffer
  notified : events.filterMap notification = replies.replies.map (client.observers, ·)
  isPositive : replies.isPositive = true ↔
    replies.replies ≠ [] ∧ ∀ reply ∈ replies.replies, reply.isPositive = true
  statusString : replies.statusString =
    List.intercalate crlf (replies.replies.map Reply.statusString)

theorem FaithfulRecord.ofHears {client : Client}
    (hears : Hears client.observers client.control.buffer events told buffer) :
    FaithfulRecord client events buffer (.ofList told) := by
  have same := Replies.ofList_replies told
  refine ⟨?_, ?_, ?_, ?_⟩
  · rw [same]
    exact hears
  · rw [same]
    exact hears.notified
  · rw [same]
    exact Replies.ofList_isPositive told
  · rw [same]
    exact Replies.ofList_statusString told

theorem invoke_records (operation : Operation) (fuel : Nat) (client : Client) :
    (invoke operation).wp Monitor.history fuel
      (fun output state after => ∀ replies, output.listed = some replies →
        FaithfulRecord client after state.control.buffer replies)
      (fun _ _ _ => True) client [] := by
  have listed {Value : Type} {program : Method Client Value} {out : Value → Replies}
      (records : Records program .empty out) (wrap : Value → Output)
      (same : ∀ value, (wrap value).listed = some (out value)) :
      Program.wp Monitor.history fuel (do return wrap (← program))
        (fun output state after => ∀ replies, output.listed = some replies →
          FaithfulRecord client after state.control.buffer replies)
        (fun _ _ _ => True) client [] := by
    rw [Program.wp_bind]
    refine Program.wp_mono (records fuel client []) ?_ fun _ _ _ _ => trivial
    intro value state after ⟨_, events, told, shown, hears, recorded⟩ replies list
    rw [same value, Option.some.injEq] at list
    subst list
    rw [shown, List.nil_append, recorded]
    exact .ofHears hears
  have unlisted {Value : Type} (program : Method Client Value) (wrap : Value → Output)
      (none : ∀ value, (wrap value).listed = .none) :
      Program.wp Monitor.history fuel (do return wrap (← program))
        (fun output state after => ∀ replies, output.listed = some replies →
          FaithfulRecord client after state.control.buffer replies)
        (fun _ _ _ => True) client [] := by
    rw [Program.wp_bind]
    refine Program.wp_always _ ?_ fun _ _ _ => trivial
    intro value state after replies list
    rw [none value] at list
    cases list
  cases operation with
  | connect hostname port username password =>
    exact listed (Records.connect hostname port username password) .replies fun _ => rfl
  | login username password =>
    have records : Records (login username password) .empty id :=
      .bind (Records.processLogin username password .empty) fun _ => .pure _ rfl
    exact listed records .replies fun _ => rfl
  | downloadFile path callback =>
    exact listed (Records.processDownload path callback) .replies fun _ => rfl
  | uploadFile path uploadUnique callback =>
    exact listed (Records.processUpload _ path callback) .replies fun _ => rfl
  | appendFile path callback =>
    exact listed (Records.processUpload _ path callback) .replies fun _ => rfl
  | getFileList path onlyNames =>
    exact listed (Records.getFileList path onlyNames) .fileList fun _ => rfl
  | rename fromPath toPath =>
    exact listed (Records.rename fromPath toPath) .replies fun _ => rfl
  | logout => exact unlisted _ .reply fun _ => rfl
  | disconnect graceful => exact unlisted _ .maybeReply fun _ => rfl
  | isConnected | getRfc2428Support => exact unlisted _ _ fun _ => rfl
  | setTransferMode | addObserver | removeObserver | setRfc2428Support =>
    exact fun _ list => nomatch list
  | _ => exact unlisted _ _ fun _ => rfl

/-- An operation that returns a list of replies returns what it has read and shown. -/
theorem replies_faithful (host : Host boundary World) (world : World) (fuel : Nat)
    (client : Client) (operation : Operation) (output : Output) (replies : Replies) :
    let run := (invoke operation).run host fuel client world
    run.value.1 = .ok output → output.listed = some replies →
      FaithfulRecord client run.events run.value.2.control.buffer replies := by
  intro run returned listed
  rcases Program.wp_run (invoke_records operation fuel client) host world
    (Monitor.history_drives [] run.events) with ⟨value, ended, faithful⟩ | ⟨stop, stopped, _⟩
  · have same : value = output := Except.ok.inj (ended.symm.trans returned)
    subst same
    exact faithful replies listed
  · rw [show run.value.1 = .error stop from stopped] at returned
    cases returned

theorem replies_faithful_rename :
    let client : Client := ⟨.passive, .binary, false, true, ⟨[], ⟨.plain, true⟩⟩, [4, 7]⟩
    let script := Script.ofReplies [text "350 a\r\n250", text "-b\r\n250 c\r\n"]
    let run := (invoke (.rename (text "x") (text "y"))).run Script.host 20 client script
    FaithfulRecord client run.events run.value.2.control.buffer
      ⟨true, text "350 a\r\n250-b\r\n250 c",
        [⟨350, text "350 a"⟩, ⟨250, text "250-b\r\n250 c"⟩]⟩ := by
  intro client script
  let renamed : Replies := ⟨true, text "350 a\r\n250-b\r\n250 c",
    [⟨350, text "350 a"⟩, ⟨250, text "250-b\r\n250 c"⟩]⟩
  have returned : ((invoke (.rename (text "x") (text "y"))).run Script.host 20 client script).value.1 =
      .ok (.replies renamed) := by decide +kernel
  have faithful := replies_faithful Script.host script 20 client (.rename (text "x") (text "y"))
    (.replies renamed) renamed returned rfl
  exact faithful

end Client

end LibFtp
