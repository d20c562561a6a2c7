import LibFtp.Detail.Errors
import LibFtp.Control.Line
import LibFtp.Control.Network

/-! Where the exceptions of the control connection come from. What it has read is followed, so
that a line that is quoted, and one that does not end, is one that was received. -/

namespace LibFtp

open Effect

/-- The bytes are the last ones of those that were there and those that were read since. -/
def Residue (initial : Bytes) (events : List BoundaryEvent) (rest : Bytes) : Prop :=
  ∃ taken, initial ++ (reads events).flatten = taken ++ rest

/-- A line was taken from what has been received, or the empty one at its end. -/
inductive LineTaken (initial : Bytes) (events : List BoundaryEvent) : Bytes → Prop where
  | line (left : Residue initial events (line ++ rest))
      (ends : Socket.matchEol (line ++ rest) = some line.length) : LineTaken initial events line
  | ended (failure : Failure events .eof "Cannot receive data over control connection") :
      LineTaken initial events []

theorem Residue.read (left : Residue initial events buffer) (chunk : Chunk maxSize) :
    Residue initial (events ++ [⟨.readSome .control layer maxSize, .ok chunk⟩])
      (buffer ++ chunk.data) := by
  obtain ⟨taken, same⟩ := left
  refine ⟨taken, ?_⟩
  have read : reads [⟨.readSome .control layer maxSize, .ok chunk⟩] = [chunk.data] := rfl
  rw [reads, List.filterMap_append, ← reads, ← reads, read, List.flatten_append,
    List.flatten_singleton, ← List.append_assoc, same, List.append_assoc]

theorem Residue.silent (left : Residue initial events buffer) (nothing : controlRead event = none) :
    Residue initial (events ++ [event]) buffer := by
  obtain ⟨taken, same⟩ := left
  refine ⟨taken, ?_⟩
  have silent : reads [event] = [] := by simp [reads, nothing]
  rw [reads, List.filterMap_append, ← reads, ← reads, silent, List.append_nil, same]

theorem Residue.later (left : Residue initial events (front ++ rest)) : Residue initial events rest := by
  obtain ⟨taken, same⟩ := left
  exact ⟨taken ++ front, by rw [same, List.append_assoc]⟩

theorem residue_detached (initial buffer : Bytes) :
    Detached fun events => Residue initial events buffer := by
  intro past ⟨query, answer⟩ apart left
  refine left.silent ?_
  cases query with
  | readSome channel =>
    cases channel with
    | control => exact (apart trivial).elim
    | data => rfl
  | _ => rfl

/-- What counts as the cause of an exception of the control connection besides. -/
structure TracedLines (initial : Bytes) (cause : List BoundaryEvent → FtpException → Prop) : Prop
    extends Traced cause where
  crowded : ∀ events buffer, Residue initial events buffer → 8192 ≤ buffer.length →
    Socket.matchEol buffer = none →
    cause events (.ofCode .notFound "Cannot receive data over control connection")
  unparsed : ∀ events line, LineTaken initial events line →
    ControlConnection.tryParseStatusCode line = none →
    cause events ⟨"Cannot parse a status code from the server reply: '%1%'.", [line], none⟩

namespace ControlConnection

/-- The buffer holds the last bytes that were received. -/
abbrev Keeping (initial : Bytes) (connection : ControlConnection) (events : List BoundaryEvent) : Prop :=
  Residue initial events connection.buffer

variable {cause : List BoundaryEvent → FtpException → Prop} {initial : Bytes}
  {past : List BoundaryEvent}

section Calls
variable (traced : Traced cause)

/-- The socket does not touch the buffer. -/
private theorem onSocket_accounts {program : Method Socket Value} {past : List BoundaryEvent}
    {post : Value → List BoundaryEvent → Prop}
    (accounts : ∀ kept, Detached kept → program.Accounts (fun _ => kept) cause past post) :
    (onSocket program).Accounts (Keeping initial) cause past post :=
  .zoom (fun connection => accounts _ (residue_detached initial connection.buffer)) fun _ => rfl

theorem setSsl_honest (layer : Layer) : Honest (Keeping initial) cause (setSsl layer) :=
  fun past => onSocket_accounts fun _ detached => Socket.setSsl_honest detached layer past

private theorem keeping_detached (connection : ControlConnection) :
    Detached (Keeping initial connection) :=
  residue_detached initial connection.buffer

include traced

theorem connect_honest (hostname : Bytes) (port : UInt16) :
    Honest (Keeping initial) cause (connect hostname port) := by
  intro past
  refine .bind (call_blames keeping_detached id (fun ec => ec) (fun _ => rfl) (.head _))
    fun ec after _ blames => .bind (throwIf_accounts traced blames) fun _ last _ _ => ?_
  refine .bind (call_blames keeping_detached id (fun ec => ec) (fun _ => rfl) (.head _))
    fun ec after _ blames => ?_
  cases ec with
  | none => exact .modify fun _ _ => id
  | some ec =>
    refine .bind (.modify fun _ _ => id) fun _ middle longer _ => ?_
    refine .bind (onSocket_accounts fun _ detached => Socket.close_accounts detached (.head _))
      fun _ final further _ => ?_
    have failure : Failure after ec "Cannot open control connection" := blames ec rfl
    exact .raise (traced.failure _ _ _ (failure.mono (List.Subset.trans longer further)))

theorem sslHandshake_honest : Honest (Keeping initial) cause sslHandshake :=
  throwIf_honest traced fun _ => onSocket_accounts fun _ detached =>
    Socket.sslHandshake_accounts detached (.head _)

theorem sslShutdown_honest : Honest (Keeping initial) cause sslShutdown :=
  throwIf_honest traced fun _ => onSocket_accounts fun _ detached =>
    Socket.sslShutdown_accounts detached (.head _)

theorem closeSteps_honest : Honest (Keeping initial) cause closeSteps := by
  refine .bind (.bind .get fun _ => .ite ?_ (.pure _)) fun _ => .bind ?_ fun _ => ?_
  · exact throwUnless_honest traced _ fun _ => onSocket_accounts fun _ detached =>
      Socket.sslShutdown_accounts detached (.tail _ (.head _))
  · exact throwUnless_honest traced _ fun _ => onSocket_accounts fun _ detached =>
      Socket.shutdown_accounts detached (.head _) fun _ => .head _
  · exact throwIf_honest traced fun _ => onSocket_accounts fun _ detached =>
      Socket.close_accounts detached (.head _)

theorem send_honest (command : Bytes) : Honest (Keeping initial) cause (send command) :=
  throwIf_honest traced fun _ => onSocket_accounts fun _ detached =>
    Socket.write_accounts detached (fun _ _ => .head _) (fun _ _ => .head _) _

/-- A call for an endpoint, which is thrown when it fails. -/
private theorem endpoint_honest (query : Boundary.Query) {fmt : String} (apart : ¬ ReadsControl query)
    (read : Boundary.Answer query → Except ErrorCode Value)
    (same : ∀ answer ec, read answer = .error ec → reported ⟨query, answer⟩ = some ec)
    (names : fmt ∈ complaints query) :
    Honest (Keeping initial) cause (do valueOrThrow (read (← call query)) fmt) := by
  exact fun past => .bind (call_noted keeping_detached apart) fun answer after _ noted =>
    valueOrThrow_accounts traced fun ec error => ⟨_, noted, same answer ec error, names⟩

theorem getLocalEndpoint_honest : Honest (Keeping initial) cause getLocalEndpoint := by
  refine endpoint_honest traced .localEndpoint id id (fun answer ec same => ?_) (.head _)
  cases same
  rfl

theorem getRemoteEndpoint_honest : Honest (Keeping initial) cause getRemoteEndpoint := by
  refine endpoint_honest traced .remoteEndpoint id id (fun answer ec same => ?_) (.head _)
  cases same
  rfl

end Calls

section Lines
variable (traced : TracedLines initial cause)

include traced

/-- A line that is too long is reported as one that was not found. -/
private theorem readLine_accounts :
    readLine.Accounts (Keeping initial) cause past fun line after => LineTaken initial after line := by
  intro fuel connection keeps
  refine readLine_rule (fun buffer after => Residue initial after buffer ∧ past ⊆ after)
    (fun ec buffer after => Residue initial after buffer ∧ past ⊆ after ∧
      Failure after ec "Cannot receive data over control connection")
    connection past ⟨keeps, List.Subset.refl past⟩ ?_ ?_ ?_ ?_ ?_ ?_ ?_
  · rintro buffer before chunk after - ⟨left, longer⟩ - step
    have step : after = before ++ [_] := step
    subst step
    exact ⟨left.read chunk, List.Subset.trans longer (List.subset_append_left _ _)⟩
  · rintro buffer before ec after - ⟨left, longer⟩ - - step
    have step : after = before ++ [_] := step
    subst step
    exact ⟨left.silent rfl, List.Subset.trans longer (List.subset_append_left _ _),
      _, List.mem_append_right _ (List.mem_singleton_self _), rfl, .head _⟩
  · rintro buffer before ec after - ⟨left, longer⟩ - - step
    have step : after = before ++ [_] := step
    subst step
    exact ⟨left.silent rfl, List.Subset.trans longer (List.subset_append_left _ _),
      _, List.mem_append_right _ (List.mem_singleton_self _), rfl, .head _⟩
  · rintro buffer len after ⟨left, longer⟩ found
    obtain ⟨_, bound⟩ := Socket.matchEol_bounds found
    have split : buffer.take len ++ buffer.drop len = buffer := List.take_append_drop len buffer
    rw [← split] at left
    refine ⟨left.later, longer, .line left ?_⟩
    rw [split, found, List.length_take, Nat.min_eq_left bound]
  · rintro buffer after ⟨left, longer⟩ plain long error same
    cases same
    exact traced.crowded after buffer left long (Socket.matchEol_none.mpr plain)
  · exact fun buffer after broken => ⟨broken.1, broken.2.1, .ended broken.2.2⟩
  · rintro ec buffer after other ⟨left, longer, failure⟩ error same
    cases same
    exact traced.failure _ _ _ failure

theorem recv_honest : Honest (Keeping initial) cause recv := by
  have lines (code : UInt16) (rounds : Nat) (statusString : Bytes) :
      Honest (Keeping initial) cause (recvLines code rounds statusString) := by
    induction rounds generalizing statusString with
    | zero => exact .spin
    | succ rounds ih =>
      exact fun past => .bind (readLine_accounts traced) fun _ after _ _ =>
        Honest.ite (.pure _) (ih _) after
  intro past
  refine .bind (readLine_accounts traced) fun line after _ taken => ?_
  cases parsed : tryParseStatusCode line with
  | none => exact .raise (traced.unparsed after line taken parsed)
  | some code =>
    have rest (statusString : Bytes) : Honest (Keeping initial) cause (do
        closeIfUnavailable code
        return (⟨code, stripEol statusString⟩ : Reply)) :=
      .bind (.ite (closeSteps_honest traced.toTraced) (.pure _)) fun _ => .pure _
    have whole : Honest (Keeping initial) cause (do
        let statusString ←
          if getElem? line 3 = some hyphen then Program.loop fun fuel => recvLines code fuel line
          else pure line
        closeIfUnavailable code
        return (⟨code, stripEol statusString⟩ : Reply)) :=
      .ite (.bind (.loop fun fuel => lines code fuel line) rest) (.bind (.pure _) rest)
    exact whole after

end Lines

end ControlConnection

end LibFtp
