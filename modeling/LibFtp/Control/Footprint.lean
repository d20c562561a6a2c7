import LibFtp.Control.Traffic
import LibFtp.Detail.Quiet

/-! What the control connection asks at all, apart from its state: nothing that concerns
a data connection. -/

namespace LibFtp

open Effect

private theorem Socket.sslShutdown_asks {allowed : Boundary.Query → Prop}
    (asked : allowed (.sslShutdown .control)) : (sslShutdown .control).Asks allowed := by
  refine .bind .get fun socket => ?_
  cases socket.layer with
  | plain => exact .pure none
  | ssl => exact .ask asked

section Closing
variable {allowed : Boundary.Query → Prop} (closing : ∀ query, Closing query → allowed query)

include closing

namespace Socket

private theorem shutdown_asks : (shutdown .control).Asks allowed :=
  .bind .get fun _ => .ite (.ask (closing _ .shutdown))
    (.bind (.ask (closing _ .missedShutdown)) fun _ => .pure _)

private theorem close_asks : (close .control).Asks allowed :=
  .bind .get fun _ => .ite
    (.bind (.ask (closing _ .close)) fun _ => .bind (.modify _) fun _ => .pure _)
    (.bind (.ask (closing _ .missedClose)) fun _ => .pure _)

end Socket

theorem ControlConnection.closeSteps_asks : closeSteps.Asks allowed := by
  refine .bind ?_ fun _ => .bind ?_ fun _ => ?_
  · exact .bind .get fun _ =>
      .ite (.bind (.zoom (Socket.sslShutdown_asks (closing _ .sslShutdown))) fun _ =>
        throwUnless_asks _ _ _) (.pure _)
  · exact .bind (.zoom (Socket.shutdown_asks closing)) fun _ => throwUnless_asks _ _ _
  · exact .bind (.zoom (Socket.close_asks closing)) fun _ => throwIf_asks _ _

end Closing

variable {allowed : Boundary.Query → Prop}
  (linked : ∀ layer query, Link layer query → allowed query)

/-- The closing calls are among those of a connection in any mode. -/
private theorem closing_linked (linked : ∀ layer query, Link layer query → allowed query)
    (query : Boundary.Query) (closing : Closing query) : allowed query :=
  linked .plain query (.closing closing)

namespace Socket

include linked

private theorem readUntil_asks (maxSize rounds : Nat) (buffer : Bytes) :
    (readUntil .control maxSize rounds buffer).Asks allowed := by
  induction rounds generalizing buffer with
  | zero => exact .pure _
  | succ rounds ih =>
    unfold readUntil
    cases matchEol buffer with
    | some len => exact .pure _
    | none =>
      have read : (readSome .control (maxSize - buffer.length)).Asks allowed :=
        .bind .get fun socket => .ite (.ask (linked socket.layer _ .readSome))
          (.bind (.ask (linked socket.layer _ .missedRead)) fun _ => .pure _)
      refine .ite (.pure _) (.bind read fun answer => ?_)
      cases answer with
      | ok chunk => exact ih _
      | error ec => exact .pure _

end Socket

namespace ControlConnection

section Links
include linked

theorem connect_asks (hostname : Bytes) (port : UInt16) : (connect hostname port).Asks allowed := by
  refine .bind (.ask (linked .plain _ .resolve)) fun _ => .bind (throwIf_asks _ _) fun _ => ?_
  refine .bind (.ask (linked .plain _ .connect)) fun answer => ?_
  cases answer with
  | none => exact .modify _
  | some ec =>
    exact .bind (.modify _) fun _ => .bind (.zoom (Socket.close_asks (closing_linked linked))) fun _ => .raise _

private theorem readLine_asks : readLine.Asks allowed := by
  refine .bind .get fun connection => ?_
  refine .bind (.zoom (Socket.readUntil_asks linked _ _ _)) fun ⟨buffer, len⟩ => ?_
  cases len with
  | ok len => exact .bind (.modify _) fun _ => .pure _
  | error ec =>
    cases ec with
    | eof => exact .bind (.modify _) fun _ => .pure _
    | _ => exact .bind (.modify _) fun _ => .raise _

private theorem recvLines_asks (code : UInt16) (fuel : Nat) (statusString : Bytes) :
    (recvLines code fuel statusString).Asks allowed := by
  induction fuel generalizing statusString with
  | zero => exact .spin
  | succ fuel ih => exact .bind (readLine_asks linked) fun _ => .ite (.pure _) (ih _)

theorem recv_asks : recv.Asks allowed := by
  refine .bind (readLine_asks linked) fun line => ?_
  cases tryParseStatusCode line with
  | none => exact .raise _
  | some code =>
    have rest (statusString : Bytes) : Program.Asks allowed (do
        closeIfUnavailable code
        return (⟨code, stripEol statusString⟩ : Reply)) :=
      .bind (.ite (closeSteps_asks (closing_linked linked)) (.pure _)) fun _ => .pure _
    refine .ite ?_ (.bind (.pure _) rest)
    exact .bind (.loop fun fuel => recvLines_asks linked code fuel line) rest

end Links

theorem sslHandshake_asks (asked : allowed (.handshake .control)) : sslHandshake.Asks allowed := by
  refine .bind (.zoom (.bind .get fun socket => ?_)) fun _ => throwIf_asks _ _
  cases socket.layer with
  | plain => exact .pure none
  | ssl => exact .ask asked

theorem sslShutdown_asks (asked : allowed (.sslShutdown .control)) : sslShutdown.Asks allowed :=
  .bind (.zoom (Socket.sslShutdown_asks asked)) fun _ => throwIf_asks _ _

theorem send_asks (written : ∀ layer line, allowed (.write .control layer line))
    (missed : ∀ layer line, allowed (.unopened .control layer (.write line))) (command : Bytes) :
    (send command).Asks allowed :=
  .bind (.zoom (.bind .get fun socket => .ite (.ask (written socket.layer _))
    (.bind (.ask (missed socket.layer _)) fun _ => .pure _))) fun _ => throwIf_asks _ _

theorem setSsl_asks (switched : ∀ layer, allowed (.setSsl .control layer)) (layer : Layer) :
    (setSsl layer).Asks allowed :=
  .zoom (.bind (.ask (switched layer)) fun _ => .modify _)

end ControlConnection

end LibFtp
