import LibFtp.Client.Arguments
import LibFtp.Client.Footprint

/-! Operations without a transfer ask nothing but what goes over the control connection,
and so does the end of a transfer, but for closing the data connection. -/

namespace LibFtp.Client

open Effect

/-- Questions that include those of every operation without a transfer. -/
structure Controlling (allowed : Boundary.Query → Prop) : Prop extends Conversing allowed where
  switched : ∀ layer, allowed (.setSsl .control layer)
  greeted : ∀ observers hostname port, allowed (.notifyConnected observers hostname port)

namespace Controlling

variable {allowed : Boundary.Query → Prop} (controlling : Controlling allowed)

include controlling

private theorem applySettings (reply : Reply) (replies : Replies) :
    (applySettings reply replies).Asks allowed := by
  have command := controlling.toConversing.processCommandInto
  refine .ite (.pure _) (.bind .get fun client => .ite ?_ (command _ _))
  refine .bind (command _ _) fun ⟨reply, replies⟩ => .ite (.pure _) ?_
  exact .bind (command _ _) fun ⟨reply, replies⟩ => .ite (.pure _) (command _ _)

private theorem processLogin (username password : Bytes) (replies : Replies) :
    (processLogin username password replies).Asks allowed := by
  rw [processLogin_eq]
  refine .bind (controlling.processCommandInto _ _) fun _ =>
    .ite ?_ (applySettings controlling _ _)
  exact .bind (controlling.processCommandInto _ _) fun _ => applySettings controlling _ _

private theorem greet (hostname : Bytes) (port : UInt16) : (greet hostname port).Asks allowed := by
  refine .bind (.zoom (ControlConnection.connect_asks controlling.link _ _)) fun _ => ?_
  refine .bind (.bind .get fun _ => .ask (controlling.greeted _ _ _)) fun _ => ?_
  refine .bind (controlling.recvInto _) fun ⟨reply, replies⟩ => .ite (.pure _) ?_
  refine .bind .get fun _ => .ite ?_ (.pure _)
  refine .bind (controlling.processCommandInto _ _) fun ⟨reply, replies⟩ => .ite (.pure _) ?_
  refine .bind (.zoom (ControlConnection.setSsl_asks controlling.switched _)) fun _ => ?_
  have handshakes : ControlConnection.sslHandshake.Asks allowed :=
    ControlConnection.sslHandshake_asks (controlling.link _ _ (.handshake rfl))
  exact .bind (.zoom handshakes) fun _ => .pure _

private theorem connect (hostname : Bytes) (port : UInt16) (username : Option Bytes)
    (password : Bytes) : (connect hostname port username password).Asks allowed := by
  rw [connect_eq]
  refine .bind (greet controlling hostname port) fun greeted => ?_
  cases greeted with
  | error replies => exact .pure _
  | ok replies =>
    cases username with
    | none => exact .pure _
    | some name => exact .bind (processLogin controlling _ _ _) fun _ => .pure _

private theorem logout : logout.Asks allowed := by
  have shutsDown : ControlConnection.sslShutdown.Asks allowed :=
    ControlConnection.sslShutdown_asks (controlling.link .plain _ (.closing .sslShutdown))
  refine .bind (controlling.processCommand _) fun _ => .bind .get fun _ => .ite ?_ (.pure _)
  refine .bind (.zoom shutsDown) fun _ => ?_
  exact .bind (.zoom (ControlConnection.setSsl_asks controlling.switched _)) fun _ => .pure _

private theorem disconnect (graceful : Bool) : (disconnect graceful).Asks allowed := by
  have quit : (quit graceful).Asks allowed :=
    .ite (.bind (controlling.processCommand _) fun _ => .pure _) (.pure _)
  refine .bind quit fun _ => .bind ?_ fun _ => .bind ?_ fun _ => .pure _
  · exact .bind .get fun _ =>
      .ite (.zoom (ControlConnection.closeSteps_asks fun query closing =>
        controlling.link .plain query (.closing closing))) (.pure _)
  · exact .bind .get fun _ =>
      .ite (.zoom (ControlConnection.setSsl_asks controlling.switched _)) (.pure _)

theorem invoke (operation : Operation) (plain : operation.mainCommand = none) :
    (invoke operation).Asks allowed := by
  have command (command : Bytes) := controlling.processCommand command
  cases operation with
  | downloadFile | uploadFile | appendFile | getFileList => cases plain
  | connect => exact .bind (connect controlling _ _ _ _) fun _ => .pure _
  | login => exact .bind (.bind (processLogin controlling _ _ _) fun _ => .pure _) fun _ => .pure _
  | logout => exact .bind (logout controlling) fun _ => .pure _
  | disconnect graceful => exact .bind (disconnect controlling graceful) fun _ => .pure _
  | rename =>
    refine .bind (.bind (controlling.processCommandInto _ _) fun _ => ?_) fun _ => .pure _
    exact .ite (.bind (controlling.processCommandInto _ _) fun _ => .pure _) (.pure _)
  | setTransferType =>
    refine .bind (.bind (command _) fun _ => ?_) fun _ => .pure _
    exact .ite (.bind (.modify _) fun _ => .pure _) (.pure _)
  | setTransferMode | addObserver | removeObserver | setRfc2428Support =>
    exact .bind (.modify _) fun _ => .pure _
  | isConnected | getTransferMode | getTransferType | getRfc2428Support =>
    exact .bind .get fun _ => .pure _
  | getFileSize | getFileModifiedTime => exact .bind (.bind (command _) fun _ => .pure _) fun _ => .pure _
  | _ => exact .bind (command _) fun _ => .pure _

end Controlling

theorem Conversing.processAbort {allowed : Boundary.Query → Prop} (conversing : Conversing allowed)
    (replies : Replies) : (processAbort replies).Asks allowed :=
  .bind (conversing.processCommandInto _ _) fun _ => .ite (conversing.recvInto _) (.pure _)

end LibFtp.Client
