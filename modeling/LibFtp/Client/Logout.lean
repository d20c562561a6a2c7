import LibFtp.Client.Exchange
import LibFtp.Client.Operations
import LibFtp.Detail.Script

/-! The end of a session that keeps the connection: after REIN the control connection goes
back to plain text. -/

namespace LibFtp.Client

open Effect

/-- The reply to REIN, and how the TLS shutdown of the control connection went. -/
structure Farewell where
  reply : Option Reply
  outcome : Option (Option ErrorCode)
  deriving DecidableEq, Repr

def Farewell.advance (farewell : Farewell) : BoundaryEvent → Farewell
  | ⟨.notifyReply _ reply, _⟩ => { farewell with reply := some reply }
  | ⟨.sslShutdown .control, outcome⟩ => { farewell with outcome := some outcome }
  | _ => farewell

abbrev farewells : Monitor boundary Farewell := Monitor.fold Farewell.advance

/-- What is to come of a TLS shutdown: the outcomes that `disconnect` takes for a success
leave an open connection in plain text, and no other leaves the connection open with the TLS
layer that was shut down. -/
def LeavesUsable (reply : Reply) (outcome : Option ErrorCode)
    (ended : Except (Stop FtpException) Reply × Client) : Prop :=
  (outcome = none ∨ outcome = some .eof → ended.1 = .ok reply ∧
      ended.2.control.socket.isOpen = true ∧ ended.2.control.isSsl = false) ∧
    (outcome ≠ none → outcome ≠ some .eof →
      ¬ (ended.2.control.socket.isOpen = true ∧ ended.2.control.isSsl = true))

/-- The shutdown was asked for, and only without any error it leaves a usable connection. -/
private def Parted (last : Farewell) (ended : Except (Stop FtpException) Reply × Client) : Prop :=
  ∀ reply, last.reply = some reply → reply.isPositive = true →
    ∃ outcome, last.outcome = some outcome ∧ (LeavesUsable reply outcome ended ↔ outcome = none)

variable {fuel : Nat}

private theorem unheard (layer : Layer) : Steady farewells layer fun last => last.reply = none := by
  intro before event after link same step
  obtain ⟨query, answer⟩ := event
  rw [show after = before.advance ⟨query, answer⟩ from step]
  cases link with
  | closing closing => cases closing <;> exact same
  | _ => exact same

private theorem logout_parts (client : Client) (secure : client.control.isSsl = true) :
    logout.wp farewells fuel (fun reply state last => Parted last (.ok reply, state))
      (fun stop state last => Parted last (.error stop, state)) client ⟨none, none⟩ := by
  have silent {last : Farewell} {ended : Except (Stop FtpException) Reply × Client}
      (none : last.reply = none) : Parted last ended := by
    intro reply heard
    rw [none] at heard
    cases heard
  rw [logout, Program.wp_bind, processCommand, Program.wp_bind]
  apply send_rule
  · intro requested after isOpen announced written
    have same : after = ⟨none, none⟩ := by
      rw [show after = requested.advance _ from written]
      exact announced
    rw [same]
    apply recv_rule client _ (unheard _) rfl
    · intro reply control middle heard socket _ step
      have answered : heard.reply = some reply := by
        rw [show heard = middle.advance _ from step]
        rfl
      simp only [Program.wp_bind, Program.wp_get, Program.wp_ite, Program.wp_pure]
      by_cases positive : reply.isPositive = true
      · have kept : control.socket = client.control.socket := by
          rw [socket, if_neg (reply.not_unavailable (reply.not_negative positive))]
        have ssl : control.socket.layer = .ssl := by
          rw [kept]
          simpa [ControlConnection.isSsl, Socket.hasSslSupport] using secure
        have openStill : control.socket.isOpen = true := by rw [kept, isOpen]
        have still : control.isSsl = true := by
          simp [ControlConnection.isSsl, Socket.hasSslSupport, ssl]
        rw [if_pos ⟨positive, still⟩]
        simp only [onControl, ControlConnection.sslShutdown, ControlConnection.setSsl,
          ControlConnection.onSocket, Program.wp_bind, Program.wp_zoom, Socket.wp_sslShutdown,
          Socket.wp_setSsl, wp_throwIf, if_pos ssl]
        intro outcome parted step
        have ended : parted = { heard with outcome := some outcome } := step
        cases outcome with
        | none =>
          intro _ switched step
          have same : switched = parted := step
          intro other told _
          rw [same, ended] at told
          obtain rfl : reply = other := by simpa [answered] using told
          refine ⟨none, by rw [same, ended], iff_of_true ⟨fun _ => ?_, fun given => absurd rfl given⟩ rfl⟩
          exact ⟨rfl, openStill, rfl⟩
        | some ec =>
          intro other told _
          rw [ended] at told
          obtain rfl : reply = other := by simpa [answered] using told
          refine ⟨some ec, by rw [ended], iff_of_false ?_ (Option.some_ne_none ec)⟩
          intro both
          obtain ⟨tolerated, fatal⟩ := both
          by_cases eof : ec = .eof
          · cases (tolerated (.inr (congrArg some eof))).1
          · exact fatal (Option.some_ne_none ec) (fun same => eof (Option.some.inj same)) ⟨openStill, still⟩
      · rw [if_neg fun both => positive both.1]
        intro other told refuted
        obtain rfl : reply = other := by simpa [answered] using told
        exact absurd refuted positive
    · exact fun stop control after _ none => silent none
  · intro error requested after _ announced written
    refine silent ?_
    rw [show after = requested.advance _ from written, show requested = _ from announced]
    rfl
  · intro ec requested after _ announced refused
    refine silent ?_
    rw [show after = requested.advance _ from refused, show requested = _ from announced]
    rfl

/-- After a positive reply to REIN the connection is left usable just where the TLS shutdown
reports nothing at all. -/
theorem logout_usable_iff (host : Host boundary World) (fuel : Nat) (client : Client)
    (world : World) (reply : Reply) (secure : client.control.isSsl = true)
    (heard : ((logout.run host fuel client world).events.foldl Farewell.advance ⟨none, none⟩).reply =
      some reply) (positive : reply.isPositive = true) :
    ∃ outcome,
      ((logout.run host fuel client world).events.foldl Farewell.advance ⟨none, none⟩).outcome =
        some outcome ∧
      (LeavesUsable reply outcome (logout.run host fuel client world).value ↔ outcome = none) := by
  have drives := Monitor.fold_drives Farewell.advance ⟨none, none⟩
    (logout.run host fuel client world).events
  have whole (ended : Except (Stop FtpException) Reply)
      (same : (logout.run host fuel client world).value.1 = ended) :
      (ended, (logout.run host fuel client world).value.2) =
        (logout.run host fuel client world).value := by
    rw [← same]
  rcases Program.wp_run (logout_parts client secure) host world drives with
    ⟨value, same, parts⟩ | ⟨stop, same, parts⟩
  · rw [whole _ same] at parts
    exact parts reply heard positive
  · rw [whole _ same] at parts
    exact parts reply heard positive

/-- A client that is logged in over TLS. -/
private def secured : Client :=
  { Client.new .passive .binary true true with control := ⟨[], ⟨.ssl, true⟩⟩ }

private def parting (outcome : Option ErrorCode) : Script :=
  ⟨[text "220 b\r\n"], [], [], [], fun query => match query with
    | .sslShutdown .control => outcome
    | _ => none⟩

theorem logout_usable_iff_clean :
    ∃ outcome, some (none : Option ErrorCode) = some outcome ∧
      (LeavesUsable ⟨220, text "220 b"⟩ outcome
        (logout.run Script.host 9 secured (parting none)).value ↔ outcome = none) :=
  logout_usable_iff Script.host 9 secured (parting none) ⟨220, text "220 b"⟩ rfl
    (by decide +kernel) rfl

/-- The server closes the TLS connection first: the reply is lost, and the connection stays
open in SSL mode. -/
theorem logout_raises_eof :
    (logout.run Script.host 9 secured (parting (some .eof))).value =
      (.error (.raised (.ofCode .eof "Cannot perform SSL/TLS shutdown")), secured) ∧
      ¬ LeavesUsable ⟨220, text "220 b"⟩ (some .eof)
        (logout.run Script.host 9 secured (parting (some .eof))).value := by
  have ended : (logout.run Script.host 9 secured (parting (some .eof))).value =
      (.error (.raised (.ofCode .eof "Cannot perform SSL/TLS shutdown")), secured) := by rfl
  refine ⟨ended, fun usable => ?_⟩
  rw [ended] at usable
  exact absurd (usable.1 (.inr rfl)).1 nofun

end LibFtp.Client
