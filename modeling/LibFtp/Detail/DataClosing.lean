import LibFtp.Detail.Quiet

/-! Closing a data connection. It fails just where one of the closing calls is refused, but
for a graceful closing of a socket that is not open. -/

namespace LibFtp

open Effect

/-- The channel of a closing call that reports an error which the code does not tolerate. -/
def refusal : BoundaryEvent → Option Channel
  | ⟨.sslShutdown channel, some ec⟩ => if ec = .eof then none else some channel
  | ⟨.shutdown channel, some ec⟩ => if ec = .notConnected then none else some channel
  | ⟨.close channel, some _⟩ => some channel
  | ⟨.acceptorClose, some _⟩ => some .data
  | _ => none

namespace DataConnection

variable {Ghost : Type} {monitor : Monitor boundary Ghost} {fuel : Nat} {Calm Broken : Ghost → Prop}

/-- Where a closing stops early. -/
def ClosingStopped (graceful : Bool) (Calm Broken : Ghost → Prop) (_ : Stop FtpException)
    (_ : DataConnection) (after : Ghost) : Prop :=
  Broken after ∨ graceful = true ∧ Calm after

variable (calm : ∀ query answer ghost after, Plumbing query → refusal ⟨query, answer⟩ = none →
    Calm ghost → monitor.step ghost ⟨query, answer⟩ after → Calm after)
  (breaks : ∀ query answer ghost after, Plumbing query → refusal ⟨query, answer⟩ = some .data →
    Calm ghost → monitor.step ghost ⟨query, answer⟩ after → Broken after)

include calm breaks

private theorem shutdownSsl_spec (graceful : Bool) :
    Program.Triple monitor fuel (fun _ => Calm) shutdownSsl (fun _ _ => Calm)
      (ClosingStopped graceful Calm Broken) := by
  intro connection ghost holds
  simp only [shutdownSsl, Program.wp_bind, Program.wp_get, Program.wp_ite, Program.wp_pure]
  split
  · rename_i isSsl
    have ssl : connection.socket.layer = .ssl := by
      simpa [Socket.hasSslSupport] using isSsl
    simp only [onSocket, Program.wp_zoom, Socket.wp_sslShutdown, if_pos ssl, wp_throwUnless]
    intro answer after step
    cases answer with
    | none => exact calm _ _ _ _ .sslShutdown rfl holds step
    | some ec =>
      by_cases tolerated : ec = .eof
      · simp only [if_pos tolerated]
        have quiet : refusal ⟨.sslShutdown .data, some ec⟩ = none := if_pos tolerated
        exact calm _ _ _ _ .sslShutdown quiet holds step
      · simp only [if_neg tolerated]
        have refused : refusal ⟨.sslShutdown .data, some ec⟩ = some .data := if_neg tolerated
        exact .inl (breaks _ _ _ _ .sslShutdown refused holds step)
  · exact holds

private theorem shutdownTcp_spec (graceful : Bool) :
    Program.Triple monitor fuel (fun _ => Calm) (shutdownTcp graceful) (fun _ _ => Calm)
      (ClosingStopped graceful Calm Broken) := by
  intro connection ghost holds
  cases graceful with
  | false => exact holds
  | true =>
    simp only [shutdownTcp, if_true, onSocket, Program.wp_bind, Program.wp_zoom, Socket.wp_shutdown,
      wp_throwUnless]
    by_cases isOpen : connection.socket.isOpen = true
    · rw [if_pos isOpen]
      intro answer after step
      cases answer with
      | none => exact calm _ _ _ _ .shutdown rfl holds step
      | some ec =>
        by_cases tolerated : ec = .notConnected
        · simp only [if_pos tolerated]
          have quiet : refusal ⟨.shutdown .data, some ec⟩ = none := if_pos tolerated
          exact calm _ _ _ _ .shutdown quiet holds step
        · simp only [if_neg tolerated]
          have refused : refusal ⟨.shutdown .data, some ec⟩ = some .data := if_neg tolerated
          exact .inl (breaks _ _ _ _ .shutdown refused holds step)
    · rw [if_neg isOpen]
      intro _ after step
      exact .inr ⟨rfl, calm _ _ _ _ .missedShutdown rfl holds step⟩

private theorem closeSocket_spec (graceful : Bool) :
    Program.Triple monitor fuel (fun _ => Calm) closeSocket (fun _ _ => Calm)
      (ClosingStopped graceful Calm Broken) := by
  intro connection ghost holds
  simp only [closeSocket, onSocket, Program.wp_bind, Program.wp_zoom, Socket.wp_close, wp_throwIf]
  split
  · intro answer after step
    cases answer with
    | none => exact calm _ _ _ _ .close rfl holds step
    | some ec => exact .inl (breaks _ _ _ _ .close rfl holds step)
  · exact fun _ after step => calm _ _ _ _ .missedClose rfl holds step

private theorem closeAcceptor_spec (graceful : Bool) :
    Program.Triple monitor fuel (fun _ => Calm) closeAcceptor (fun _ _ => Calm)
      (ClosingStopped graceful Calm Broken) := by
  intro connection ghost holds
  simp only [closeAcceptor, Program.wp_bind, Program.wp_get, Program.wp_ite, Program.wp_pure, wp_call,
    Program.wp_modify, wp_throwIf]
  split
  · intro answer after step
    cases answer with
    | none => exact calm _ _ _ _ .acceptorClose rfl holds step
    | some ec => exact .inl (breaks _ _ _ _ .acceptorClose rfl holds step)
  · exact holds

theorem disconnect_spec (graceful : Bool) :
    Program.Triple monitor fuel (fun _ => Calm) (disconnect graceful) (fun _ _ => Calm)
      (ClosingStopped graceful Calm Broken) :=
  (shutdownSsl_spec calm breaks graceful).bind fun _ =>
    (shutdownTcp_spec calm breaks graceful).bind fun _ =>
      (closeSocket_spec calm breaks graceful).bind fun _ => closeAcceptor_spec calm breaks graceful

end DataConnection

end LibFtp
