import LibFtp.Control.Network

/-! Bytes left in the receive buffer. The code of the next reply is read off the
first three bytes of the buffer and the stream together, so there is a stream by
which any leftover shows. -/

namespace LibFtp

open Effect

/-- Two streams that carry one reply each. -/
def probes : List Bytes := [text "456 a\r\n", text "457 a\r\n"]

/-- The status code at the front of a stream. -/
def frontCode (stream : Bytes) : Option UInt16 := Utils.tryParseUint16 (stream.take 3)

private theorem front_digits (long : 3 ≤ stream.length) (code : ReplyCode)
    (parsed : frontCode stream = some code.value) : stream.take 3 = code.digits := by
  have three : (stream.take 3).length = 3 := by
    rw [List.length_take]
    omega
  obtain ⟨other, digits, same⟩ := ReplyCode.digits_of_parse three parsed
  rw [digits, ReplyCode.value_inj same]

/-- Whatever bytes go first, they show in the code of one of the probes. -/
theorem probe_tells {buffer : Bytes} (leftover : buffer ≠ []) :
    ∃ probe ∈ probes, frontCode (buffer ++ probe) ≠ frontCode probe := by
  by_contra hidden
  have same (probe) (member : probe ∈ probes) : frontCode (buffer ++ probe) = frontCode probe := by
    by_contra differs
    exact hidden ⟨probe, member, differs⟩
  have long (probe) (member : probe ∈ probes) : 3 ≤ (buffer ++ probe).length := by
    simp only [probes, List.mem_cons, List.not_mem_nil, or_false] at member
    rcases member with rfl | rfl <;> simp [text]
  have first : (buffer ++ text "456 a\r\n").take 3 = text "456" :=
    front_digits (long _ (by simp [probes])) ⟨4, 5, 6⟩ (same _ (by simp [probes]))
  have second : (buffer ++ text "457 a\r\n").take 3 = text "457" :=
    front_digits (long _ (by simp [probes])) ⟨4, 5, 7⟩ (same _ (by simp [probes]))
  match buffer with
  | [] => exact leftover rfl
  | [x] => simp [text] at first
  | [x, y] => simp [text] at first
  | x :: y :: z :: rest =>
    have clash : text "456" = text "457" := by
      rw [← first, ← second]
      simp
    exact absurd clash (by decide)

namespace ControlConnection

variable {fuel : Nat}

/-- The code of the reply comes from the front of the buffer and the stream. -/
theorem recv_code (connection : ControlConnection) (left : Bytes) :
    recv.wp deliver fuel (fun reply _ _ => frontCode (connection.buffer ++ left) = some reply.code)
      (fun _ _ _ => True) connection left := by
  unfold recv
  rw [Program.wp_bind]
  apply readLine_wp (fun buffer after => buffer ++ after = connection.buffer ++ left)
    (fun _ _ _ => True) connection left rfl
  · intro buffer before chunk after _ held _ step
    have delivered : before = chunk.data ++ after := step
    rw [List.append_assoc, ← delivered]
    exact held
  · exact fun _ _ _ _ _ _ _ _ _ => trivial
  · exact fun _ _ _ _ _ _ _ _ _ => trivial
  · intro buffer len after held found
    obtain ⟨_, bound⟩ := Socket.matchEol_bounds found
    have parsed (code) (parsed : tryParseStatusCode (buffer.take len) = some code) :
        frontCode (connection.buffer ++ left) = some code := by
      unfold tryParseStatusCode at parsed
      split at parsed
      · cases parsed
      · rename_i long
        rw [List.length_take] at long
        rw [← held, ← parsed, frontCode, substr, List.drop_zero, List.take_take,
          Nat.min_eq_left (by omega), List.take_append_of_le_length (by omega)]
    cases status : tryParseStatusCode (buffer.take len) with
    | none => trivial
    | some code =>
      have front := parsed code status
      have tail (statusString : Bytes) (state : ControlConnection) (after : Bytes) :
          (closeIfUnavailable code).wp deliver fuel
            (fun _ _ _ => frontCode (connection.buffer ++ left) = some code)
            (fun _ _ _ => True) state after :=
        Program.wp_always _ (fun _ _ _ => front) (fun _ _ _ => trivial)
      by_cases multi : getElem? (buffer.take len) 3 = some hyphen
      · simp only [Program.wp_bind, if_pos multi]
        exact Program.wp_always _ tail (fun _ _ _ => trivial)
      · simp only [Program.wp_bind, if_neg multi]
        exact tail (buffer.take len) _ _
  · exact fun _ _ _ _ _ _ => trivial
  · exact fun _ _ _ => trivial
  · exact fun _ _ _ _ _ _ => trivial

private theorem recv_full (layer : Layer) (reply : Reply)
    (received : ((recv.run Network.full 0 ⟨[], ⟨layer, true⟩⟩ stream).value,
      (recv.run Network.full 0 ⟨[], ⟨layer, true⟩⟩ stream).world) =
        ((.ok reply, ⟨[], ⟨layer, true⟩⟩), [])) {post : Reply → ControlConnection → Bytes → Prop}
    {fail : Stop FtpException → ControlConnection → Bytes → Prop}
    (holds : post reply ⟨[], ⟨layer, true⟩⟩ []) :
    recv.wp (Monitor.only Network.full) 0 post fail ⟨[], ⟨layer, true⟩⟩ stream := by
  obtain ⟨value, world⟩ := Prod.mk.inj received
  rw [Program.wp_only, value, world]
  exact holds

/-- On an empty buffer the probes are received as they are. -/
theorem recv_probe {probe : Bytes} (layer : Layer) (member : probe ∈ probes) :
    ∃ reply, frontCode probe = some reply.code ∧ reply.isNegative = true ∧
      ∀ {post : Reply → ControlConnection → Bytes → Prop}
        {fail : Stop FtpException → ControlConnection → Bytes → Prop},
        post reply ⟨[], ⟨layer, true⟩⟩ [] →
        recv.wp (Monitor.only Network.full) 0 post fail ⟨[], ⟨layer, true⟩⟩ probe := by
  simp only [probes, List.mem_cons, List.not_mem_nil, or_false] at member
  rcases member with same | same <;> subst probe
  · refine ⟨⟨456, text "456 a"⟩, by decide, by decide, recv_full layer _ ?_⟩
    cases layer <;> decide +kernel
  · refine ⟨⟨457, text "457 a"⟩, by decide, by decide, recv_full layer _ ?_⟩
    cases layer <;> decide +kernel

end ControlConnection

end LibFtp
