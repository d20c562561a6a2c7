import LibFtp.Client.PasvReply

/-! The endpoint that an active client listens on, as it is put into EPRT and PORT. -/

namespace LibFtp

open Effect

def Address.IsV4 : Address → Prop
  | .v4 .. => True
  | .v6 _ => False

instance : DecidablePred Address.IsV4
  | .v4 .. => .isTrue trivial
  | .v6 _ => .isFalse id

namespace Client

/-- `EPRT |1|address|port|`, or with protocol number 2 for an IPv6 address. -/
def EprtCarries (sent : Bytes) (endpoint : Endpoint) : Prop :=
  ∃ protocol number, Utils.splitString sent 124 =
      [text "EPRT ", protocol, endpoint.address.toText, number] ∧
    protocol = (if endpoint.address.IsV4 then text "1" else text "2") ∧
    Utils.tryParseUint16 number = some endpoint.port

/-- Six decimal numbers of 8 bits, which the decoder of the reply to PASV takes back to the
address and the port. -/
def PortCarries (sent : Bytes) (endpoint : Endpoint) : Prop :=
  ∃ hostPort : HostPort, sent = text "PORT " ++ hostPort.toText ∧
    (∀ field ∈ hostPort.fields, Octet field) ∧
    ∀ reply : Reply, Text.Between 40 41 reply.statusString hostPort.toText →
      tryParsePasvReply reply = some (endpoint.address.toText, endpoint.port)

theorem bar_not_mem_toText (address : Address) : 124 ∉ address.toText := by
  cases address with
  | v4 h1 h2 h3 h4 =>
    have digits (h : Byte) : 124 ∉ toDecimal h.toNat := toDecimal_plain _ rfl
    have dot : 124 ∉ text "." := by decide
    simp only [Address.toText, List.mem_append, digits, dot, or_false, not_false_iff]
  | v6 literal => exact fun member => (literal.plain _ member).1 rfl

theorem makeEprtCommand_carries (endpoint : Endpoint) :
    EprtCarries (makeEprtCommand endpoint) endpoint := by
  obtain ⟨address, port⟩ := endpoint
  have number : 124 ∉ toDecimal port.toNat := toDecimal_plain _ rfl
  have split (protocol : Bytes) (plain : 124 ∉ protocol) :
      Utils.splitString (text "EPRT " ++ 124 :: (protocol ++ 124 :: (address.toText ++
        124 :: (toDecimal port.toNat ++ 124 :: [])))) 124 =
          [text "EPRT ", protocol, address.toText, toDecimal port.toNat] := by
    rw [Utils.splitString_eq, Text.fields_cut (by decide), Text.fields_cut plain,
      Text.fields_cut (bar_not_mem_toText address), Text.fields_cut number, Text.fields_nil]
  have read : Utils.tryParseUint16 (toDecimal port.toNat) = some port :=
    (Utils.tryParseUint16_iff _ _).mpr ⟨isNumeral_toDecimal _, decimal_toDecimal _⟩
  cases address with
  | v4 h1 h2 h3 h4 =>
    refine ⟨text "1", _, ?_, rfl, read⟩
    rw [← split (text "1") (by decide)]
    simp only [makeEprtCommand, List.append_assoc]
    rfl
  | v6 literal =>
    refine ⟨text "2", _, ?_, rfl, read⟩
    rw [← split (text "2") (by decide)]
    simp only [makeEprtCommand, List.append_assoc]
    rfl

/-- The fields that PORT is made of. -/
private def portFields (h1 h2 h3 h4 : Byte) (port : UInt16) : HostPort :=
  ⟨toDecimal h1.toNat, toDecimal h2.toNat, toDecimal h3.toNat, toDecimal h4.toNat,
    toDecimal (port.toNat / 256), toDecimal (port.toNat % 256)⟩

private theorem octet_toDecimal {value : Nat} (small : value < 2 ^ 8) : Octet (toDecimal value) :=
  ⟨isNumeral_toDecimal value, (decimal_toDecimal value).symm ▸ small⟩

private theorem portFields_octets (h1 h2 h3 h4 : Byte) (port : UInt16) :
    ∀ field ∈ (portFields h1 h2 h3 h4 port).fields, Octet field := by
  have high : port.toNat / 256 < 2 ^ 8 := by
    have bound := port.toNat_lt
    omega
  have low : port.toNat % 256 < 2 ^ 8 := Nat.mod_lt _ (by decide)
  simp only [HostPort.fields, portFields, List.forall_mem_cons, List.not_mem_nil, false_implies,
    implies_true, and_true]
  exact ⟨octet_toDecimal h1.toNat_lt, octet_toDecimal h2.toNat_lt, octet_toDecimal h3.toNat_lt,
    octet_toDecimal h4.toNat_lt, octet_toDecimal high, octet_toDecimal low⟩

private theorem portFields_port (h1 h2 h3 h4 : Byte) (port : UInt16) :
    (portFields h1 h2 h3 h4 port).port = port := by
  rw [HostPort.port, portFields, decimal_toDecimal, decimal_toDecimal, Nat.mul_comm,
    Nat.div_add_mod]
  exact UInt16.ofNat_toNat

private theorem makePortCommand_v4 (h1 h2 h3 h4 : Byte) (port : UInt16) :
    makePortCommand ⟨.v4 h1 h2 h3 h4, port⟩ =
      text "PORT " ++ (portFields h1 h2 h3 h4 port).toText := by
  have kept (h : Byte) : (toDecimal h.toNat).map (fun ch => if ch = 46 then 44 else ch) =
      toDecimal h.toNat := by
    refine (List.map_congr_left fun ch member => if_neg fun dot => ?_).trans (List.map_id _)
    have plain : (46 : Byte) ∉ toDecimal h.toNat := toDecimal_plain _ rfl
    exact plain (dot ▸ member)
  have dot : (text ".").map (fun ch => if ch = 46 then 44 else ch) = [44] := by decide
  have comma : text "," = [44] := rfl
  simp only [makePortCommand, Address.toText, List.map_append, kept, dot, comma, HostPort.toText,
    HostPort.fields, portFields, List.intercalate_cons_cons, List.intercalate_singleton,
    List.append_assoc]
  rfl

private theorem toText_digits {hostPort : HostPort} (octets : ∀ field ∈ hostPort.fields, Octet field)
    {ch : Byte} (other : isDigit ch = false) (apart : ch ≠ 44) : ch ∉ hostPort.toText := by
  have plain : ∀ field ∈ hostPort.fields, ch ∉ field := fun field member =>
    (octets field member).1.plain other
  simp only [HostPort.fields, List.forall_mem_cons, List.not_mem_nil, false_implies, implies_true,
    and_true] at plain
  obtain ⟨h1, h2, h3, h4, p1, p2⟩ := plain
  simp only [HostPort.toText, HostPort.fields, List.intercalate_cons_cons, List.intercalate_singleton,
    List.mem_append, List.mem_singleton, h1, h2, h3, h4, p1, p2, apart, or_false, not_false_iff]

/-- PORT carries an endpoint just where it has an IPv4 address. -/
theorem makePortCommand_carries_iff (endpoint : Endpoint) :
    PortCarries (makePortCommand endpoint) endpoint ↔ endpoint.address.IsV4 := by
  obtain ⟨address, port⟩ := endpoint
  cases address with
  | v4 h1 h2 h3 h4 =>
    refine iff_of_true ?_ trivial
    have octets := portFields_octets h1 h2 h3 h4 port
    refine ⟨portFields h1 h2 h3 h4 port, makePortCommand_v4 h1 h2 h3 h4 port, octets, ?_⟩
    intro reply between
    refine (tryParsePasvReply_iff reply _ _).mpr
      ⟨portFields h1 h2 h3 h4 port, [], ?_, octets_readable octets, .inl rfl, rfl, ?_⟩
    · rwa [List.append_nil]
    · exact portFields_port h1 h2 h3 h4 port
  | v6 literal =>
    refine iff_of_false ?_ id
    intro ⟨hostPort, same, octets, _⟩
    have colon : 58 ∈ makePortCommand ⟨.v6 literal, port⟩ := by
      have kept : 58 ∈ literal.chars.map fun ch => if ch = 46 then 44 else ch :=
        List.mem_map.mpr ⟨58, literal.colon, rfl⟩
      simp only [makePortCommand, Address.toText, List.mem_append, kept, or_true, true_or]
    rw [same, List.mem_append] at colon
    rcases colon with word | fields
    · exact absurd word (by decide)
    · exact toText_digits octets rfl (by decide) fields

/-- The endpoint that the client listens on, and the lines it has sent. -/
structure Listening where
  endpoint : Option Endpoint
  said : List Bytes

def Listening.advance (listening : Listening) : BoundaryEvent → Listening
  | ⟨.acceptorEndpoint, .ok endpoint⟩ =>
    { listening with endpoint := listening.endpoint.or (some endpoint) }
  | ⟨.write .control _ line, _⟩ => { listening with said := listening.said ++ [line] }
  | _ => listening

section Runs
variable {fuel : Nat} {make : Endpoint → Bytes}

/-- The first line that is sent carries the endpoint. -/
private def Announces (make : Endpoint → Bytes) (listening : Listening) : Prop :=
  listening.said = [] ∨ ∃ endpoint, listening.endpoint = some endpoint ∧
    listening.said.head? = some (make endpoint ++ crlf)

private theorem announced_step {endpoint : Endpoint} {line : Bytes} {listening : Listening}
    (event : BoundaryEvent)
    (announced : listening.endpoint = some endpoint ∧ listening.said.head? = some line) :
    (listening.advance event).endpoint = some endpoint ∧
      (listening.advance event).said.head? = some line := by
  obtain ⟨same, first⟩ := announced
  unfold Listening.advance
  split
  · exact ⟨by rw [same]; rfl, first⟩
  · refine ⟨same, ?_⟩
    rw [List.head?_append, first]
    rfl
  · exact ⟨same, first⟩

/-- What is asked before the client listens. -/
private inductive SetsUp : Boundary.Query → Prop where
  | localEndpoint : SetsUp .localEndpoint
  | acceptorOpen : SetsUp .acceptorOpen
  | acceptorBind : SetsUp (.acceptorBind endpoint)
  | acceptorListen : SetsUp .acceptorListen

private theorem getLocalEndpoint_setsUp : (onControl ControlConnection.getLocalEndpoint).Asks SetsUp :=
  .zoom (.bind (.ask .localEndpoint) fun _ => valueOrThrow_asks _ _)

private theorem listen_setsUp (endpoint : Endpoint) : (DataConnection.listen endpoint).Asks SetsUp :=
  .bind (.ask .acceptorOpen) fun _ => .bind (throwIf_asks _ _) fun _ => .bind (.modify _) fun _ =>
    .bind (.ask .acceptorBind) fun _ => .bind (throwIf_asks _ _) fun _ =>
      .bind (.ask .acceptorListen) fun _ => throwIf_asks _ _

private theorem setsUp_keeps {State Error Value : Type} {program : Program boundary State Error Value}
    (setsUp : program.Asks SetsUp) :
    program.Keeps (Monitor.fold Listening.advance) (fun _ => (· = ⟨none, []⟩))
      (fun _ => (· = ⟨none, []⟩)) :=
  setsUp.keeps fun listening event after setsUp same step => by
    obtain ⟨query, answer⟩ := event
    rw [show after = listening.advance ⟨query, answer⟩ from step, same]
    cases setsUp <;> rfl

private theorem announced_keeps {State Error Value : Type} {endpoint : Endpoint} {line : Bytes}
    (program : Program boundary State Error Value) :
    program.Keeps (Monitor.fold Listening.advance)
      (fun _ listening => listening.endpoint = some endpoint ∧ listening.said.head? = some line)
      (fun _ listening => listening.endpoint = some endpoint ∧ listening.said.head? = some line) :=
  (Program.Asks.any program).keeps fun listening event after _ announced step => by
    rw [show after = listening.advance event from step]
    exact announced_step event announced

private theorem processActiveCommand_announces (make : Endpoint → Bytes) (command : Bytes)
    (replies : Replies) (client : Client) :
    (processActiveCommand make command replies).wp (Monitor.fold Listening.advance) fuel
      (fun _ _ => Announces make) (fun _ _ => Announces make) client ⟨none, []⟩ := by
  have silent {listening : Listening} (same : listening = ⟨none, []⟩) : Announces make listening :=
    .inl (same ▸ rfl)
  rw [processActiveCommand, Program.wp_bind]
  apply (setsUp_keeps getLocalEndpoint_setsUp fuel).apply rfl
  · intro localEndpoint client listening same
    rw [Program.wp_bind]
    apply (setsUp_keeps (.on (listen_setsUp _)) fuel).apply same
    · intro listens client listening same
      simp only [DataConnection.getListenEndpoint, Program.wp_bind, Program.wp_on, wp_call,
        wp_valueOrThrow, processCommandInto]
      intro answer after step
      rw [same] at step
      cases answer with
      | error ec => exact silent step
      | ok endpoint =>
        rw [show after = ⟨some endpoint, []⟩ from step]
        have told {requested : Listening} {observers : List ObserverId} {line : Bytes}
            (step : (Monitor.fold Listening.advance).step ⟨some endpoint, []⟩
              ⟨.notifyRequest observers line, ()⟩ requested) : requested = ⟨some endpoint, []⟩ := step
        have said {requested after : Listening} {layer : Layer} {answer : Option ErrorCode}
            (still : requested = ⟨some endpoint, []⟩)
            (step : (Monitor.fold Listening.advance).step requested
              ⟨.write .control layer (make endpoint ++ crlf), answer⟩ after) :
            after.endpoint = some endpoint ∧ after.said.head? = some (make endpoint ++ crlf) := by
          rw [show after = requested.advance _ from step, still]
          exact ⟨rfl, rfl⟩
        apply send_rule
        · intro requested after _ announced written
          rw [← Program.wp_bind]
          apply (announced_keeps _ fuel).apply (said (told announced) written)
          · exact fun _ _ _ announced => .inr ⟨endpoint, announced⟩
          · exact fun _ _ _ announced => .inr ⟨endpoint, announced⟩
        · intro error requested after _ announced written
          exact .inr ⟨endpoint, said (told announced) written⟩
        · intro ec requested after _ announced refused
          rw [show after = requested from refused, told announced]
          exact .inl rfl
    · exact fun _ _ _ same => silent same
  · exact fun _ _ _ same => silent same

private theorem createDataConnection_announces (client : Client) (active : client.transferMode = .active)
    (command : Bytes) (replies : Replies) :
    (createDataConnection command replies).wp (Monitor.fold Listening.advance) fuel
      (fun _ _ => Announces (if client.rfc2428Support then makeEprtCommand else makePortCommand))
      (fun _ _ => Announces (if client.rfc2428Support then makeEprtCommand else makePortCommand))
      client ⟨none, []⟩ := by
  rw [createDataConnection, Program.wp_bind, Program.wp_get]
  cases support : client.rfc2428Support with
  | true =>
    simp only [active, support, if_true]
    exact processActiveCommand_announces makeEprtCommand command replies client
  | false =>
    simp only [active, support, if_false, Bool.false_eq_true]
    exact processActiveCommand_announces makePortCommand command replies client

/-- What an active client sends first is made of the endpoint that it listens on. EPRT
carries every endpoint, PORT carries those with an IPv4 address. -/
theorem active_endpoint_carried_iff (host : Host boundary World) (fuel : Nat) (client : Client)
    (world : World) (command : Bytes) (replies : Replies) (endpoint : Endpoint) (line : Bytes)
    (active : client.transferMode = .active)
    (listens : (((createDataConnection command replies).run host fuel client world).events.foldl
      Listening.advance ⟨none, []⟩).endpoint = some endpoint)
    (said : (((createDataConnection command replies).run host fuel client world).events.foldl
      Listening.advance ⟨none, []⟩).said.head? = some line) :
    line = (if client.rfc2428Support then makeEprtCommand endpoint else makePortCommand endpoint) ++
        crlf ∧
      EprtCarries (makeEprtCommand endpoint) endpoint ∧
      (PortCarries (makePortCommand endpoint) endpoint ↔ endpoint.address.IsV4) := by
  refine ⟨?_, makeEprtCommand_carries endpoint, makePortCommand_carries_iff endpoint⟩
  have drives := Monitor.fold_drives Listening.advance ⟨none, []⟩
    ((createDataConnection command replies).run host fuel client world).events
  have announces : Announces (if client.rfc2428Support then makeEprtCommand else makePortCommand)
      (((createDataConnection command replies).run host fuel client world).events.foldl
        Listening.advance ⟨none, []⟩) := by
    rcases Program.wp_run (createDataConnection_announces client active command replies) host world
      drives with ⟨_, _, announces⟩ | ⟨_, _, announces⟩
    · exact announces
    · exact announces
  rcases announces with nothing | ⟨other, same, first⟩
  · rw [nothing] at said
    cases said
  · rw [listens] at same
    rw [said] at first
    obtain rfl := Option.some.inj same
    rw [Option.some.inj first]
    split <;> rfl

/-- An active client without support for EPRT. -/
private def listener : Client :=
  { Client.new .active .binary false false with control := ⟨[], ⟨.plain, true⟩⟩ }

private def listenerScript : Script :=
  ⟨[text "200 o\r\n", text "150 o\r\n"], [], [], [], fun _ => none⟩

theorem active_endpoint_carried_iff_port :
    text "PORT 127,0,0,1,7,229\r\n" = makePortCommand ⟨.v4 127 0 0 1, 2021⟩ ++ crlf ∧
      EprtCarries (makeEprtCommand ⟨.v4 127 0 0 1, 2021⟩) ⟨.v4 127 0 0 1, 2021⟩ ∧
      (PortCarries (makePortCommand ⟨.v4 127 0 0 1, 2021⟩) ⟨.v4 127 0 0 1, 2021⟩ ↔
        Address.IsV4 (.v4 127 0 0 1)) :=
  active_endpoint_carried_iff Script.host 9 listener listenerScript (text "RETR f") .empty
    ⟨.v4 127 0 0 1, 2021⟩ (text "PORT 127,0,0,1,7,229\r\n") rfl (by decide +kernel)
    (by decide +kernel)

/-- The loopback address of IPv6. -/
private def loopback : Endpoint :=
  ⟨.v6 ⟨text "::1", by decide, by decide +kernel⟩, 2021⟩

/-- An IPv6 address is put into PORT as it is. -/
theorem port_without_ipv4 :
    makePortCommand loopback = text "PORT ::1,7,229" ∧
      ¬ PortCarries (makePortCommand loopback) loopback :=
  ⟨by decide, fun carries => (makePortCommand_carries_iff loopback).mp carries⟩

end Runs

end Client

end LibFtp
