import LibFtp.Client.Footprint
import LibFtp.Detail.Decimal
import LibFtp.Detail.Search
import LibFtp.Detail.Script

/-! The reply to PASV. Its fields are read as 16-bit numbers, and what they amount to is
left to the parser of IP addresses. -/

namespace LibFtp.Client

open Effect

/-- A decimal number of 8 bits. -/
def Octet (field : Bytes) : Prop := IsNumeral field ∧ decimal field < 2 ^ 8

instance (field : Bytes) : Decidable (Octet field) := inferInstanceAs (Decidable (_ ∧ _))

def octet (field : Bytes) : Byte := UInt8.ofNat (decimal field)

def dotted (h1 h2 h3 h4 : Bytes) : Bytes :=
  h1 ++ text "." ++ h2 ++ text "." ++ h3 ++ text "." ++ h4

/-- What is relied on of `make_address`: the IPv4 addresses it accepts are those of four
decimal numbers of 8 bits with dots in between. It may be strict about how they are spelled, as
`inet_pton` is, which takes no leading zeros. All others it accepts are IPv6 literals. -/
structure MakesAddress (spelled : Bytes → Prop) (make : Bytes → Except ErrorCode Address) : Prop where
  bits : ∀ field, spelled field → Octet field
  plain : ∀ number < 2 ^ 8, spelled (toDecimal number)
  v4_iff : ∀ ip a b c d, make ip = .ok (.v4 a b c d) ↔
    ∃ h1 h2 h3 h4, spelled h1 ∧ spelled h2 ∧ spelled h3 ∧ spelled h4 ∧ ip = dotted h1 h2 h3 h4 ∧
      octet h1 = a ∧ octet h2 = b ∧ octet h3 = c ∧ octet h4 = d

/-- `(h1,h2,h3,h4,p1,p2)`. -/
structure HostPort where
  h1 : Bytes
  h2 : Bytes
  h3 : Bytes
  h4 : Bytes
  p1 : Bytes
  p2 : Bytes

namespace HostPort
variable (hostPort : HostPort)

def fields : List Bytes :=
  [hostPort.h1, hostPort.h2, hostPort.h3, hostPort.h4, hostPort.p1, hostPort.p2]

def host : List Bytes := [hostPort.h1, hostPort.h2, hostPort.h3, hostPort.h4]

def toText : Bytes := [44].intercalate hostPort.fields

def ip : Bytes := dotted hostPort.h1 hostPort.h2 hostPort.h3 hostPort.h4

def address : Address :=
  .v4 (octet hostPort.h1) (octet hostPort.h2) (octet hostPort.h3) (octet hostPort.h4)

def port : UInt16 := UInt16.ofNat (decimal hostPort.p1 * 256 + decimal hostPort.p2)

/-- The fields as the splitter finds them, with the port fields as the parser takes them. -/
def Readable : Prop :=
  (∀ field ∈ hostPort.fields, 44 ∉ field) ∧ (IsNumeral hostPort.p1 ∧ decimal hostPort.p1 < 2 ^ 16) ∧
    IsNumeral hostPort.p2 ∧ decimal hostPort.p2 < 2 ^ 16

end HostPort

/-- The text between the outermost brackets is six decimal numbers of 8 bits with commas in
between, those of the address spelled well. They stand for the endpoint. -/
def Advertises (spelled : Bytes → Prop) (statusString : Bytes) (endpoint : Endpoint) : Prop :=
  ∃ hostPort : HostPort, Text.Between 40 41 statusString hostPort.toText ∧
    (∀ field ∈ hostPort.fields, Octet field) ∧ (∀ field ∈ hostPort.host, spelled field) ∧
    endpoint = ⟨hostPort.address, hostPort.port⟩

/-- A readable reply with a comma at its end, with a port field of more than 8 bits, or with
an IPv6 literal made of the first four fields. -/
def Misread (make : Bytes → Except ErrorCode Address) (statusString : Bytes) : Prop :=
  ∃ (hostPort : HostPort) (tail : Bytes),
    Text.Between 40 41 statusString (hostPort.toText ++ tail) ∧ hostPort.Readable ∧
      (tail = [] ∨ tail = [44]) ∧ ∃ address, make hostPort.ip = .ok address ∧
        (tail = [44] ∨ 2 ^ 8 ≤ decimal hostPort.p1 ∨ 2 ^ 8 ≤ decimal hostPort.p2 ∨
          ∃ literal, address = .v6 literal)

section Parsing

/-- What the parser makes of the text between the brackets. -/
private def decode (addressString : Bytes) : Option (Bytes × UInt16) :=
  match Utils.splitString addressString 44 with
  | [h1, h2, h3, h4, p1, p2] => do
    let portHigh ← Utils.tryParseUint16 p1
    let portLow ← Utils.tryParseUint16 p2
    return (dotted h1 h2 h3 h4, portHigh * 256 + portLow)
  | _ => none

private theorem tryParsePasvReply_eq (reply : Reply) :
    tryParsePasvReply reply = (bracketed reply.statusString).bind decode := by
  simp only [tryParsePasvReply, bracketed, bind]
  cases find 40 reply.statusString with
  | none => rfl
  | some first =>
    cases rfind 41 reply.statusString with
    | none => rfl
    | some last =>
      simp only [Option.bind_some]
      by_cases inverted : first ≥ last
      · rw [if_pos inverted, if_pos inverted]
        rfl
      · rw [if_neg inverted, if_neg inverted, Option.bind_some]
        by_cases empty : first + 1 ≥ last
        · have nothing : last - first - 1 = 0 := by omega
          rw [if_pos empty, nothing]
          rfl
        · have same : last - (first + 1) = last - first - 1 := by omega
          rw [if_neg empty, same]
          rfl

/-- The two port fields, put together in 16 bits. -/
private theorem port_eq {p1 p2 : Bytes} {portHigh portLow : UInt16} (high : decimal p1 = portHigh.toNat)
    (low : decimal p2 = portLow.toNat) :
    portHigh * 256 + portLow = UInt16.ofNat (decimal p1 * 256 + decimal p2) := by
  rw [high, low]
  apply UInt16.toNat_inj.mp
  simp

private theorem decode_iff (addressString ip : Bytes) (port : UInt16) :
    decode addressString = some (ip, port) ↔ ∃ hostPort : HostPort,
      Utils.splitString addressString 44 = hostPort.fields ∧
        (IsNumeral hostPort.p1 ∧ decimal hostPort.p1 < 2 ^ 16) ∧
        (IsNumeral hostPort.p2 ∧ decimal hostPort.p2 < 2 ^ 16) ∧ hostPort.ip = ip ∧
        hostPort.port = port := by
  constructor
  · intro decoded
    unfold decode at decoded
    split at decoded
    · rename_i h1 h2 h3 h4 p1 p2 split
      obtain ⟨portHigh, high, decoded⟩ := Option.bind_eq_some_iff.mp decoded
      obtain ⟨portLow, low, decoded⟩ := Option.bind_eq_some_iff.mp decoded
      obtain ⟨first, high⟩ := (Utils.tryParseUint16_iff p1 portHigh).mp high
      obtain ⟨second, low⟩ := (Utils.tryParseUint16_iff p2 portLow).mp low
      cases decoded
      exact ⟨⟨h1, h2, h3, h4, p1, p2⟩, split, ⟨first, high ▸ portHigh.toNat_lt⟩,
        ⟨second, low ▸ portLow.toNat_lt⟩, rfl, (port_eq high low).symm⟩
    · cases decoded
  · intro ⟨⟨h1, h2, h3, h4, p1, p2⟩, split, ⟨first, high⟩, ⟨second, low⟩, sameIp, samePort⟩
    have fitsHigh : decimal p1 = (UInt16.ofNat (decimal p1)).toNat :=
      (UInt16.toNat_ofNat_of_lt high).symm
    have fitsLow : decimal p2 = (UInt16.ofNat (decimal p2)).toNat :=
      (UInt16.toNat_ofNat_of_lt low).symm
    have parsedHigh := (Utils.tryParseUint16_iff p1 _).mpr ⟨first, fitsHigh⟩
    have parsedLow := (Utils.tryParseUint16_iff p2 _).mpr ⟨second, fitsLow⟩
    have port := port_eq fitsHigh fitsLow
    simp only [decode, split, HostPort.fields, parsedHigh, parsedLow, bind, Option.bind_some, port]
    rw [← sameIp, ← samePort]
    rfl

private theorem fields_given (hostPort : HostPort) : hostPort.fields ≠ [] := List.cons_ne_nil _ _

private theorem fields_toText {hostPort : HostPort} {tail : Bytes} (readable : hostPort.Readable)
    (ends : tail = [] ∨ tail = [44]) : Text.fields 44 (hostPort.toText ++ tail) = hostPort.fields := by
  rw [Text.fields_eq_iff 44 _ (fields_given hostPort)]
  refine ⟨readable.1, ?_⟩
  rcases ends with none | comma
  · rw [none, List.append_nil]
    exact .inl ⟨rfl, fun last => readable.2.2.1.1 (Option.some.inj last)⟩
  · rw [comma]
    exact .inr rfl

/-- The parser takes a comma at the end with the six fields. -/
theorem tryParsePasvReply_iff (reply : Reply) (ip : Bytes) (port : UInt16) :
    tryParsePasvReply reply = some (ip, port) ↔ ∃ (hostPort : HostPort) (tail : Bytes),
      Text.Between 40 41 reply.statusString (hostPort.toText ++ tail) ∧ hostPort.Readable ∧
        (tail = [] ∨ tail = [44]) ∧ hostPort.ip = ip ∧ hostPort.port = port := by
  rw [tryParsePasvReply_eq, Option.bind_eq_some_iff]
  constructor
  · intro ⟨body, found, decoded⟩
    obtain ⟨hostPort, split, high, low, sameIp, samePort⟩ := (decode_iff body ip port).mp decoded
    rw [Utils.splitString_eq, Text.fields_eq_iff 44 body (fields_given hostPort)] at split
    obtain ⟨plain, ⟨same, _⟩ | same⟩ := split
    · refine ⟨hostPort, [], ?_, ⟨plain, high, low⟩, .inl rfl, sameIp, samePort⟩
      rw [List.append_nil, HostPort.toText, ← same]
      exact (bracketed_iff _ _).mp found
    · refine ⟨hostPort, [44], ?_, ⟨plain, high, low⟩, .inr rfl, sameIp, samePort⟩
      rw [HostPort.toText, ← same]
      exact (bracketed_iff _ _).mp found
  · intro ⟨hostPort, tail, between, ⟨plain, high, low⟩, ends, sameIp, samePort⟩
    refine ⟨_, (bracketed_iff _ _).mpr between, (decode_iff _ ip port).mpr ?_⟩
    refine ⟨hostPort, ?_, high, low, sameIp, samePort⟩
    rw [Utils.splitString_eq]
    exact fields_toText ⟨plain, high, low⟩ ends

end Parsing

section Target
variable {spelled : Bytes → Prop} {make : Bytes → Except ErrorCode Address} {statusString : Bytes}
  {endpoint : Endpoint}

/-- Four texts with dots in between are those without dots that make the same text. -/
private theorem dotted_unique {h1 h2 h3 h4 k1 k2 k3 k4 : Bytes} (plain1 : 46 ∉ k1) (plain2 : 46 ∉ k2)
    (plain3 : 46 ∉ k3) (plain4 : 46 ∉ k4) (same : dotted h1 h2 h3 h4 = dotted k1 k2 k3 k4) :
    h1 = k1 ∧ h2 = k2 ∧ h3 = k3 ∧ h4 = k4 := by
  have dot : text "." = [46] := rfl
  simp only [dotted, dot] at same
  have counts := congrArg (List.count 46) same
  simp only [List.count_append, List.count_eq_zero_of_not_mem plain1,
    List.count_eq_zero_of_not_mem plain2, List.count_eq_zero_of_not_mem plain3,
    List.count_eq_zero_of_not_mem plain4] at counts
  have none1 : 46 ∉ h1 := List.count_eq_zero.mp (by omega)
  have none2 : 46 ∉ h2 := List.count_eq_zero.mp (by omega)
  have none3 : 46 ∉ h3 := List.count_eq_zero.mp (by omega)
  simp only [List.append_assoc, List.singleton_append] at same
  obtain ⟨first, same⟩ := Text.cut_unique none1 plain1 same
  obtain ⟨second, same⟩ := Text.cut_unique none2 plain2 same
  obtain ⟨third, fourth⟩ := Text.cut_unique none3 plain3 same
  exact ⟨first, second, third, fourth⟩

private theorem hostPort_unique {hostPort other : HostPort} (same : hostPort.fields = other.fields) :
    hostPort = other := by
  cases hostPort
  cases other
  simpa [HostPort.fields] using same

theorem octets_readable {hostPort : HostPort} (octets : ∀ field ∈ hostPort.fields, Octet field) :
    hostPort.Readable := by
  have first := octets hostPort.p1 (by simp [HostPort.fields])
  have second := octets hostPort.p2 (by simp [HostPort.fields])
  exact ⟨fun field member => (octets field member).1.plain rfl,
    ⟨first.1, Nat.lt_of_lt_of_le first.2 (by decide)⟩,
    second.1, Nat.lt_of_lt_of_le second.2 (by decide)⟩

private theorem host_make (makes : MakesAddress spelled make) {hostPort : HostPort}
    (host : ∀ field ∈ hostPort.host, spelled field) :
    make hostPort.ip = .ok hostPort.address := by
  refine (makes.v4_iff _ _ _ _ _).mpr ⟨_, _, _, _, ?_, ?_, ?_, ?_, rfl, rfl, rfl, rfl, rfl⟩
  all_goals exact host _ (by simp [HostPort.host])

/-- Where the connection to the server goes. -/
def pasvTarget (make : Bytes → Except ErrorCode Address) (reply : Reply) : Option Endpoint := do
  let (ip, port) ← tryParsePasvReply reply
  match make ip with
  | .ok address => some ⟨address, port⟩
  | .error _ => none

private theorem pasvTarget_iff (reply : Reply) :
    pasvTarget make reply = some endpoint ↔ ∃ (hostPort : HostPort) (tail : Bytes),
      Text.Between 40 41 reply.statusString (hostPort.toText ++ tail) ∧ hostPort.Readable ∧
        (tail = [] ∨ tail = [44]) ∧ make hostPort.ip = .ok endpoint.address ∧
        hostPort.port = endpoint.port := by
  unfold pasvTarget
  constructor
  · intro found
    obtain ⟨⟨ip, port⟩, parsed, made⟩ := Option.bind_eq_some_iff.mp found
    obtain ⟨hostPort, tail, between, readable, ends, sameIp, samePort⟩ :=
      (tryParsePasvReply_iff reply ip port).mp parsed
    refine ⟨hostPort, tail, between, readable, ends, ?_⟩
    cases answer : make ip with
    | error ec => simp [answer] at made
    | ok address =>
      simp only [answer, Option.some.injEq] at made
      rw [sameIp, ← made]
      exact ⟨answer, samePort⟩
  · intro ⟨hostPort, tail, between, readable, ends, made, samePort⟩
    have parsed := (tryParsePasvReply_iff reply hostPort.ip hostPort.port).mpr
      ⟨hostPort, tail, between, readable, ends, rfl, rfl⟩
    simp only [parsed, bind, Option.bind_some, made, samePort]

private theorem advertises_target (makes : MakesAddress spelled make) (reply : Reply)
    (advertises : Advertises spelled reply.statusString endpoint) :
    pasvTarget make reply = some endpoint := by
  obtain ⟨hostPort, between, octets, host, same⟩ := advertises
  refine (pasvTarget_iff reply).mpr ⟨hostPort, [], ?_, octets_readable octets, .inl rfl, ?_⟩
  · rwa [List.append_nil]
  · rw [same]
    exact ⟨host_make makes host, rfl⟩

/-- A misread reply has a target and advertises none. -/
private theorem misread_target (makes : MakesAddress spelled make) (reply : Reply)
    (misread : Misread make reply.statusString) :
    (∃ endpoint, pasvTarget make reply = some endpoint) ∧
      ∀ endpoint, ¬ Advertises spelled reply.statusString endpoint := by
  obtain ⟨hostPort, tail, between, readable, ends, address, made, fault⟩ := misread
  refine ⟨⟨⟨address, hostPort.port⟩, (pasvTarget_iff reply).mpr
    ⟨hostPort, tail, between, readable, ends, made, rfl⟩⟩, ?_⟩
  intro endpoint ⟨other, between', octets, host, _⟩
  have body := between.unique between'
  have same : hostPort = other := by
    apply hostPort_unique
    have left := fields_toText readable ends
    have right := fields_toText (octets_readable octets) (.inl rfl)
    rw [← left, body, ← right, List.append_nil]
  subst same
  have none : tail = [] := by simpa using body
  have first := octets hostPort.p1 (by simp [HostPort.fields])
  have second := octets hostPort.p2 (by simp [HostPort.fields])
  rcases fault with comma | high | low | ⟨literal, v6⟩
  · simp [none] at comma
  · exact absurd first.2 (Nat.not_lt.mpr high)
  · exact absurd second.2 (Nat.not_lt.mpr low)
  · rw [host_make makes host, v6] at made
    cases made

/-- A target is advertised, or the reply was misread. -/
theorem target_cases (makes : MakesAddress spelled make) (reply : Reply)
    (target : pasvTarget make reply = some endpoint) :
    Advertises spelled reply.statusString endpoint ∨ Misread make reply.statusString := by
  obtain ⟨hostPort, tail, between, readable, ends, made, samePort⟩ := (pasvTarget_iff reply).mp target
  by_cases fault : tail = [44] ∨ 2 ^ 8 ≤ decimal hostPort.p1 ∨ 2 ^ 8 ≤ decimal hostPort.p2 ∨
      ∃ literal, endpoint.address = .v6 literal
  · exact .inr ⟨hostPort, tail, between, readable, ends, _, made, fault⟩
  · obtain ⟨address, port⟩ := endpoint
    simp only [not_or, Nat.not_le, not_exists] at fault
    obtain ⟨plain, high, low, v4⟩ := fault
    cases address with
    | v6 literal => exact absurd rfl (v4 literal)
    | v4 a b c d =>
      obtain ⟨h1, h2, h3, h4, spelled1, spelled2, spelled3, spelled4, same, values⟩ :=
        (makes.v4_iff _ _ _ _ _).mp made
      have octet1 := makes.bits h1 spelled1
      have octet2 := makes.bits h2 spelled2
      have octet3 := makes.bits h3 spelled3
      have octet4 := makes.bits h4 spelled4
      obtain ⟨first, second, third, fourth⟩ := dotted_unique (octet1.1.plain rfl)
        (octet2.1.plain rfl) (octet3.1.plain rfl) (octet4.1.plain rfl) same
      have none : tail = [] := ends.resolve_right plain
      refine .inl ⟨hostPort, by simpa [none] using between, ?_, ?_, ?_⟩
      · simp only [HostPort.fields, List.forall_mem_cons, List.not_mem_nil, false_implies,
          implies_true, and_true, first, second, third, fourth]
        exact ⟨octet1, octet2, octet3, octet4, ⟨readable.2.1.1, high⟩, readable.2.2.1, low⟩
      · simp only [HostPort.host, List.forall_mem_cons, List.not_mem_nil, false_implies,
          implies_true, and_true, first, second, third, fourth]
        exact ⟨spelled1, spelled2, spelled3, spelled4⟩
      · obtain ⟨sameA, sameB, sameC, sameD⟩ := values
        rw [HostPort.address, first, second, third, fourth, sameA, sameB, sameC, sameD]
        exact congrArg _ samePort.symm

end Target

section Runs
variable {make : Bytes → Except ErrorCode Address} {fuel : Nat}

/-- The first reply, and where data connections were tried to be opened to. -/
structure Dials where
  answer : Option Reply
  dialled : List Endpoint
  deriving DecidableEq, Repr

def Dials.advance (dials : Dials) : BoundaryEvent → Dials
  | ⟨.notifyReply _ reply, _⟩ => { dials with answer := dials.answer.or (some reply) }
  | ⟨.connectData endpoint, _⟩ => { dials with dialled := dials.dialled ++ [endpoint] }
  | _ => dials

/-- Surroundings in which `make_address` is the given function. -/
def dialling (make : Bytes → Except ErrorCode Address) : Monitor boundary Dials where
  step dials event after := after = dials.advance event ∧
    match event with
    | ⟨.makeAddress ip, answer⟩ => answer = make ip
    | _ => True

private def Undialled (query : Boundary.Query) : Prop := ∀ endpoint, query ≠ .connectData endpoint

private theorem plumbing_undialled (query : Boundary.Query) (plumbing : Plumbing query) :
    Undialled query := by
  intro endpoint
  cases plumbing <;> exact nofun

private theorem undialled : Conversing Undialled where
  link layer query link endpoint := by
    cases link with
    | closing closing => cases closing <;> exact nofun
    | _ => exact nofun
  written _ _ _ := nofun
  missed _ _ _ := nofun
  requested _ _ _ := nofun
  heard _ _ _ := nofun

private theorem processMainCommandPassive_undialled (connection : DataConnection) (command : Bytes)
    (replies : Replies) :
    (processMainCommandPassive connection command replies).Asks Undialled :=
  undialled.openMain plumbing_undialled (fun _ => nofun) (fun _ => nofun) command
    (some ⟨connection, false⟩) replies

/-- Once there is an answer, nothing but another connection changes what is recorded. -/
private theorem undialled_step {dials after : Dials} {event : BoundaryEvent} (reply : Reply)
    (dialled : List Endpoint) (other : Undialled event.query) (same : dials = ⟨some reply, dialled⟩)
    (step : (dialling make).step dials event after) : after = ⟨some reply, dialled⟩ := by
  obtain ⟨query, answer⟩ := event
  rw [step.1, same]
  cases query with
  | connectData endpoint => exact absurd rfl (other endpoint)
  | _ => rfl

private theorem dialling_steady (layer : Layer) (dials : Dials) :
    Steady (dialling make) layer (· = dials) := by
  intro before event after link same step
  obtain ⟨query, answer⟩ := event
  rw [step.1, same]
  cases link with
  | closing closing => cases closing <;> rfl
  | _ => rfl

/-- The connection goes where the reply says. Without a target the call ends in an error. -/
def Dials.Follows (make : Bytes → Except ErrorCode Address) (dials : Dials) (raised : Prop) : Prop :=
  ∀ reply, dials.answer = some reply → reply.isNegative = false →
    (∀ endpoint, pasvTarget make reply = some endpoint → dials.dialled = [endpoint]) ∧
      (pasvTarget make reply = none → dials.dialled = [] ∧ raised)

private theorem unanswered (raised : Prop) : Dials.Follows make ⟨none, []⟩ raised := nofun

private theorem dialled_follows {reply : Reply} {endpoint : Endpoint} (raised : Prop)
    (target : pasvTarget make reply = some endpoint) :
    Dials.Follows make ⟨some reply, [endpoint]⟩ raised := by
  intro other answered _
  cases answered
  exact ⟨fun endpoint' target' => congrArg (fun e => [e]) (Option.some.inj (target.symm.trans target')),
    fun none => absurd (target.symm.trans none) nofun⟩

private theorem untargeted_follows {reply : Reply} {raised : Prop}
    (target : pasvTarget make reply = none) (fails : raised) :
    Dials.Follows make ⟨some reply, []⟩ raised := by
  intro other answered _
  cases answered
  exact ⟨fun endpoint' target' => absurd (target.symm.trans target') nofun, fun _ => ⟨rfl, fails⟩⟩

theorem target_of_parsed {reply : Reply} {ip : Bytes} {port : UInt16}
    (parsed : tryParsePasvReply reply = some (ip, port)) :
    pasvTarget make reply = (make ip).toOption.map fun address => ⟨address, port⟩ := by
  simp only [pasvTarget, parsed, bind, Option.bind_some]
  cases make ip with
  | error ec => rfl
  | ok address => rfl

/-- The connection, and what follows it. -/
private theorem connectText_follows {reply : Reply} {ip : Bytes} {port : UInt16}
    (parsed : tryParsePasvReply reply = some (ip, port)) (client : Client) (command : Bytes)
    (replies : Replies) :
    (do
      let (_, connection) ← Program.on DataConnection.new (DataConnection.connectText ip port)
      processMainCommandPassive connection command replies : Method Client _).wp (dialling make) fuel
        (fun _ _ after => after.Follows make False)
        (fun stop _ after => after.Follows make (∃ error, stop = .raised error))
        client ⟨some reply, []⟩ := by
  simp only [DataConnection.connectText, Program.wp_bind, Program.wp_on, wp_call, wp_valueOrThrow]
  intro made after step
  have target : pasvTarget make reply = (make ip).toOption.map fun address => ⟨address, port⟩ :=
    target_of_parsed parsed
  rw [← show made = make ip from step.2] at target
  rw [show after = ⟨some reply, []⟩ from step.1]
  cases made with
  | error ec => exact untargeted_follows target ⟨_, rfl⟩
  | ok address =>
    simp only [DataConnection.connect, Program.wp_bind, wp_call]
    intro outcome dials step
    have dialled : dials = ⟨some reply, [⟨address, port⟩]⟩ := step.1
    have kept {State Error Value : Type} {program : Program boundary State Error Value}
        (asks : program.Asks Undialled) :
        program.Keeps (dialling make) (fun _ => (· = ⟨some reply, [⟨address, port⟩]⟩))
          (fun _ => (· = ⟨some reply, [⟨address, port⟩]⟩)) :=
      asks.keeps fun _ _ _ other same step => undialled_step reply _ other same step
    have follows (raised : Prop) (dials : Dials) (same : dials = ⟨some reply, [⟨address, port⟩]⟩) :
        dials.Follows make raised := by
      rw [same]
      exact dialled_follows raised target
    cases outcome with
    | none =>
      apply (kept (processMainCommandPassive_undialled _ command _) fuel).apply dialled
      · exact fun _ _ after same => follows _ after same
      · exact fun _ _ after same => follows _ after same
    | some ec =>
      have closes : (DataConnection.onSocket (Socket.close .data)).Asks Undialled :=
        .zoom (Socket.close_plumbing.mono plumbing_undialled)
      simp only [Program.wp_bind, Program.wp_modify]
      apply (kept closes fuel).apply dialled
      · exact fun _ _ after same => follows _ after same
      · exact fun _ _ after same => follows _ after same

private theorem processPasvCommand_follows (client : Client) (command : Bytes) (replies : Replies) :
    (processPasvCommand command replies).wp (dialling make) fuel
      (fun _ _ after => after.Follows make False)
      (fun stop _ after => after.Follows make (∃ error, stop = .raised error)) client ⟨none, []⟩ := by
  rw [processPasvCommand, Program.wp_bind, processCommandInto_eq, Program.wp_bind, processCommand,
    Program.wp_bind]
  apply send_rule
  · intro requested after _ announced written
    have same : after = ⟨none, []⟩ := by
      rw [written.1, announced.1]
      rfl
    rw [same]
    apply recv_rule client _ (dialling_steady _ _) rfl
    · intro reply control middle answered _ unchanged step
      have heard : answered = ⟨some reply, []⟩ := by
        rw [step.1, unchanged]
        rfl
      rw [heard]
      simp only [Program.wp_pure]
      split
      · rename_i negative
        intro other same positive
        cases same
        rw [negative] at positive
        cases positive
      · cases parsed : tryParsePasvReply reply with
        | none =>
          have target : pasvTarget make reply = none := by simp [pasvTarget, parsed]
          exact untargeted_follows target ⟨_, rfl⟩
        | some remote => exact connectText_follows parsed _ command _
    · intro stop control after _ same
      rw [same]
      exact unanswered _
  · intro error requested after _ announced written
    have same : after = ⟨none, []⟩ := by
      rw [written.1, announced.1]
      rfl
    rw [same]
    exact unanswered _
  · intro ec requested after _ announced refused
    have same : after = ⟨none, []⟩ := by
      rw [refused.1, announced.1]
      rfl
    rw [same]
    exact unanswered _

/-- A reply is decoded exactly where the connection goes to what it advertises, and where a
reply that advertises nothing makes the call throw without a connection. -/
def DecodesExactly (spelled : Bytes → Prop) (statusString : Bytes) (dialled : List Endpoint)
    (raised : Prop) : Prop :=
  (∀ endpoint, Advertises spelled statusString endpoint → dialled = [endpoint]) ∧
    ((∀ endpoint, ¬ Advertises spelled statusString endpoint) → dialled = [] ∧ raised)

/-- Every accepted reply to PASV is decoded exactly, but for those that are misread. -/
theorem pasv_exact_iff {spelled : Bytes → Prop} {make : Bytes → Except ErrorCode Address}
    (makes : MakesAddress spelled make) (host : Host boundary World) (fuel : Nat) (client : Client)
    (world : World) (command : Bytes) (replies : Replies) (reply : Reply) (last : Dials)
    (drives : (dialling make).Drives ⟨none, []⟩
      ((processPasvCommand command replies).run host fuel client world).events last)
    (answered : last.answer = some reply) (accepted : reply.isNegative = false) :
    DecodesExactly spelled reply.statusString last.dialled
        (∃ error, ((processPasvCommand command replies).run host fuel client world).value.1 =
          .error (.raised error)) ↔
      ¬ Misread make reply.statusString := by
  have follows : (∀ endpoint, pasvTarget make reply = some endpoint → last.dialled = [endpoint]) ∧
      (pasvTarget make reply = none → last.dialled = [] ∧
        ∃ error, ((processPasvCommand command replies).run host fuel client world).value.1 =
          .error (.raised error)) := by
    rcases Program.wp_run (processPasvCommand_follows client command replies) host world drives with
      ⟨value, _, follows⟩ | ⟨stop, ended, follows⟩
    · obtain ⟨dialled, rejected⟩ := follows reply answered accepted
      exact ⟨dialled, fun none => (rejected none).2.elim⟩
    · obtain ⟨dialled, rejected⟩ := follows reply answered accepted
      refine ⟨dialled, fun none => ⟨(rejected none).1, ?_⟩⟩
      obtain ⟨error, same⟩ := (rejected none).2
      exact ⟨error, ended.trans (congrArg _ same)⟩
  constructor
  · intro exact misread
    obtain ⟨⟨endpoint, target⟩, unadvertised⟩ := misread_target makes reply misread
    have dialled := (follows.1 endpoint target).symm.trans (exact.2 unadvertised).1
    exact absurd dialled (List.cons_ne_nil _ _)
  · intro read
    constructor
    · intro endpoint advertises
      exact follows.1 endpoint (advertises_target makes reply advertises)
    · intro unadvertised
      cases target : pasvTarget make reply with
      | none => exact follows.2 target
      | some endpoint =>
        rcases target_cases makes reply target with advertises | misread
        · exact absurd advertises (unadvertised endpoint)
        · exact absurd misread read

end Runs

/-- A decimal number of 8 bits without leading zeros. -/
def Spelled (field : Bytes) : Prop := Octet field ∧ field = toDecimal (decimal field)

instance (field : Bytes) : Decidable (Spelled field) := inferInstanceAs (Decidable (_ ∧ _))

/-- Addresses of four such numbers, and no others. -/
def dottedOnly (ip : Bytes) : Except ErrorCode Address :=
  match ip.splitOn 46 with
  | [h1, h2, h3, h4] =>
    if Spelled h1 ∧ Spelled h2 ∧ Spelled h3 ∧ Spelled h4 then
      .ok (.v4 (octet h1) (octet h2) (octet h3) (octet h4))
    else .error (.other 22)
  | _ => .error (.other 22)

private theorem dotted_eq (h1 h2 h3 h4 : Bytes) :
    [46].intercalate [h1, h2, h3, h4] = dotted h1 h2 h3 h4 := by
  have dot : text "." = [46] := rfl
  simp [dotted, dot, List.intercalate]

theorem dottedOnly_makes : MakesAddress Spelled dottedOnly := by
  refine ⟨fun _ => And.left, fun number small => ?_, fun ip a b c d => ?_⟩
  · refine ⟨⟨isNumeral_toDecimal number, ?_⟩, ?_⟩
    · rwa [decimal_toDecimal]
    · rw [decimal_toDecimal]
  constructor
  · intro made
    unfold dottedOnly at made
    split at made
    · rename_i h1 h2 h3 h4 split
      split at made
      · rename_i octets
        have whole : [46].intercalate (ip.splitOn 46) = ip := List.intercalate_splitOn _
        rw [split, dotted_eq] at whole
        cases made
        exact ⟨h1, h2, h3, h4, octets.1, octets.2.1, octets.2.2.1, octets.2.2.2, whole.symm,
          rfl, rfl, rfl, rfl⟩
      · cases made
    · cases made
  · intro ⟨h1, h2, h3, h4, octet1, octet2, octet3, octet4, same, sameA, sameB, sameC, sameD⟩
    have split : ip.splitOn 46 = [h1, h2, h3, h4] := by
      rw [same, ← dotted_eq, List.splitOn_intercalate]
      · simp only [List.forall_mem_cons, List.not_mem_nil, false_implies, implies_true, and_true]
        exact ⟨octet1.1.1.plain rfl, octet2.1.1.plain rfl, octet3.1.1.plain rfl,
          octet4.1.1.plain rfl⟩
      · exact List.cons_ne_nil _ _
    rw [dottedOnly, split]
    simp only [octet1, octet2, octet3, octet4, and_self, if_true]
    rw [sameA, sameB, sameC, sameD]

private def caller : Client :=
  { Client.new .passive .binary false false with control := ⟨[], ⟨.plain, true⟩⟩ }

/-- A download for which the server opens `port` and answers PASV with the text. -/
private def answeredRun (statusString : Bytes) :=
  (processPasvCommand (text "RETR f") .empty).run Script.host 9 caller
    ⟨[statusString ++ crlf, text "150 o\r\n"], [], [], [], fun _ => none⟩

private theorem line_given (statusString : Bytes) : statusString ++ crlf ≠ [] := by simp [crlf]

private theorem line_fits {statusString : Bytes} (fits : statusString.length < 80) :
    (statusString ++ crlf).length ≤ 8192 := by
  rw [List.length_append, show crlf.length = 2 from rfl]
  omega

private theorem opened_given : text "150 o\r\n" ≠ [] := by decide

private theorem opened_fits : (text "150 o\r\n").length ≤ 8192 := by decide

private def dialEvents (statusString : Bytes) (fits : statusString.length < 80) (port : UInt16) :
    List BoundaryEvent :=
  [⟨.notifyRequest [] (text "PASV"), ()⟩, ⟨.write .control .plain (text "PASV\r\n"), none⟩,
    ⟨.readSome .control .plain 8192, .ok ⟨_, line_given statusString, line_fits fits⟩⟩,
    ⟨.notifyReply [] ⟨227, statusString⟩, ()⟩,
    ⟨.makeAddress (text "127.0.0.1"), .ok (.v4 127 0 0 1)⟩,
    ⟨.connectData ⟨.v4 127 0 0 1, port⟩, none⟩,
    ⟨.notifyRequest [] (text "RETR f"), ()⟩, ⟨.write .control .plain (text "RETR f\r\n"), none⟩,
    ⟨.readSome .control .plain 8192, .ok ⟨_, opened_given, opened_fits⟩⟩,
    ⟨.notifyReply [] ⟨150, text "150 o"⟩, ()⟩]

private theorem dialEvents_drive (statusString : Bytes) (fits : statusString.length < 80)
    (port : UInt16) :
    (dialling dottedOnly).Drives ⟨none, []⟩ (dialEvents statusString fits port)
      ⟨some ⟨227, statusString⟩, [⟨.v4 127 0 0 1, port⟩]⟩ := by
  have made : .ok (.v4 127 0 0 1) = dottedOnly (text "127.0.0.1") := by decide +kernel
  have still {dials after : Dials} {event : BoundaryEvent} {events : List BoundaryEvent}
      (admitted : match event with
        | ⟨.makeAddress ip, answer⟩ => answer = dottedOnly ip
        | _ => True)
      (rest : (dialling dottedOnly).Drives (dials.advance event) events after) :
      (dialling dottedOnly).Drives dials (event :: events) after :=
    .cons ⟨rfl, admitted⟩ rest
  exact still trivial (still trivial (still trivial (still trivial (still made (still trivial
    (still trivial (still trivial (still trivial (still trivial .nil)))))))))

/-- The server is reached where its reply says. -/
theorem pasv_exact_iff_reached :
    DecodesExactly Spelled (text "227 Ok (127,0,0,1,7,229)") [⟨.v4 127 0 0 1, 2021⟩]
        (∃ error, (answeredRun (text "227 Ok (127,0,0,1,7,229)")).value.1 = .error (.raised error)) ↔
      ¬ Misread dottedOnly (text "227 Ok (127,0,0,1,7,229)") := by
  have drives := dialEvents_drive (text "227 Ok (127,0,0,1,7,229)") (by decide) 2021
  have events : (answeredRun (text "227 Ok (127,0,0,1,7,229)")).events =
      dialEvents (text "227 Ok (127,0,0,1,7,229)") (by decide) 2021 := by decide +kernel
  rw [← events] at drives
  exact pasv_exact_iff dottedOnly_makes Script.host 9 caller _ _ _ _ _ drives rfl rfl

/-- A field of more than 8 bits wraps around to another port. -/
theorem pasv_port_wraps :
    (dialling dottedOnly).Drives ⟨none, []⟩ (answeredRun (text "227 Ok (127,0,0,1,256,1)")).events
        ⟨some ⟨227, text "227 Ok (127,0,0,1,256,1)"⟩, [⟨.v4 127 0 0 1, 1⟩]⟩ ∧
      ∀ endpoint, ¬ Advertises Spelled (text "227 Ok (127,0,0,1,256,1)") endpoint := by
  have events : (answeredRun (text "227 Ok (127,0,0,1,256,1)")).events =
      dialEvents (text "227 Ok (127,0,0,1,256,1)") (by decide) 1 := by decide +kernel
  have misread : Misread dottedOnly (text "227 Ok (127,0,0,1,256,1)") := by
    refine ⟨⟨text "127", text "0", text "0", text "1", text "256", text "1"⟩, [], ?_, ?_, .inl rfl,
      .v4 127 0 0 1, by decide +kernel, .inr (.inl (by decide))⟩
    · exact ⟨text "227 Ok ", [], by decide, by decide, by decide⟩
    · exact ⟨by decide, by decide +kernel, by decide +kernel⟩
  rw [events]
  exact ⟨dialEvents_drive _ _ 1, (misread_target dottedOnly_makes ⟨227, _⟩ misread).2⟩

end LibFtp.Client
