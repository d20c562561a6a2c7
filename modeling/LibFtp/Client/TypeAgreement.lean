import LibFtp.Client.Frame
import LibFtp.Detail.Script

/-! The transfer type on both sides. The client keeps the one it converts by, the server
the one of the last TYPE command that it has answered positively. -/

namespace LibFtp

open Effect

namespace Client

def typeOf (command : Bytes) : Option TransferType :=
  if command = makeTypeCommand .binary then some .binary
  else if command = makeTypeCommand .ascii then some .ascii
  else none

theorem typeOf_makeTypeCommand (type : TransferType) : typeOf (makeTypeCommand type) = some type := by
  cases type <;> decide

theorem typeOf_other {command : Bytes} (other : command.head? ≠ some 84) : typeOf command = none := by
  have differs (type : TransferType) : command ≠ makeTypeCommand type := by
    rintro rfl
    cases type <;> exact other rfl
  rw [typeOf, if_neg (differs _), if_neg (differs _)]

/-- The type of the server, when a TYPE command has set it, and the TYPE command that
awaits its reply. -/
structure Agreement where
  agreed : Option TransferType
  asked : Option TransferType
  deriving DecidableEq, Repr

def Agreement.fresh : Agreement := ⟨none, none⟩

def Agreement.hear (agreement : Agreement) : BoundaryEvent → Agreement
  | ⟨.notifyRequest _ command, _⟩ => { agreement with asked := typeOf command }
  | ⟨.notifyReply _ reply, _⟩ =>
    match agreement.asked with
    | some type => if reply.isPositive then ⟨some type, none⟩ else ⟨agreement.agreed, none⟩
    | none => agreement
  | _ => agreement

/-- One command and its reply. -/
def Agreement.settle (agreement : Agreement) (command : Bytes) (reply : Reply) : Agreement :=
  match typeOf command with
  | some type => if reply.isPositive then ⟨some type, none⟩ else ⟨agreement.agreed, none⟩
  | none => ⟨agreement.agreed, none⟩

/-- What the two sides have come to. `binding` says that a login on the current connection
has returned positive replies only, and that there was no `logout` or `disconnect` since. -/
structure Terms where
  agreement : Agreement
  binding : Bool
  deriving DecidableEq, Repr

/-- All replies of the list are positive. -/
def Output.welcomes : Output → Bool
  | .replies all => all.isPositive
  | _ => false

/-- A new connection and REIN put the server back; nothing else but TYPE does. -/
def Terms.after (terms : Terms)
    (record : Record boundary Operation Client FtpException Output World) : Terms :=
  match record.operation, record.outcome with
  | .connect _ _ (some _) _, .ok output =>
    ⟨record.events.foldl Agreement.hear .fresh, output.welcomes⟩
  | .connect .., _ | .logout, _ => ⟨record.events.foldl Agreement.hear .fresh, false⟩
  | .login .., .ok output =>
    ⟨record.events.foldl Agreement.hear terms.agreement, terms.binding || output.welcomes⟩
  | .disconnect _, _ => ⟨record.events.foldl Agreement.hear terms.agreement, false⟩
  | _, _ => ⟨record.events.foldl Agreement.hear terms.agreement, terms.binding⟩

variable {fuel : Nat}

private abbrev agreements : Monitor boundary Agreement := Monitor.fold Agreement.hear

private theorem agreement_steady (agreement : Agreement) (layer : Layer) :
    Steady agreements layer (· = agreement) :=
  steady_fold agreement fun _ ⟨_, _⟩ link => by
    cases link with
    | closing closing => cases closing <;> rfl
    | _ => rfl

private theorem processCommand_agrees (command : Bytes) (client : Client) (agreement : Agreement)
    {post : Reply → Client → Agreement → Prop}
    (done : ∀ reply (control : ControlConnection),
      post reply { client with control } (agreement.settle command reply)) :
    (processCommand command).wp agreements fuel post (fun _ _ _ => True) client agreement := by
  rw [processCommand, Program.wp_bind]
  apply send_rule
  · intro requested after _ heard written
    have heard : requested = { agreement with asked := typeOf command } := heard
    have written : after = requested := written
    subst written heard
    apply recv_rule client _ (agreement_steady _ _) rfl
    · intro reply control middle after _ same step
      have step : after = middle.hear ⟨.notifyReply client.observers reply, ()⟩ := step
      have settled : after = agreement.settle command reply := by
        rw [step, same]
        unfold Agreement.settle Agreement.hear
        cases typeOf command <;> rfl
      rw [settled]
      exact done reply control
    · exact fun _ _ _ _ _ => trivial
  · exact fun _ _ _ _ _ _ => trivial
  · exact fun _ _ _ _ _ _ => trivial

private theorem processCommandInto_agrees (command : Bytes) (replies : Replies) (client : Client)
    (agreement : Agreement) {post : Reply × Replies → Client → Agreement → Prop}
    (done : ∀ reply (control : ControlConnection),
      post (reply, replies.append reply) { client with control } (agreement.settle command reply)) :
    (processCommandInto command replies).wp agreements fuel post (fun _ _ _ => True) client
      agreement := by
  rw [processCommandInto_eq, Program.wp_bind]
  exact processCommand_agrees command client agreement done

private theorem append_refused (replies : Replies) (reply : Reply) (negative : reply.isNegative = true) :
    (replies.append reply).isPositive = false := by
  have refused : reply.isPositive = false := by
    by_contra other
    have positive : reply.isPositive = true := by simpa using other
    rw [reply.not_negative positive] at negative
    cases negative
  simp [Replies.append, refused]

/-- How a login ends: with TYPE accepted, or with a reply in the list that is not positive. -/
private def LoggedIn (client : Client) (agreement : Agreement) (replies : Replies) (state : Client)
    (after : Agreement) : Prop :=
  state.transferType = client.transferType ∧
    (after = ⟨some client.transferType, none⟩ ∨
      after = ⟨agreement.agreed, none⟩ ∧ replies.isPositive = false)

private theorem settle_other (agreement : Agreement) (reply : Reply) {command : Bytes}
    (other : command.head? ≠ some 84) : agreement.settle command reply = ⟨agreement.agreed, none⟩ := by
  rw [Agreement.settle, typeOf_other other]

private theorem typeCommand_agrees (client : Client) (agreement : Agreement)
    (control : ControlConnection) (replies : Replies) :
    (processCommandInto (makeTypeCommand client.transferType) replies).wp agreements fuel
      (fun out => LoggedIn client agreement out.2) (fun _ _ _ => True)
      { client with control } ⟨agreement.agreed, none⟩ := by
  apply processCommandInto_agrees
  intro reply control
  refine ⟨rfl, ?_⟩
  rw [Agreement.settle, typeOf_makeTypeCommand]
  by_cases positive : reply.isPositive = true
  · exact .inl (if_pos positive)
  · exact .inr ⟨if_neg positive, by simp [Replies.append, positive]⟩

private theorem applySettings_agrees (reply : Reply) (replies : Replies) (client : Client)
    (agreement : Agreement) (control : ControlConnection)
    (listed : reply.isNegative = true → replies.isPositive = false) :
    (applySettings reply replies).wp agreements fuel (fun out => LoggedIn client agreement out.2)
      (fun _ _ _ => True) { client with control } ⟨agreement.agreed, none⟩ := by
  simp only [applySettings, Program.wp_bind, Program.wp_get, Program.wp_ite, Program.wp_pure]
  split
  · rename_i negative
    exact ⟨rfl, .inr ⟨rfl, listed negative⟩⟩
  · dsimp only
    split
    · apply processCommandInto_agrees
      intro reply control
      rw [settle_other _ _ (by decide)]
      split
      · rename_i negative
        exact ⟨rfl, .inr ⟨rfl, append_refused _ _ negative⟩⟩
      · apply processCommandInto_agrees
        intro reply control
        rw [settle_other _ _ (by decide)]
        split
        · rename_i negative
          exact ⟨rfl, .inr ⟨rfl, append_refused _ _ negative⟩⟩
        · exact typeCommand_agrees client agreement _ _
    · exact typeCommand_agrees client agreement _ _

private theorem processLogin_agrees (username password : Bytes) (replies : Replies) (client : Client)
    (agreement : Agreement) :
    (processLogin username password replies).wp agreements fuel
      (fun out => LoggedIn client agreement out.2) (fun _ _ _ => True) client agreement := by
  have rest (reply : Reply) (replies : Replies) (control : ControlConnection) :
      (applySettings reply (replies.append reply)).wp agreements fuel
        (fun out => LoggedIn client agreement out.2) (fun _ _ _ => True) { client with control }
        ⟨agreement.agreed, none⟩ :=
    applySettings_agrees reply _ client agreement control (append_refused _ _)
  rw [processLogin_eq, Program.wp_bind]
  apply processCommandInto_agrees
  intro reply control
  rw [settle_other _ _ (by simp [makeCommand, text])]
  rw [Program.wp_ite]
  split
  · rw [Program.wp_bind]
    apply processCommandInto_agrees
    intro reply control
    rw [settle_other _ _ (by simp [makeCommand, text])]
    exact rest reply _ control
  · exact rest reply _ control

/-- Both sides have the same type, and no TYPE command awaits its reply. -/
private def Agrees (client : Client) (agreement : Agreement) : Prop :=
  agreement = ⟨some client.transferType, none⟩

private theorem agrees_carries : Carries agreements Agrees (fun _ _ => True)
    (fun command => command.head? ≠ some 84) where
  stops _ _ _ := trivial
  quiet query answer client agreement after quiet agrees step := by
    have same : agreement.hear ⟨query, answer⟩ = agreement := by
      cases quiet <;> rfl
    rw [show after = agreement.hear ⟨query, answer⟩ from step, same]
    exact agrees
  exchange command other fuel client agreement agrees := by
    apply processCommand_agrees
    intro reply control
    rw [settle_other _ _ other, agrees]
    rfl
  receive fuel client agreement agrees := by
    apply recv_rule client agreement (agreement_steady _ _) rfl
    · intro reply control middle after _ same step
      rw [show after = middle.hear ⟨.notifyReply client.observers reply, ()⟩ from step, same, agrees]
      rfl
    · exact fun _ _ _ _ _ => trivial

private theorem setTransferType_agrees (type : TransferType) (client : Client)
    (agreement : Agreement) :
    (setTransferType type).wp agreements fuel
      (fun reply state after => if reply.isPositive then Agrees state after
        else state.transferType = client.transferType ∧ after = ⟨agreement.agreed, none⟩)
      (fun _ _ _ => True) client agreement := by
  rw [setTransferType, Program.wp_bind]
  apply processCommand_agrees
  intro reply control
  rw [Agreement.settle, typeOf_makeTypeCommand]
  simp only [Program.wp_bind, Program.wp_ite, Program.wp_modify, Program.wp_pure]
  by_cases positive : reply.isPositive = true
  · simp only [positive, if_true]
    rfl
  · simp only [positive, Bool.false_eq_true, if_false]
    exact ⟨trivial, trivial⟩

/-- Where `connect` returns before the login, the list holds a negative reply. -/
private theorem greet_refused (hostname : Bytes) (port : UInt16) (client : Client)
    (agreement : Agreement) :
    (greet hostname port).wp agreements fuel
      (fun outcome _ _ => ∀ replies, outcome = .error replies → replies.isPositive = false)
      (fun _ _ _ => True) client agreement := by
  have never (replies : Replies) : ∀ others : Replies,
      (.ok replies : Except Replies Replies) = .error others → others.isPositive = false :=
    fun _ same => nomatch same
  have refused (replies : Replies) (reply : Reply) (negative : reply.isNegative = true) :
      ∀ others : Replies, (.error (replies.append reply) : Except Replies Replies) = .error others →
        others.isPositive = false :=
    fun _ same => Except.error.inj same ▸ append_refused replies reply negative
  simp only [greet, secure, notifyConnected, processCommandInto, Program.wp_bind, Program.wp_get,
    wp_call]
  refine Program.wp_always _ (fun _ opened after => ?_) fun _ _ _ => trivial
  intro _ notified _
  apply recvInto_socket
  · intro reply control greeted _
    simp only [Program.wp_ite, Program.wp_pure]
    split
    · rename_i negative
      exact refused _ reply negative
    · simp only [Program.wp_bind, Program.wp_get, Program.wp_ite, Program.wp_pure]
      split
      · apply send_any
        · intro sent
          apply recvInto_socket
          · intro secure control' answered _
            split
            · rename_i negative
              exact refused _ secure negative
            · exact Program.wp_always _ (fun _ _ _ => Program.wp_always _ (fun _ _ _ => never _)
                fun _ _ _ => trivial) fun _ _ _ => trivial
          · exact fun _ _ _ => trivial
        · exact fun _ _ _ => trivial
      · exact never _
  · exact fun _ _ _ => trivial

private theorem connect_agrees (hostname : Bytes) (port : UInt16) (name password : Bytes)
    (client : Client) (agreement : Agreement) :
    (connect hostname port (some name) password).wp agreements fuel
      (fun replies state after => replies.isPositive = true → Agrees state after)
      (fun _ _ _ => True) client agreement := by
  rw [connect_eq, Program.wp_bind]
  refine Program.wp_mono (greet_refused hostname port client agreement) ?_ fun _ _ _ _ => trivial
  intro outcome state after refused
  cases outcome with
  | error replies =>
    intro positive
    rw [refused replies rfl] at positive
    cases positive
  | ok replies =>
    simp only [connectLogin, Program.wp_bind, Program.wp_pure]
    refine Program.wp_mono (processLogin_agrees name password replies state after) ?_
      fun _ _ _ _ => trivial
    intro ⟨_, listed⟩ last final ⟨same, ends⟩ positive
    rcases ends with accepted | ⟨_, negative⟩
    · rw [accepted, Agrees, same]
    · rw [show listed.isPositive = false from negative] at positive
      cases positive

private def AgainLogsIn : Operation → Prop
  | .login .. => True
  | _ => False

/-- The first byte of no other command is that of TYPE. -/
private theorem issues_other {operation : Operation} (stays : ¬ operation.Reconnects)
    (keeps : ¬ operation.Adjusts) (other : ¬ AgainLogsIn operation)
    (issued : operation.Issues command) : command.head? ≠ some 84 := by
  have negotiation (negotiates : Negotiates command) : command.head? ≠ some 84 := by
    cases negotiates with
    | epsv | pasv | abor => decide
    | eprt endpoint | port endpoint => simp [makeEprtCommand, makePortCommand, text]
  have verb (name : String) (argument : Option Bytes) (nonempty : text name ≠ [])
      (other : (text name).head? ≠ some 84) (same : command = makeCommand name argument) :
      command.head? ≠ some 84 := by
    subst same
    cases argument with
    | none => exact other
    | some argument =>
      rw [makeCommand, List.append_assoc, List.head?_append_of_ne_nil _ nonempty]
      exact other
  cases operation with
  | login => exact (other trivial).elim
  | connect | logout | disconnect => exact (stays trivial).elim
  | setTransferMode | setTransferType | addObserver | removeObserver | setRfc2428Support =>
    exact (keeps trivial).elim
  | downloadFile path callback =>
    rcases issued with negotiates | same
    · exact negotiation negotiates
    · exact verb _ _ (by decide) (by decide) same
  | uploadFile path uploadUnique callback =>
    rcases issued with negotiates | same
    · exact negotiation negotiates
    · cases uploadUnique <;> exact verb _ _ (by decide) (by decide) same
  | appendFile path callback =>
    rcases issued with negotiates | same
    · exact negotiation negotiates
    · exact verb _ _ (by decide) (by decide) same
  | getFileList path onlyNames =>
    rcases issued with negotiates | same
    · exact negotiation negotiates
    · cases onlyNames <;> exact verb _ _ (by decide) (by decide) same
  | rename fromPath toPath =>
    rcases issued with same | same <;> exact verb _ _ (by decide) (by decide) same
  | isConnected | getTransferMode | getTransferType | getRfc2428Support => exact issued.elim
  | _ => exact verb _ _ (by decide) (by decide) issued

private theorem other_agrees (operation : Operation) (stays : ¬ operation.Reconnects)
    (keeps : ¬ operation.Adjusts) (other : ¬ AgainLogsIn operation)
    (client : Client) (agreement : Agreement) (agrees : Agrees client agreement) :
    (invoke operation).wp agreements fuel (fun _ => Agrees) (fun _ _ _ => True) client agreement :=
  agrees_carries.invoke operation stays keeps (fun _ => issues_other stays keeps other) fuel client
    agreement agrees

/-- The two sides agree where a login binds them. -/
private def Bound (client : Client) (terms : Terms) : Prop :=
  terms.binding = true → Agrees client terms.agreement

private theorem perform_bound (host : Host boundary World) (operation : Operation) (client : Client)
    (world : World) (terms : Terms) (bound : Bound client terms)
    (normal : (perform invoke host fuel operation client world).Normal) :
    Bound (perform invoke host fuel operation client world).after
        (terms.after (perform invoke host fuel operation client world)) ∧
      ∀ type reply, operation = .setTransferType type →
        (perform invoke host fuel operation client world).outcome = .ok (.reply reply) →
        reply.isPositive = false →
        (perform invoke host fuel operation client world).after.transferType = client.transferType ∧
          (terms.after (perform invoke host fuel operation client world)).agreement.agreed =
            terms.agreement.agreed := by
  have ends (start : Agreement) {post : Output → Client → Agreement → Prop}
      (holds : (invoke operation).wp agreements fuel post (fun _ _ _ => True) client start) :
      ∃ output, (perform invoke host fuel operation client world).outcome = .ok output ∧
        post output (perform invoke host fuel operation client world).after
          ((perform invoke host fuel operation client world).events.foldl Agreement.hear start) :=
    perform_normal holds (Monitor.fold_drives _ _ _) normal
  have same : (perform invoke host fuel operation client world).operation = operation := rfl
  generalize perform invoke host fuel operation client world = record at ends same ⊢
  cases operation with
  | connect hostname port username password =>
    refine ⟨fun binds => ?_, fun _ _ never => nomatch never⟩
    cases username with
    | none => simp [Terms.after, same] at binds
    | some name =>
      have holds : (invoke (.connect hostname port (some name) password)).wp agreements fuel
          (fun output state after => output.welcomes = true → Agrees state after)
          (fun _ _ _ => True) client .fresh := by
        simp only [invoke, Program.wp_bind, Program.wp_pure]
        exact connect_agrees hostname port name password client .fresh
      obtain ⟨output, returned, agrees⟩ := ends .fresh holds
      simp only [Terms.after, same, returned] at binds ⊢
      exact agrees binds
  | login username password =>
    refine ⟨fun binds => ?_, fun _ _ never => nomatch never⟩
    have holds : (invoke (.login username password)).wp agreements fuel
        (fun output state after => state.transferType = client.transferType ∧
          (after = ⟨some client.transferType, none⟩ ∨
            after = ⟨terms.agreement.agreed, none⟩ ∧ output.welcomes = false))
        (fun _ _ _ => True) client terms.agreement := by
      simp only [invoke, login, Program.wp_bind, Program.wp_pure]
      exact processLogin_agrees username password .empty client terms.agreement
    obtain ⟨output, returned, type, accepted | ⟨refused, unwelcome⟩⟩ := ends terms.agreement holds
    · simp only [Terms.after, same, returned] at binds ⊢
      rw [accepted, Agrees, type]
    · simp only [Terms.after, same, returned, unwelcome, Bool.or_false] at binds ⊢
      rw [refused, bound binds, Agrees, type]
  | logout => exact ⟨fun binds => by simp [Terms.after, same] at binds, fun _ _ never => nomatch never⟩
  | disconnect graceful =>
    exact ⟨fun binds => by simp [Terms.after, same] at binds, fun _ _ never => nomatch never⟩
  | setTransferType type =>
    have holds : (invoke (.setTransferType type)).wp agreements fuel
        (fun output state after => ∃ reply, output = .reply reply ∧
          if reply.isPositive then Agrees state after
          else state.transferType = client.transferType ∧ after = ⟨terms.agreement.agreed, none⟩)
        (fun _ _ _ => True) client terms.agreement := by
      simp only [invoke, Program.wp_bind, Program.wp_pure]
      exact Program.wp_mono (setTransferType_agrees type client terms.agreement)
        (fun reply _ _ ends => ⟨reply, rfl, ends⟩) fun _ _ _ _ => trivial
    obtain ⟨_, returned, reply, rfl, agrees⟩ := ends terms.agreement holds
    refine ⟨fun binds => ?_, fun _ other _ again negative => ?_⟩
    · simp only [Terms.after, same] at binds ⊢
      by_cases positive : reply.isPositive = true
      · rw [if_pos positive] at agrees
        exact agrees
      · rw [if_neg positive] at agrees
        rw [agrees.2, bound binds, Agrees, agrees.1]
    · have equal : reply = other := Output.reply.inj (Except.ok.inj (returned.symm.trans again))
      rw [equal, negative, if_neg Bool.false_ne_true] at agrees
      have settled := congrArg Agreement.agreed agrees.2
      simp only [Terms.after, same]
      exact ⟨agrees.1, settled⟩
  | setTransferMode | addObserver | removeObserver | setRfc2428Support =>
    refine ⟨fun binds => ?_, fun _ _ never => nomatch never⟩
    simp only [Terms.after, same] at binds ⊢
    have agrees : Agrees client terms.agreement := bound binds
    have holds {Value : Type} (value : Value) (change : Client → Client)
        (type : (change client).transferType = client.transferType) :
        Program.wp agreements fuel (do Program.modify change; return value : Method Client Value)
          (fun _ => Agrees) (fun _ _ _ => True) client terms.agreement := by
      rw [Agrees, ← type] at agrees
      exact agrees
    obtain ⟨_, _, kept⟩ := ends terms.agreement (holds _ _ rfl)
    exact kept
  | _ =>
    refine ⟨fun binds => ?_, fun _ _ never => nomatch never⟩
    simp only [Terms.after, same] at binds ⊢
    obtain ⟨_, _, agrees⟩ := ends terms.agreement (other_agrees _ id id id client _
      (bound binds))
    exact agrees

/-- In every session of operations that return, the client converts by the type that the
server has last agreed to, as long as a login binds them; a TYPE command that is not
answered positively changes neither side. -/
theorem types_agree (mode : TransferMode) (type : TransferType) (sslContext support : Bool)
    (host : Host boundary World) (world : World) (operations : List Operation)
    (front rest : List (Record boundary Operation Client FtpException Output World))
    (record : Record boundary Operation Client FtpException Output World)
    (split : session invoke host fuel operations (Client.new mode type sslContext support) world =
      front ++ record :: rest)
    (normal : ∀ other ∈ front ++ [record], other.Normal) :
    let before := front.foldl Terms.after ⟨.fresh, false⟩
    let after := before.after record
    (after.binding = true → after.agreement.agreed = some record.after.transferType) ∧
      ∀ type reply, record.operation = .setTransferType type →
        record.outcome = .ok (.reply reply) → reply.isPositive = false →
        record.after.transferType = record.before.transferType ∧
          after.agreement.agreed = before.agreement.agreed := by
  intro before after
  have unbound : Bound (Client.new mode type sslContext support) ⟨.fresh, false⟩ :=
    fun never => nomatch never
  obtain ⟨bound, kept⟩ := session_fold Terms.after Bound Record.Normal
    (fun terms record => ∀ type reply, record.operation = .setTransferType type →
      record.outcome = .ok (.reply reply) → reply.isPositive = false →
      record.after.transferType = record.before.transferType ∧
        (terms.after record).agreement.agreed = terms.agreement.agreed)
    (fun operation client world terms bound normal =>
      perform_bound host operation client world terms bound normal)
    operations _ world _ unbound front record rest split normal
  exact ⟨fun binds => congrArg Agreement.agreed (bound binds), kept⟩

/-- A login with TYPE I, then TYPE A refused and accepted. -/
theorem types_agree_switched :
    let script := Script.ofReplies [text "220 r\r\n", text "230 u\r\n", text "200 i\r\n",
      text "504 n\r\n", text "200 a\r\n"]
    let records := session invoke Script.host 9
      [.connect (text "h") 21 (some (text "u")) [], .setTransferType .ascii, .setTransferType .ascii]
      (Client.new .passive .binary false true) script
    let terms := records.foldl Terms.after ⟨.fresh, false⟩
    terms.binding = true ∧ terms.agreement.agreed = records.getLast?.map (·.after.transferType) := by
  intro script records terms
  have bound : terms.binding = true := by decide +kernel
  have some' : records.getLast?.isSome = true := by decide +kernel
  obtain ⟨record, last⟩ := Option.isSome_iff_exists.mp some'
  have split : records.dropLast ++ [record] = records := List.dropLast_append_getLast? record last
  have normal : ∀ other ∈ records.dropLast ++ [record], other.Normal := by
    rw [split]
    exact all_normal (by decide +kernel)
  have agree := types_agree .passive .binary false true Script.host script
    [.connect (text "h") 21 (some (text "u")) [], .setTransferType .ascii, .setTransferType .ascii]
    records.dropLast [] record split.symm normal
  have ends : terms = (records.dropLast.foldl Terms.after ⟨.fresh, false⟩).after record := by
    have whole : terms = (records.dropLast ++ [record]).foldl Terms.after ⟨.fresh, false⟩ := by
      rw [split]
    rw [whole, List.foldl_append]
    rfl
  refine ⟨bound, ?_⟩
  rw [last, ends]
  rw [ends] at bound
  exact agree.1 bound

end Client

end LibFtp
