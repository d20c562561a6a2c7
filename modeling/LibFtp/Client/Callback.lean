import LibFtp.Client.ControlOnly
import LibFtp.Client.Course
import LibFtp.Detail.LoopRules

/-! What the transfer callback hears. It is asked before anything moves, and told of every
block behind its move and in front of the next one, so that its numbers are at every moment
those of the bytes that went over the data connection. -/

namespace LibFtp

open Effect

/-- Where the callback of a call stands, with the bytes that it was told of. `owing` has a
block that was moved and not told yet; `ended` is behind the end, where the client asks once
more whether it has to abort. -/
inductive Tally where
  | silent
  | willing
  | unwilling
  | running (told : Nat)
  | owing (told size : Nat)
  | counted (told : Nat)
  | stopping (told : Nat)
  | ended (told : Nat)
  deriving DecidableEq, Repr

/-- The payload that an event moves over the data connection. -/
def movedBytes : BoundaryEvent → Nat
  | ⟨.readSome .data _ _, .ok chunk⟩ => chunk.data.length
  | ⟨.write .data _ data, none⟩ => data.length
  | _ => 0

/-- What the callback is told. -/
def toldBytes : BoundaryEvent → Nat
  | ⟨.transferNotify size, _⟩ => size
  | _ => 0

namespace Tally

def told : Tally → Nat
  | .silent | .willing | .unwilling => 0
  | .running told | .owing told _ | .counted told | .stopping told | .ended told => told

def owed : Tally → Nat
  | .owing _ size => size
  | _ => 0

/-- A block has been moved. Without a callback nobody takes notice. -/
def move (callback : Bool) (tally : Tally) (size : Nat) : Option Tally :=
  if callback then
    match tally with
    | .running told => if 0 < size then some (.owing told size) else none
    | _ => none
  else some tally

def ask (tally : Tally) (cancelled : Bool) : Option Tally :=
  match tally with
  | .silent => some (if cancelled then .unwilling else .willing)
  | .counted told => some (if cancelled then .stopping told else .running told)
  | .unwilling | .ended _ => some tally
  | _ => none

/-- What may happen next, and where it leads; `none` for a call out of order. -/
def next (callback : Bool) (tally : Tally) : BoundaryEvent → Option Tally
  | ⟨.readSome .data _ _, .ok chunk⟩ => tally.move callback chunk.data.length
  | ⟨.write .data _ data, none⟩ => tally.move callback data.length
  | ⟨.isCancelled, cancelled⟩ => if callback then tally.ask cancelled else none
  | ⟨.transferBegin, _⟩ => if tally = .willing then some (.running 0) else none
  | ⟨.transferNotify size, _⟩ =>
    match tally with
    | .owing told owed => if size = owed then some (.counted (told + size)) else none
    | _ => none
  | ⟨.transferEnd, _⟩ =>
    match tally with
    | .running told | .stopping told => some (.ended told)
    | _ => none
  | _ => some tally

def advance (callback : Bool) (tally : Option Tally) (event : BoundaryEvent) :
    Option Tally :=
  tally.bind (next callback · event)

/-- Where a call that returns leaves its callback. It hears nothing where there is no
transfer, or where it has cancelled it beforehand. -/
def Settled (tally : Tally) : Prop :=
  tally = .silent ∨ tally = .unwilling ∨ ∃ told, tally = .ended told

theorem Settled.owed_eq {tally : Tally} (settled : tally.Settled) : tally.owed = 0 := by
  rcases settled with rfl | rfl | ⟨told, rfl⟩ <;> rfl

/-- One event keeps the balance of what was told and what was moved. -/
private theorem next_balance {tally after : Tally} {event : BoundaryEvent}
    (step : tally.next true event = some after) :
    after.told = tally.told + toldBytes event ∧
      after.told + after.owed = tally.told + tally.owed + movedBytes event := by
  have moved {size : Nat} (step : tally.move true size = some after) :
      after.told = tally.told ∧ after.told + after.owed = tally.told + tally.owed + size := by
    cases tally with
    | running told =>
      simp only [move, if_true] at step
      split at step
      · cases step
        exact ⟨rfl, rfl⟩
      · cases step
    | _ => cases step
  have asked {cancelled : Bool} (step : tally.ask cancelled = some after) :
      after.told = tally.told ∧ after.owed = tally.owed := by
    cases tally <;> cases cancelled <;> cases step <;> exact ⟨rfl, rfl⟩
  have still (step : some tally = some after) :
      after.told = tally.told + 0 ∧ after.told + after.owed = tally.told + tally.owed + 0 := by
    cases step
    exact ⟨rfl, rfl⟩
  obtain ⟨query, answer⟩ := event
  cases query with
  | readSome channel layer maxSize =>
    cases channel with
    | control => cases answer <;> exact still step
    | data =>
      cases answer with
      | ok chunk => exact moved step
      | error ec => exact still step
  | write channel layer data =>
    cases channel with
    | control => cases answer <;> exact still step
    | data =>
      cases answer with
      | none => exact moved step
      | some ec => exact still step
  | isCancelled =>
    obtain ⟨told, owed⟩ := asked step
    exact ⟨told, by rw [told, owed]; rfl⟩
  | transferBegin =>
    simp only [next] at step
    split at step
    · rename_i willing
      cases step
      subst willing
      exact ⟨rfl, rfl⟩
    · cases step
  | transferNotify size =>
    cases tally with
    | owing told owed =>
      simp only [next] at step
      split at step
      · rename_i same
        cases step
        subst same
        exact ⟨rfl, rfl⟩
      · cases step
    | _ => cases step
  | transferEnd =>
    cases tally with
    | running told | stopping told =>
      cases step
      exact ⟨rfl, rfl⟩
    | _ => cases step
  | _ => exact still step

/-- A call out of order stays one. -/
private theorem foldl_none (callback : Bool) (events : List BoundaryEvent) :
    events.foldl (advance callback) none = none := by
  induction events with
  | nil => rfl
  | cons event events ih => exact ih

/-- What goes in order has gone in order up to any moment. -/
theorem leads_front {callback : Bool} {front back : List BoundaryEvent} {start last : Tally}
    (leads : (front ++ back).foldl (advance callback) (some start) = some last) :
    ∃ tally, front.foldl (advance callback) (some start) = some tally := by
  rw [List.foldl_append] at leads
  cases reached : front.foldl (advance callback) (some start) with
  | none =>
    rw [reached, foldl_none] at leads
    cases leads
  | some tally => exact ⟨tally, rfl⟩

/-- What was told and what is still owed is what was moved. -/
theorem balance (events : List BoundaryEvent) (start last : Tally)
    (leads : events.foldl (advance true) (some start) = some last) :
    last.told = start.told + (events.map toldBytes).sum ∧
      last.told + last.owed = start.told + start.owed + (events.map movedBytes).sum := by
  induction events generalizing start with
  | nil =>
    cases leads
    exact ⟨rfl, rfl⟩
  | cons event events ih =>
    have leads : events.foldl (advance true) (start.next true event) = some last := leads
    cases step : start.next true event with
    | none =>
      rw [step, foldl_none] at leads
      cases leads
    | some middle =>
      obtain ⟨told, moved⟩ := next_balance step
      obtain ⟨later, rest⟩ := ih middle (step ▸ leads)
      simp only [List.map_cons, List.sum_cons]
      omega

end Tally

abbrev tallies (callback : Bool) : Monitor boundary (Option Tally) :=
  Monitor.fold (Tally.advance callback)

variable {callback : Bool} {fuel : Nat}

private abbrev Untold (callback : Bool) : Boundary.Query → Prop :=
  Program.Ignored (Tally.advance callback)

private theorem untold_streaming (query : Boundary.Query) (streaming : Streaming query) :
    Untold callback query := by
  intro tally answer
  cases tally <;> cases streaming <;> rfl

private theorem untold_negotiating : Client.Negotiating (Untold callback) where
  link layer query link := by
    intro tally answer
    cases tally <;> cases link with
    | closing closing => cases closing <;> rfl
    | _ => rfl
  written _ _ tally _ := by cases tally <;> rfl
  missed _ _ tally _ := by cases tally <;> rfl
  requested _ _ tally _ := by cases tally <;> rfl
  heard _ _ tally _ := by cases tally <;> rfl
  plumbing query plumbing := by
    intro tally answer
    cases tally <;> cases plumbing <;> rfl
  dialled _ tally _ := by cases tally <;> rfl
  accepts tally _ := by cases tally <;> rfl
  localEndpoint tally _ := by cases tally <;> rfl
  remoteEndpoint tally _ := by cases tally <;> rfl

private theorem untold_controlling : Client.Controlling (Untold callback) where
  toConversing := untold_negotiating.toConversing
  switched _ tally _ := by cases tally <;> rfl
  greeted _ _ _ tally _ := by cases tally <;> rfl

namespace DataConnection

open Tally

/-- In front of a round. -/
private inductive Going : Bool → Option Tally → Prop where
  | alone : Going false (some .silent)
  | running (bytes : Nat) : Going true (some (.running bytes))

/-- Behind the loop, where the callback may have stopped it. -/
private inductive Done : Bool → Option Tally → Prop where
  | going (going : Going given tally) : Done given tally
  | stopping (bytes : Nat) : Done true (some (.stopping bytes))

/-- Behind the transfer. -/
private inductive Dismissed : Bool → Option Tally → Prop where
  | alone : Dismissed false (some .silent)
  | unwilling : Dismissed true (some .unwilling)
  | ended (bytes : Nat) : Dismissed true (some (.ended bytes))

private theorem Going.isSome {tally : Option Tally} (going : Going callback tally) :
    tally.isSome = true := by
  cases going <;> rfl

private theorem Done.isSome {tally : Option Tally} (done : Done callback tally) :
    tally.isSome = true := by
  cases done with
  | going going => exact going.isSome
  | stopping => rfl

private theorem moved_counted {tally : Option Tally} {size : Nat} (going : Going callback tally)
    (nonempty : 0 < size) :
    (tally.bind (·.move callback size)).isSome = true ∧
      Counted (tallies callback) callback size (Going callback) (Done callback)
        (tally.bind (·.move callback size)) := by
  cases going with
  | alone => exact ⟨rfl, .alone⟩
  | running told =>
    have owing : (some (Tally.running told)).bind (·.move true size) =
        some (.owing told size) := if_pos nonempty
    rw [owing]
    refine ⟨rfl, fun counted counting cancelled asked asking => ?_⟩
    have counting : counted = some (.counted (told + size)) := counting.trans (if_pos rfl)
    subst counting
    have asking : asked = some (if cancelled then .stopping (told + size)
      else .running (told + size)) := asking
    subst asking
    cases cancelled with
    | true => exact .stopping _
    | false => exact .running _

private theorem starts (callback : Bool) :
    Framed (tallies callback) callback (Dismissed callback) (Going callback) (some .silent) := by
  cases callback with
  | false => exact .alone
  | true =>
    intro cancelled asked asking
    have asking : asked = some (if cancelled then .unwilling else .willing) := asking
    subst asking
    cases cancelled with
    | true => exact .unwilling
    | false =>
      intro begun beginning
      have beginning : begun = some (.running 0) := beginning
      exact beginning ▸ .running 0

private theorem Done.ended {tally : Option Tally} (done : Done callback tally) :
    Ended (tallies callback) callback (Dismissed callback) tally := by
  cases done with
  | going going =>
    cases going with
    | alone => exact .alone
    | running told =>
      intro after step
      have step : after = some (.ended told) := step
      exact step ▸ .ended told
  | stopping told =>
    intro after step
    have step : after = some (.ended told) := step
    exact step ▸ .ended told

private theorem streaming_untold {Stream : Type} {program : Method Stream Value}
    (asks : program.Asks Streaming) (tally : Option Tally) (stream : Stream) :
    program.wp (tallies callback) fuel (fun _ _ last => last = tally) (fun _ _ last => last = tally)
      stream tally :=
  (asks.mono untold_streaming).ignored fuel stream tally rfl

private theorem send_tallies (stream : InputStream) (connection : DataConnection) :
    (send stream callback).wp (tallies callback) fuel (fun _ _ last => Dismissed callback last)
      (fun _ _ last => last.isSome = true) connection (some .silent) := by
  have sends : Sends (tallies callback) fuel callback connection
      (fun _ tally => Going callback tally) (fun block _ tally => 0 < block.length ∧ Going callback tally)
      (fun _ tally => Done callback tally) (fun tally => tally.isSome = true) := by
    constructor
    · exact fun _ _ going => going.isSome
    · intro stream tally going
      refine Program.wp_mono (streaming_untold (InputStream.read_streaming _) tally stream) ?_ ?_
      · intro block _ last same
        subst same
        split
        · exact .going going
        · rename_i nonempty
          exact ⟨List.length_pos_iff.mpr fun none => nonempty (List.isEmpty_iff.mpr none), going⟩
      · exact fun _ _ last same => same ▸ going.isSome
    · intro block _ tally ec after ⟨_, going⟩ _ step
      have step : after = tally := step.trans (by cases going <;> rfl)
      exact step ▸ going.isSome
    · intro block _ tally ec after ⟨_, going⟩ _ step
      have step : after = tally := step.trans (by cases going <;> rfl)
      exact step ▸ going.isSome
    · intro block _ tally after ⟨nonempty, going⟩ _ step
      have step : after = tally.bind (·.move callback block.length) := step
      exact step ▸ (moved_counted going nonempty).2
  exact Program.wp_mono (sends.send (fun _ => Dismissed callback) stream _ (starts callback)
    fun _ _ done => done.ended) (fun _ _ _ both => both.2) fun _ _ _ => id

private theorem recv_tallies (stream : OutputStream) (connection : DataConnection) :
    (recv stream callback).wp (tallies callback) fuel (fun _ _ last => Dismissed callback last)
      (fun _ _ last => last.isSome = true) connection (some .silent) := by
  have receives : Receives (tallies callback) fuel callback connection
      (fun _ tally => Going callback tally) (fun _ _ tally => Done callback tally)
      (fun tally => tally.isSome = true) := by
    constructor
    · exact fun _ _ going => going.isSome
    · intro _ tally ec after going _ step
      have step : after = tally := step.trans (by cases going <;> rfl)
      exact step ▸ .going going
    · intro _ tally ec after going _ step
      have step : after = tally := step.trans (by cases going <;> rfl)
      exact step ▸ .going going
    · intro stream tally chunk after going _ step
      have step : after = tally.bind (·.move callback chunk.data.length) := step
      obtain ⟨isSome, counted⟩ := moved_counted going (List.length_pos_iff.mpr chunk.nonempty)
      subst step
      refine Program.wp_mono (streaming_untold (OutputStream.write_streaming _) _ stream) ?_ ?_
      · exact fun _ _ last same => same ▸ counted
      · exact fun _ _ last same => same ▸ isSome
  refine Program.wp_mono (receives.recv (fun _ => Dismissed callback) stream _ (starts callback)
    (fun _ _ _ _ done => done.isSome) ?_) (fun _ _ _ both => both.2) fun _ _ _ => id
  intro stream _ tally _ done
  refine Program.wp_mono (streaming_untold OutputStream.flush_streaming tally stream) ?_ ?_
  · exact fun _ _ last same => same ▸ done.ended
  · exact fun _ _ last same => same ▸ done.isSome

end DataConnection

namespace Client

open DataConnection

private theorem disconnect_untold (connection : DataConnection) (graceful : Bool) :
    (Program.on connection (DataConnection.disconnect graceful) : Method Client _).Asks
      (Untold callback) :=
  .on ((disconnect_plumbing graceful).mono untold_negotiating.plumbing)

/-- The client asks the callback once more, and tells it nothing. -/
private theorem finishTransfer_dismissed (connection : DataConnection) (replies : Replies) :
    (finishTransfer connection callback replies).Keeps (tallies callback)
      (fun _ => Dismissed callback) (fun _ tally => tally.isSome = true) := by
  have isSome {tally : Option Tally} (dismissed : Dismissed callback tally) : tally.isSome = true := by
    cases dismissed <;> rfl
  have rest (cancelled : Bool) :
      (endTransfer connection replies cancelled).Keeps (tallies callback)
        (fun _ => Dismissed callback) (fun _ tally => tally.isSome = true) := by
    have asks : (endTransfer connection replies cancelled).Asks (Untold callback) := by
      refine .ite ?_ ?_
      · exact .bind (untold_negotiating.processAbort replies) fun _ =>
          .bind (disconnect_untold _ _) fun _ => .pure _
      · exact .bind (disconnect_untold _ _) fun _ =>
          .bind (untold_negotiating.recvInto _) fun _ => .pure _
    exact asks.ignored.mono fun _ _ => isSome
  rw [finishTransfer_eq]
  cases callback with
  | false => exact rest false
  | true =>
    refine .bind (.ask fun _ tally cancelled after dismissed step => ?_) rest
    have step : after = tally := by
      cases dismissed <;> exact step
    exact step ▸ dismissed

private theorem overData_tallies {command : Bytes} {Moved Value : Type}
    {moves : Client → Method DataConnection Moved} {refused : Replies → Value}
    {rest : Replies → Moved × DataConnection → Method Client Value}
    (data : ∀ client connection, (moves client).wp (tallies callback) fuel
      (fun _ _ last => Dismissed callback last) (fun _ _ last => last.isSome = true) connection
      (some .silent))
    (ends : ∀ replies moved, (rest replies moved).Keeps (tallies callback)
      (fun _ => Dismissed callback) (fun _ tally => tally.isSome = true)) (client : Client) :
    (overData command moves refused rest).wp (tallies callback) fuel
      (fun _ _ last => ∃ tally, last = some tally ∧ tally.Settled)
      (fun _ _ last => last.isSome = true) client (some .silent) := by
  have opens : (createDataConnection command Replies.empty).Keeps (tallies callback)
      (fun _ => (· = some .silent)) (fun _ => (· = some .silent)) :=
    (untold_negotiating.createDataConnection (fun tally _ => by cases tally <;> rfl) command
      Replies.empty).ignored
  simp only [overData, Program.wp_bind]
  refine Program.wp_mono (opens fuel client _ rfl) ?_ fun _ _ last same => same ▸ rfl
  intro ⟨connection, replies⟩ client last silent
  have silent : last = some .silent := silent
  subst last
  cases connection with
  | none => exact ⟨.silent, rfl, .inl rfl⟩
  | some connection =>
    simp only [Program.wp_bind, Program.wp_get, Program.wp_on]
    refine Program.wp_mono (data client connection) ?_ fun _ _ _ => id
    intro moved connection last dismissed
    refine Program.wp_mono (ends replies (moved, connection) fuel client last dismissed) ?_
      fun _ _ _ => id
    intro _ _ last dismissed
    cases dismissed with
    | alone => exact ⟨_, rfl, .inl rfl⟩
    | unwilling => exact ⟨_, rfl, .inr (.inl rfl)⟩
    | ended bytes => exact ⟨_, rfl, .inr (.inr ⟨bytes, rfl⟩)⟩

private theorem invoke_tallies (operation : Operation) (client : Client) :
    (invoke operation).wp (tallies operation.callback) fuel
      (fun _ _ last => ∃ tally, last = some tally ∧ tally.Settled)
      (fun _ _ last => last.isSome = true) client (some .silent) := by
  by_cases plain : operation.mainCommand = none
  · have still : (invoke operation).Keeps (tallies operation.callback)
        (fun _ => (· = some .silent)) (fun _ => (· = some .silent)) :=
      (untold_controlling.invoke operation plain).ignored
    refine Program.wp_mono (still fuel client _ rfl) ?_ fun _ _ last same => same ▸ rfl
    exact fun _ _ last same => ⟨.silent, same, .inl rfl⟩
  · cases operation with
    | downloadFile path callback =>
      simp only [invoke, processDownload_eq, Program.wp_bind, Program.wp_pure]
      exact overData_tallies (fun _ => recv_tallies _) (fun _ _ => finishTransfer_dismissed _ _) client
    | uploadFile path uploadUnique callback =>
      simp only [invoke, processUpload_eq, Program.wp_bind, Program.wp_pure]
      exact overData_tallies (fun _ => send_tallies _) (fun _ _ => finishTransfer_dismissed _ _) client
    | appendFile path callback =>
      simp only [invoke, processUpload_eq, Program.wp_bind, Program.wp_pure]
      exact overData_tallies (fun _ => send_tallies _) (fun _ _ => finishTransfer_dismissed _ _) client
    | getFileList path onlyNames =>
      have notifies (fileList : Bytes) : (notifyFileList fileList).Keeps (tallies false)
          (fun _ => Dismissed false) (fun _ tally => tally.isSome = true) := by
        refine .bind .get fun _ => .ask fun _ tally _ after dismissed step => ?_
        have step : after = tally := step.trans (by cases tally <;> rfl)
        exact step ▸ dismissed
      simp only [invoke, getFileList_eq, Program.wp_bind, Program.wp_pure]
      refine overData_tallies (fun _ => recv_tallies _) (fun replies moved => ?_) client
      exact .bind (notifies _) fun _ => .bind (finishTransfer_dismissed _ _) fun _ => .pure _
    | _ => exact absurd rfl plain

/-- In every call, the callback hears of the transfer in order: whether it wants it, that it
begins, of each block behind its move, and that it is over. At every moment it has heard of all
bytes that were moved, but for a block whose turn it is. A call that returns has told it of the
end, or of nothing: where there was no transfer, or where the callback did not want it. A call
without a callback asks it nothing. -/
theorem callback_in_step {World : Type} (host : Host boundary World) (fuel : Nat)
    (operation : Operation) (client : Client) (world : World) :
    let record := perform invoke host fuel operation client world
    (∃ tally, record.events.foldl (Tally.advance operation.callback) (some .silent) = some tally ∧
      (record.Normal → tally.Settled)) ∧
    (operation.callback = true →
      (∀ front back, record.events = front ++ back →
        ∃ tally, front.foldl (Tally.advance true) (some .silent) = some tally ∧
          (front.map toldBytes).sum + tally.owed = (front.map movedBytes).sum) ∧
      (record.Normal → (record.events.map toldBytes).sum = (record.events.map movedBytes).sum)) := by
  intro record
  have drives := Monitor.fold_drives (Tally.advance operation.callback) (some .silent) record.events
  have ends : ∃ tally, record.events.foldl (Tally.advance operation.callback) (some .silent) =
      some tally ∧ (record.Normal → tally.Settled) := by
    rcases Program.wp_run (invoke_tallies operation client) host world drives with
      ⟨_, _, tally, same, settled⟩ | ⟨_, stopped, kept⟩
    · exact ⟨tally, same, fun _ => settled⟩
    · obtain ⟨tally, same⟩ := Option.isSome_iff_exists.mp kept
      refine ⟨tally, same, fun normal => ?_⟩
      obtain ⟨_, returned⟩ := normal
      cases returned.symm.trans stopped
  refine ⟨ends, fun given => ?_⟩
  obtain ⟨tally, same, settled⟩ := ends
  rw [given] at same
  have fresh : Tally.silent.told = 0 ∧ Tally.silent.owed = 0 := ⟨rfl, rfl⟩
  constructor
  · intro front back split
    rw [split] at same
    obtain ⟨reached, leads⟩ := Tally.leads_front same
    obtain ⟨told, moved⟩ := Tally.balance front .silent reached leads
    exact ⟨reached, leads, by omega⟩
  · intro normal
    obtain ⟨told, moved⟩ := Tally.balance record.events .silent tally same
    have none := (settled normal).owed_eq
    omega

end Client

end LibFtp
