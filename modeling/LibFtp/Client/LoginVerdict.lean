import LibFtp.Client.Turns
import LibFtp.Client.Record
import LibFtp.Detail.Script

/-! What a positive login says about the replies that it is made of. -/

namespace LibFtp.Client

open Effect

/-- A line with the reply that came to it. -/
abbrev Exchanged := Bytes × Reply

def Exchanged.turns (exchange : Exchanged) : List Turn := [.said exchange.1, .heard exchange.2]

/-- The lines with the replies to them, out of the turns of a call. -/
def exchanges : List Turn → List Exchanged
  | .said line :: .heard reply :: rest => (line, reply) :: exchanges rest
  | _ :: rest => exchanges rest
  | [] => []

theorem exchanges_flatMap (told : List Exchanged) :
    exchanges (told.flatMap Exchanged.turns) = told := by
  induction told with
  | nil => rfl
  | cons exchange rest ih => exact congrArg (exchange :: ·) ih

namespace Login
variable (username password : Bytes)

def user : Bytes := makeCommand "USER" (some username) ++ crlf

def pass : Bytes := makeCommand "PASS" (some password) ++ crlf

/-- The last reply to USER or PASS, with the exchanges that come after it. -/
def lastAnswer : List Exchanged → Option (Reply × List Exchanged)
  | [] => none
  | (line, reply) :: rest =>
    match lastAnswer rest with
    | some found => some found
    | none => if line = user username ∨ line = pass password then some (reply, rest) else none

def Accepts (told : List Exchanged) (line : Bytes) : Prop :=
  ∃ reply, (line, reply) ∈ told ∧ reply.isPositive = true

/-- What a positive verdict is to say: the user is logged in, and the settings were taken. -/
def Granted (sslContext : Bool) (type : TransferType) (told : List Exchanged) : Prop :=
  (∃ reply rest, lastAnswer username password told = some (reply, rest) ∧ reply.IsCompletion) ∧
    Accepts told (makeTypeCommand type ++ crlf) ∧
    (sslContext = true → Accepts told (text "PBSZ 0" ++ crlf) ∧ Accepts told (text "PROT P" ++ crlf))

/-- The last reply to USER or PASS is no completion but below 400, and the settings are all
answered positively. -/
def Overlooked (told : List Exchanged) : Prop :=
  ∃ reply rest, lastAnswer username password told = some (reply, rest) ∧
    (reply.code < 200 ∨ 300 ≤ reply.code ∧ reply.code < 400) ∧
    ∀ later ∈ rest, later.2.isPositive = true

/-- The settings that a login makes, with their replies: the first refusal is the last. -/
inductive Settings (sslContext : Bool) (type : TransferType) : List Exchanged → Prop where
  | type (plain : sslContext = false) (reply : Reply) :
      Settings sslContext type [(makeTypeCommand type ++ crlf, reply)]
  | unbuffered (secure : sslContext = true) (refused : pbsz.isNegative = true) :
      Settings sslContext type [(text "PBSZ 0" ++ crlf, pbsz)]
  | unprotected (secure : sslContext = true) (pbsz : Reply) (refused : prot.isNegative = true) :
      Settings sslContext type [(text "PBSZ 0" ++ crlf, pbsz), (text "PROT P" ++ crlf, prot)]
  | typed (secure : sslContext = true) (pbsz prot reply : Reply) :
      Settings sslContext type [(text "PBSZ 0" ++ crlf, pbsz), (text "PROT P" ++ crlf, prot),
        (makeTypeCommand type ++ crlf, reply)]

/-- USER, and PASS where it is asked for, with the last of the replies. -/
inductive Entry : List Exchanged → Reply → Prop where
  | user (other : reply.code ≠ 331) : Entry [(user username, reply)] reply
  | pass (asked : first.code = 331) (reply : Reply) :
      Entry [(user username, first), (pass password, reply)] reply

/-- The exchanges of a login that returns. -/
def Dialogue (sslContext : Bool) (type : TransferType) (told : List Exchanged) : Prop :=
  ∃ entry reply rest, told = entry ++ rest ∧ Entry username password entry reply ∧
    (reply.isNegative = true ∧ rest = [] ∨
      reply.isNegative = false ∧ Settings sslContext type rest)

end Login

open Login

variable {fuel : Nat} {username password : Bytes}

/-- The exchanges so far are what was said and heard, and what the list of replies is made of. -/
private def Recorded (told : List Exchanged) (replies : Replies) (past : List Turn) : Prop :=
  past = told.flatMap Exchanged.turns ∧ replies = Replies.ofList (told.map Prod.snd)

private theorem exchange_recorded {told : List Exchanged} {replies : Replies} {past : List Turn}
    (recorded : Recorded told replies past) (command : Bytes) (client : Client)
    {post : Reply × Replies → Client → List Turn → Prop}
    (heard : ∀ reply replies (control : ControlConnection) after,
      Recorded (told ++ [(command ++ crlf, reply)]) replies after →
      post (reply, replies) { client with control } after) :
    (processCommandInto command replies).wp speech fuel post (fun _ _ _ => True) client past := by
  apply processCommandInto_turns client past command replies
  · exact fun _ _ => trivial
  · intro reply control _ _
    refine heard reply _ control _ ⟨?_, ?_⟩
    · rw [recorded.1, List.flatMap_append]
      rfl
    · rw [recorded.2, List.map_append, Replies.ofList, Replies.ofList, List.foldl_append]
      rfl
  · exact fun _ _ => trivial

private theorem settings_course {entry : List Exchanged} {reply : Reply} {replies : Replies}
    {past : List Turn} (entered : Entry username password entry reply)
    (recorded : Recorded entry replies past) (client : Client) :
    (do
      if reply.isNegative then return (reply, replies)
      let client ← Program.get
      if client.sslContext then
        let (reply, replies) ← processCommandInto (text "PBSZ 0") replies
        if reply.isNegative then return (reply, replies)
        let (reply, replies) ← processCommandInto (text "PROT P") replies
        if reply.isNegative then return (reply, replies)
        processCommandInto (makeTypeCommand client.transferType) replies
      else processCommandInto (makeTypeCommand client.transferType) replies :
      Method Client (Reply × Replies)).wp speech fuel
        (fun out _ past => ∃ told, Recorded told out.2 past ∧
          Dialogue username password client.sslContext client.transferType told)
        (fun _ _ _ => True) client past := by
  simp only [Program.wp_bind, Program.wp_get, Program.wp_ite, Program.wp_pure]
  split
  · rename_i negative
    exact ⟨entry, recorded, entry, reply, [], by simp, entered, .inl ⟨negative, rfl⟩⟩
  rename_i accepted
  have positive : reply.isNegative = false := by simpa using accepted
  have course {rest : List Exchanged} {replies : Replies} {past : List Turn}
      (recorded : Recorded (entry ++ rest) replies past)
      (settings : Settings client.sslContext client.transferType rest) :
      ∃ told, Recorded told replies past ∧
        Dialogue username password client.sslContext client.transferType told :=
    ⟨_, recorded, entry, reply, rest, rfl, entered, .inr ⟨positive, settings⟩⟩
  dsimp only
  split
  · rename_i secure
    apply exchange_recorded recorded
    intro pbsz replies control past recorded
    split
    · rename_i refused
      exact course recorded (.unbuffered secure refused)
    · apply exchange_recorded recorded
      intro prot replies control past recorded
      rw [List.append_assoc] at recorded
      split
      · rename_i refused
        exact course recorded (.unprotected secure pbsz refused)
      · apply exchange_recorded recorded
        intro reply replies control past recorded
        rw [List.append_assoc] at recorded
        exact course recorded (.typed secure pbsz prot reply)
  · rename_i plain
    apply exchange_recorded recorded
    intro reply replies control past recorded
    exact course recorded (.type (by simpa using plain) reply)

private theorem login_course (username password : Bytes) (client : Client) :
    (login username password).wp speech fuel
      (fun replies _ past => ∃ told, Recorded told replies past ∧
        Dialogue username password client.sslContext client.transferType told)
      (fun _ _ _ => True) client [] := by
  have start : Recorded [] Replies.empty [] := ⟨rfl, rfl⟩
  simp only [login, Program.wp_bind, Program.wp_pure]
  unfold processLogin
  rw [Program.wp_bind]
  apply exchange_recorded start
  intro first replies control past recorded
  rw [Program.wp_ite]
  split
  · rename_i asked
    rw [Program.wp_bind]
    apply exchange_recorded recorded
    intro reply replies control past recorded
    exact settings_course (.pass asked reply) recorded { client with control }
  · rename_i other
    exact settings_course (.user other) recorded { client with control }

section Verdict

private theorem lastAnswer_none {rest : List Exchanged}
    (others : ∀ later ∈ rest, later.1 ≠ user username ∧ later.1 ≠ pass password) :
    lastAnswer username password rest = none := by
  induction rest with
  | nil => rfl
  | cons exchange rest ih =>
    have first := others exchange List.mem_cons_self
    rw [lastAnswer, ih fun later member => others later (List.mem_cons_of_mem _ member)]
    exact if_neg (not_or.mpr first)

private theorem lastAnswer_cons {line : Bytes} {reply : Reply} {rest : List Exchanged}
    (asks : line = user username ∨ line = pass password)
    (others : lastAnswer username password rest = none) :
    lastAnswer username password ((line, reply) :: rest) = some (reply, rest) := by
  rw [lastAnswer, others]
  exact if_pos asks

private theorem apart {line : Bytes} (other : line.take 4 ≠ text "USER" ∧ line.take 4 ≠ text "PASS") :
    line ≠ user username ∧ line ≠ pass password := by
  have first : (user username).take 4 = text "USER" := rfl
  have second : (pass password).take 4 = text "PASS" := rfl
  constructor
  · intro same
    exact other.1 (same ▸ first)
  · intro same
    exact other.2 (same ▸ second)

private theorem settings_others {sslContext : Bool} {type : TransferType} {rest : List Exchanged}
    (settings : Settings sslContext type rest) :
    lastAnswer username password rest = none := by
  have pbsz : text "PBSZ 0" ++ crlf ≠ user username ∧ text "PBSZ 0" ++ crlf ≠ pass password :=
    apart (by decide)
  have prot : text "PROT P" ++ crlf ≠ user username ∧ text "PROT P" ++ crlf ≠ pass password :=
    apart (by decide)
  have types : makeTypeCommand type ++ crlf ≠ user username ∧
      makeTypeCommand type ++ crlf ≠ pass password := apart (by cases type <;> decide)
  apply lastAnswer_none
  cases settings with
  | type => simpa using types
  | unbuffered => simpa using pbsz
  | unprotected => simpa using ⟨pbsz, prot⟩
  | typed => simpa using ⟨pbsz, prot, types⟩

private theorem entry_lastAnswer {entry rest : List Exchanged} {reply : Reply}
    (entered : Entry username password entry reply)
    (others : lastAnswer username password rest = none) :
    lastAnswer username password (entry ++ rest) = some (reply, rest) := by
  cases entered with
  | user => exact lastAnswer_cons (.inl rfl) others
  | pass asked reply =>
    have last : lastAnswer username password ((pass password, reply) :: rest) = some (reply, rest) :=
      lastAnswer_cons (.inr rfl) others
    simp only [List.cons_append, List.nil_append]
    rw [lastAnswer, last]

private theorem below_positive {reply : Reply} (small : reply.code < 400) :
    reply.isPositive = true := by
  have specified : reply.code ≠ Reply.unspecified := by
    intro same
    rw [same] at small
    exact absurd small (by decide)
  simp [Reply.isPositive, specified, small]

private theorem entry_positive {entry : List Exchanged} {reply : Reply}
    (entered : Entry username password entry reply) (positive : reply.isPositive = true) :
    ∀ exchange ∈ entry, exchange.2.isPositive = true := by
  cases entered with
  | user => simpa using positive
  | pass asked => simpa [positive] using below_positive (by rw [asked]; decide)

private theorem settings_accepted {sslContext : Bool} {type : TransferType} {rest told : List Exchanged}
    (settings : Settings sslContext type rest) (within : ∀ exchange ∈ rest, exchange ∈ told)
    (positive : ∀ exchange ∈ told, exchange.2.isPositive = true) :
    Accepts told (makeTypeCommand type ++ crlf) ∧
      (sslContext = true → Accepts told (text "PBSZ 0" ++ crlf) ∧
        Accepts told (text "PROT P" ++ crlf)) := by
  have accepts {line : Bytes} {reply : Reply} (member : (line, reply) ∈ rest) : Accepts told line :=
    ⟨reply, within _ member, positive _ (within _ member)⟩
  have refused {line : Bytes} {reply : Reply} (member : (line, reply) ∈ rest)
      (negative : reply.isNegative = true) : False := by
    have contrary := reply.not_negative (positive _ (within _ member))
    exact absurd (negative.symm.trans contrary) nofun
  cases settings with
  | type plain =>
    exact ⟨accepts (.head _), fun secure => absurd (secure.symm.trans plain) nofun⟩
  | unbuffered _ negative => exact (refused (.head _) negative).elim
  | unprotected _ _ negative => exact (refused (.tail _ (.head _)) negative).elim
  | typed =>
    exact ⟨accepts (.tail _ (.tail _ (.head _))), fun _ =>
      ⟨accepts (.head _), accepts (.tail _ (.head _))⟩⟩

/-- The verdict on a course of exchanges. -/
private theorem verdict_iff {sslContext : Bool} {type : TransferType} {told : List Exchanged}
    (course : Dialogue username password sslContext type told) :
    ((Replies.ofList (told.map Prod.snd)).isPositive = true →
        Granted username password sslContext type told) ↔ ¬ Overlooked username password told := by
  obtain ⟨entry, reply, rest, rfl, entered, ends⟩ := course
  have others : lastAnswer username password rest = none := by
    rcases ends with ⟨_, none⟩ | ⟨_, settings⟩
    · rw [none]
      rfl
    · exact settings_others settings
  have answer := entry_lastAnswer entered others
  have verdict : (Replies.ofList ((entry ++ rest).map Prod.snd)).isPositive = true ↔
      ∀ exchange ∈ entry ++ rest, exchange.2.isPositive = true := by
    have given : (entry ++ rest).map Prod.snd ≠ [] := by
      cases entered <;> exact List.cons_ne_nil _ _
    rw [Replies.ofList_isPositive, and_iff_right given, List.forall_mem_map]
  have member : ∃ line, (line, reply) ∈ entry ++ rest := by
    cases entered with
    | user => exact ⟨_, List.mem_cons_self⟩
    | pass => exact ⟨_, List.mem_cons_of_mem _ List.mem_cons_self⟩
  rw [verdict]
  constructor
  · intro granted parts
    obtain ⟨last, after, same, code, positive⟩ := parts
    obtain ⟨rfl, rfl⟩ : reply = last ∧ rest = after := by
      have equal := Option.some.inj (answer.symm.trans same)
      exact ⟨congrArg Prod.fst equal, congrArg Prod.snd equal⟩
    have small : reply.code < 400 := by
      rcases code with low | ⟨_, high⟩
      · exact UInt16.lt_trans low (by decide)
      · exact high
    have all : ∀ exchange ∈ entry ++ rest, exchange.2.isPositive = true := by
      intro exchange member
      rcases List.mem_append.mp member with front | back
      · exact entry_positive entered (below_positive small) exchange front
      · exact positive exchange back
    obtain ⟨⟨last, after, same, completion⟩, _⟩ := granted all
    obtain rfl : reply = last := congrArg Prod.fst (Option.some.inj (answer.symm.trans same))
    rcases code with low | ⟨high, _⟩
    · exact absurd low (UInt16.not_lt.mpr completion.1)
    · exact absurd completion.2 (UInt16.not_lt.mpr high)
  · intro heeded positive
    obtain ⟨line, member⟩ := member
    have accepted := positive _ member
    have small : reply.code < 400 := by
      simp only [Reply.isPositive, Bool.and_eq_true, decide_eq_true_eq] at accepted
      exact accepted.2
    have later : ∀ exchange ∈ rest, exchange.2.isPositive = true := fun exchange member =>
      positive exchange (List.mem_append_right _ member)
    have settings : Settings sslContext type rest := by
      rcases ends with ⟨negative, _⟩ | ⟨_, settings⟩
      · cases negative.symm.trans (reply.not_negative accepted)
      · exact settings
    refine ⟨⟨reply, rest, answer, ?_⟩,
      settings_accepted settings (fun _ member => List.mem_append_right _ member) positive⟩
    by_contra incomplete
    refine heeded ⟨reply, rest, answer, ?_, later⟩
    by_cases low : reply.code < 200
    · exact .inl low
    · refine .inr ⟨UInt16.not_lt.mp fun below => incomplete ⟨UInt16.not_lt.mp low, below⟩, small⟩

/-- A positive login is one that the server has completed, unless the last reply to USER or
PASS is an intermediate or a preliminary one. -/
theorem login_verdict_iff (host : Host boundary World) (fuel : Nat) (client : Client)
    (world : World) (username password : Bytes) (replies : Replies)
    (returned : ((login username password).run host fuel client world).value.1 = .ok replies) :
    let told := exchanges (turns ((login username password).run host fuel client world).events)
    (replies.isPositive = true →
        Granted username password client.sslContext client.transferType told) ↔
      ¬ Overlooked username password told := by
  have drives := Monitor.collect_drives Turn.ofEvent []
    ((login username password).run host fuel client world).events
  rcases Program.wp_run (login_course username password client) host world drives with
    ⟨value, same, told, recorded, course⟩ | ⟨stop, same, _⟩
  · obtain rfl : replies = value := Except.ok.inj (returned.symm.trans same)
    have heard : exchanges (turns ((login username password).run host fuel client world).events) =
        told := by
      have spoken : turns ((login username password).run host fuel client world).events =
          told.flatMap Exchanged.turns := recorded.1
      rw [spoken, exchanges_flatMap]
    simp only [heard, recorded.2]
    exact verdict_iff course
  · exact absurd (returned.symm.trans same) nofun

private def visitor : Client :=
  { Client.new .passive .binary false false with control := ⟨[], ⟨.plain, true⟩⟩ }

/-- A login in which PASS is answered by the text. -/
private def visit (answer : Bytes) :=
  (login (text "u") (text "p")).run Script.host 9 visitor
    ⟨[text "331 a\r\n", answer ++ crlf, text "200 c\r\n"], [], [], [], fun _ => none⟩

theorem login_verdict_iff_granted :
    let told := exchanges (turns (visit (text "230 b")).events)
    ((Replies.ofList [⟨331, text "331 a"⟩, ⟨230, text "230 b"⟩, ⟨200, text "200 c"⟩]).isPositive =
        true → Granted (text "u") (text "p") false .binary told) ↔
      ¬ Overlooked (text "u") (text "p") told :=
  login_verdict_iff Script.host 9 visitor _ (text "u") (text "p") _ (by decide +kernel)

/-- An account is asked for, and the login passes for a positive one. -/
theorem login_without_account :
    (visit (text "332 b")).value.1 =
        .ok ⟨true, text "331 a\r\n332 b\r\n200 c",
          [⟨331, text "331 a"⟩, ⟨332, text "332 b"⟩, ⟨200, text "200 c"⟩]⟩ ∧
      ¬ Granted (text "u") (text "p") false .binary
        (exchanges (turns (visit (text "332 b")).events)) := by
  have told : exchanges (turns (visit (text "332 b")).events) =
      [(text "USER u\r\n", ⟨331, text "331 a"⟩), (text "PASS p\r\n", ⟨332, text "332 b"⟩),
        (text "TYPE I\r\n", ⟨200, text "200 c"⟩)] := by decide +kernel
  refine ⟨by decide +kernel, fun granted => ?_⟩
  obtain ⟨⟨reply, rest, answer, completion⟩, _⟩ := granted
  have last : lastAnswer (text "u") (text "p")
      (exchanges (turns (visit (text "332 b")).events)) =
        some (⟨332, text "332 b"⟩, [(text "TYPE I\r\n", ⟨200, text "200 c"⟩)]) := by
    rw [told]
    decide
  rw [last] at answer
  cases answer
  exact absurd completion (by decide)

end Verdict

end LibFtp.Client
