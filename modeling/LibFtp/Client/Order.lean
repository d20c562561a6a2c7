import LibFtp.Client.Turns

/-! The order of the commands within one call. Which command comes next is decided by the
turns before it, whatever the server answers and wherever the call stops. -/

namespace LibFtp

open Effect

namespace Client

/-- The commands that depend on a reply, and those that they depend on. -/
inductive Verb where
  | user
  | pass
  | rnfr
  | rnto
  | pbsz
  | prot
  | type
  | eprt
  | port
  | abor
  deriving DecidableEq, Repr

def Verb.literal : Verb → String
  | .user => "USER"
  | .pass => "PASS"
  | .rnfr => "RNFR"
  | .rnto => "RNTO"
  | .pbsz => "PBSZ"
  | .prot => "PROT"
  | .type => "TYPE"
  | .eprt => "EPRT"
  | .port => "PORT"
  | .abor => "ABOR"

/-- The first four bytes tell these commands from all others. -/
def verbOf (line : Bytes) : Option Verb :=
  [.user, .pass, .rnfr, .rnto, .pbsz, .prot, .type, .eprt, .port, .abor].find? fun verb : Verb =>
    line.take 4 = text verb.literal

/-- The command and the reply that end the turns. -/
def lastExchange (front : List Turn) : Option (Bytes × Reply) :=
  match front.reverse with
  | .heard reply :: .said line :: _ => some (line, reply)
  | _ => none

/-- The turns end with a reply of that kind to that command. -/
def Answered (verb : Verb) (condition : Reply → Prop) (front : List Turn) : Prop :=
  ∃ line reply, lastExchange front = some (line, reply) ∧ verbOf line = some verb ∧ condition reply

/-- The turns end with an agreement on a data connection: a command of an active mode that was
not refused, or a passive one with a reply that could be parsed and connected to. -/
def Arranged (front : List Turn) : Prop :=
  match front.reverse with
  | .opened endpoint :: .heard reply :: .said line :: _ =>
    reply.isNegative = false ∧
      (line = makeCommand "EPSV" none ++ crlf ∧ tryParseEpsvReply reply = some endpoint.port ∨
        line = makeCommand "PASV" none ++ crlf ∧
          ∃ ip, tryParsePasvReply reply = some (ip, endpoint.port))
  | .heard reply :: .said line :: _ =>
    reply.isNegative = false ∧ (verbOf line = some .eprt ∨ verbOf line = some .port)
  | _ => False

/-- The main command was answered, and not negatively. -/
def Accepted (main : Bytes) (front : List Turn) : Prop :=
  ∃ before reply between, front = before ++ .said (main ++ crlf) :: .heard reply :: between ∧
    reply.isNegative = false

/-- PBSZ and PROT were sent just before, in that order. -/
def Shielded (front : List Turn) : Prop :=
  ∃ before pbsz first prot second,
    front = before ++ [.said pbsz, .heard first, .said prot, .heard second] ∧
      verbOf pbsz = some .pbsz ∧ verbOf prot = some .prot

/-- That command is sent next. -/
def Opens (verb : Verb) (next : Option Turn) : Prop :=
  ∃ line, next = some (.said line) ∧ verbOf line = some verb

/-- What comes next, if anything, is what the turns before it call for. `context` says that
the client has an SSL context. -/
structure Fits (operation : Operation) (context : Bool) (front : List Turn) (next : Option Turn) :
    Prop where
  refused : ∀ line, next = some (.said line) → ∀ reply, .heard reply ∈ front → reply.code < 400
  password : Answered .user (·.code = 331) front ↔ Opens .pass next
  target : Answered .rnfr (·.code = 350) front ↔ Opens .rnto next
  protection : Opens .prot next → Answered .pbsz (·.isNegative = false) front
  untyped : Opens .pbsz next ∨ Opens .prot next →
    ∀ line, .said line ∈ front → verbOf line ≠ some .type
  type : operation.LogsIn → context = true → Opens .type next → Shielded front
  main : ∀ main, operation.mainCommand = some main →
    (Arranged front ↔ next = some (.said (main ++ crlf)))
  abort : Opens .abor next → front.getLast? = some (.polled true) ∧
    ∃ main, operation.mainCommand = some main ∧ Accepted main front

section Verbs

theorem verbOf_eq {line : Bytes} (verb : Verb) (same : line.take 4 = text verb.literal) :
    verbOf line = some verb := by
  rw [verbOf]
  simp only [same]
  cases verb <;> decide

theorem verbOf_makeCommand (verb : Verb) (argument : Option Bytes) :
    verbOf (makeCommand verb.literal argument ++ crlf) = some verb := by
  have four : (text verb.literal).length = 4 := by cases verb <;> decide
  refine verbOf_eq verb ?_
  cases argument with
  | none => exact List.take_append_of_le_length four.ge |>.trans (List.take_of_length_le four.le)
  | some argument =>
    rw [makeCommand, List.append_assoc, List.append_assoc]
    exact List.take_append_of_le_length four.ge |>.trans (List.take_of_length_le four.le)

theorem verbOf_none {line : Bytes} (other : line.take 4 ∉ [Verb.user, .pass, .rnfr, .rnto, .pbsz,
    .prot, .type, .eprt, .port, .abor].map fun verb => text verb.literal) : verbOf line = none := by
  refine List.find?_eq_none.mpr fun verb member => ?_
  intro same
  exact other (List.mem_map.mpr ⟨verb, member, (of_decide_eq_true same).symm⟩)

/-- The main commands are not among them. -/
theorem verbOf_main {operation : Operation} (transfers : operation.mainCommand = some main) :
    verbOf (main ++ crlf) = none := by
  have apart : ∀ front ∈ ["RETR", "STOU", "STOR", "APPE", "NLST", "LIST"].map text,
      front.length = 4 ∧ front ∉ [Verb.user, .pass, .rnfr, .rnto, .pbsz, .prot, .type, .eprt, .port,
        .abor].map fun verb => text verb.literal := by
    decide
  obtain ⟨four, other⟩ := apart _ (mainCommand_take transfers)
  have long : 4 ≤ main.length := by
    rw [List.length_take] at four
    omega
  refine verbOf_none ?_
  rw [List.take_append_of_le_length long]
  exact other

end Verbs

section Fronts
variable {front : List Turn} {line : Bytes} {reply : Reply}

@[simp] private theorem lastExchange_heard :
    lastExchange (front ++ [.said line, .heard reply]) = some (line, reply) := by
  simp [lastExchange]

@[simp] theorem lastExchange_opened (endpoint : Endpoint) :
    lastExchange (front ++ [.opened endpoint]) = none := by
  simp [lastExchange]

@[simp] private theorem lastExchange_said : lastExchange (front ++ [.said line]) = none := by
  simp [lastExchange]

@[simp] private theorem lastExchange_polled (cancelled : Bool) :
    lastExchange (front ++ [.polled cancelled]) = none := by
  simp [lastExchange]

theorem answered_heard (verb : Verb) (condition : Reply → Prop) :
    Answered verb condition (front ++ [.said line, .heard reply]) ↔
      verbOf line = some verb ∧ condition reply := by
  simp [Answered]

theorem not_answered (ended : lastExchange front = none) (verb : Verb)
    (condition : Reply → Prop) : ¬ Answered verb condition front := by
  rintro ⟨_, _, same, _⟩
  rw [ended] at same
  cases same

/-- Nothing that the turns end with calls for a command. -/
structure Idle (front : List Turn) : Prop where
  user : ¬ Answered .user (·.code = 331) front
  rnfr : ¬ Answered .rnfr (·.code = 350) front
  arranged : ¬ Arranged front

/-- The turns do not end with a command. -/
def Replied (front : List Turn) : Prop := ∀ line, front.getLast? ≠ some (.said line)

theorem idle_start : Idle [] :=
  ⟨not_answered rfl _ _, not_answered rfl _ _, id⟩

theorem idle_said : Idle (front ++ [.said line]) := by
  refine ⟨not_answered lastExchange_said _ _, not_answered lastExchange_said _ _, ?_⟩
  simp [Arranged]

theorem idle_polled (cancelled : Bool) : Idle (front ++ [.polled cancelled]) := by
  refine ⟨not_answered (lastExchange_polled _) _ _, not_answered (lastExchange_polled _) _ _, ?_⟩
  simp [Arranged]

/-- A reply that was not asked for by the turn before. -/
theorem idle_heard (replied : Replied front) : Idle (front ++ [.heard reply]) := by
  have reversed : ∀ line rest, front.reverse ≠ .said line :: rest := by
    intro line rest same
    refine replied line ?_
    rw [List.getLast?_eq_head?_reverse, same]
    rfl
  have ended : lastExchange (front ++ [.heard reply]) = none := by
    rw [lastExchange, List.reverse_append]
    split
    · rename_i same
      exact absurd (List.cons.inj same).2 (reversed _ _)
    · rfl
  refine ⟨not_answered ended _ _, not_answered ended _ _, ?_⟩
  rw [Arranged, List.reverse_append]
  split
  · rename_i same
    cases (List.cons.inj same).1
  · rename_i same
    exact absurd (List.cons.inj same).2 (reversed _ _)
  · exact id

theorem idle_exchange (user : verbOf line = some .user → reply.code ≠ 331)
    (rnfr : verbOf line = some .rnfr → reply.code ≠ 350)
    (active : verbOf line = some .eprt ∨ verbOf line = some .port → reply.isNegative = true) :
    Idle (front ++ [.said line, .heard reply]) := by
  refine ⟨?_, ?_, ?_⟩
  · rw [answered_heard]
    exact fun both => user both.1 both.2
  · rw [answered_heard]
    exact fun both => rnfr both.1 both.2
  · simp only [Arranged, List.reverse_append, List.reverse_cons, List.reverse_nil, List.nil_append,
      List.cons_append]
    intro ⟨positive, either⟩
    rw [active either] at positive
    cases positive

theorem idle_other
    (other : verbOf line ∉ [some Verb.user, some .rnfr, some .eprt, some .port]) :
    Idle (front ++ [.said line, .heard reply]) := by
  have never (verb : Verb) (member : some verb ∈ [some Verb.user, some .rnfr, some .eprt, some .port])
      (same : verbOf line = some verb) : False :=
    other (same ▸ member)
  refine idle_exchange (fun same => ?_) (fun same => ?_) fun either => ?_
  · exact (never _ (by decide) same).elim
  · exact (never _ (by decide) same).elim
  · exact (either.elim (never _ (by decide)) (never _ (by decide))).elim

/-- No reply so far was a refusal. -/
def Calm (front : List Turn) : Prop := ∀ reply, .heard reply ∈ front → reply.code < 400

/-- Only a reply can be a refusal. -/
theorem calm_snoc (calm : Calm front) (unheard : ∀ reply, turn ≠ .heard reply) :
    Calm (front ++ [turn]) := by
  intro reply member
  rcases List.mem_append.mp member with early | late
  · exact calm reply early
  · exact absurd (List.mem_singleton.mp late).symm (unheard reply)

theorem calm_exchange (line : Bytes) (calm : Calm front) (digits : reply.code.toNat < 1000)
    (positive : reply.isNegative = false) : Calm (front ++ [.said line, .heard reply]) := by
  intro other member
  rcases List.mem_append.mp member with early | late
  · exact calm other early
  · simp only [List.mem_cons, List.not_mem_nil, or_false] at late
    rcases late with never | same
    · cases never
    · cases same
      rw [← UInt16.not_le, ← Reply.isNegative_iff digits, positive]
      exact Bool.false_ne_true

/-- TYPE was not sent yet. -/
def Untyped (front : List Turn) : Prop :=
  ∀ line, .said line ∈ front → verbOf line ≠ some .type

theorem untyped_exchange (untyped : Untyped front) (other : verbOf line ≠ some .type) :
    Untyped (front ++ [.said line, .heard reply]) := by
  intro said member
  rcases List.mem_append.mp member with early | late
  · exact untyped said early
  · simp only [List.mem_cons, List.not_mem_nil, or_false] at late
    rcases late with same | never
    · cases same
      exact other
    · cases never

end Fronts

section Steps
variable {operation : Operation} {context : Bool} {front : List Turn} {line : Bytes}

private theorem opens_said (verb : Verb) :
    Opens verb (some (.said line)) ↔ verbOf line = some verb := by
  simp [Opens]

/-- Where nothing is called for, everything but a command may come next. -/
theorem fits_unsaid (idle : Idle front) (next : Option Turn)
    (unsaid : ∀ line, next ≠ some (.said line)) : Fits operation context front next := by
  have shut (verb : Verb) : ¬ Opens verb next := fun ⟨line, same, _⟩ => unsaid line same
  exact {
    refused := fun line same => absurd same (unsaid line)
    password := iff_of_false idle.user (shut _)
    target := iff_of_false idle.rnfr (shut _)
    protection := fun opens => absurd opens (shut _)
    untyped := fun opens => (opens.elim (shut _) (shut _)).elim
    type := fun _ _ opens => absurd opens (shut _)
    main := fun main _ => iff_of_false idle.arranged (unsaid _)
    abort := fun opens => absurd opens (shut _) }

/-- A command that depends on no reply; TYPE is one outside of a login. -/
theorem fits_plain (idle : Idle front) (calm : Calm front)
    (plain : verbOf line ∈ [none, some .user, some .rnfr, some .eprt, some .port, some .type])
    (type : verbOf line = some .type → ¬ operation.LogsIn)
    (apart : ∀ main, operation.mainCommand = some main → line ≠ main ++ crlf) :
    Fits operation context front (some (.said line)) := by
  have shut (verb : Verb) (other : some verb ∉
      [none, some Verb.user, some .rnfr, some .eprt, some .port, some .type]) :
      ¬ Opens verb (some (.said line)) := by
    rw [opens_said]
    exact fun same => other (same ▸ plain)
  exact {
    refused := fun _ _ => calm
    password := iff_of_false idle.user (shut _ (by decide))
    target := iff_of_false idle.rnfr (shut _ (by decide))
    protection := fun opens => absurd opens (shut _ (by decide))
    untyped := fun opens => (opens.elim (shut _ (by decide)) (shut _ (by decide))).elim
    type := fun logsIn _ opens => absurd logsIn (type ((opens_said _).mp opens))
    main := fun main transfers => iff_of_false idle.arranged fun same =>
      apart main transfers (Turn.said.inj (Option.some.inj same))
    abort := fun opens => absurd opens (shut _ (by decide)) }

theorem verb_apart {operation : Operation} (verb : verbOf line = some other)
    (main : Bytes) (transfers : operation.mainCommand = some main) : line ≠ main ++ crlf := by
  intro same
  rw [same, verbOf_main transfers] at verb
  cases verb

/-- A command that depends on the exchange before it. -/
theorem fits_answer {asked : Bytes} {reply : Reply} {first second : Verb}
    (calm : Calm (front ++ [.said asked, .heard reply]))
    (asks : verbOf asked = some first) (tells : verbOf line = some second)
    (password : first = .user ∧ reply.code = 331 ↔ second = .pass)
    (target : first = .rnfr ∧ reply.code = 350 ↔ second = .rnto)
    (protection : second = .prot → first = .pbsz ∧ reply.isNegative = false)
    (untyped : second = .pbsz ∨ second = .prot → Untyped (front ++ [.said asked, .heard reply]))
    (type : second = .type → operation.LogsIn → context = true →
      Shielded (front ++ [.said asked, .heard reply]))
    (inactive : first ≠ .eprt ∧ first ≠ .port) (other : second ≠ .abor) :
    Fits operation context (front ++ [.said asked, .heard reply]) (some (.said line)) := by
  have opens (verb : Verb) : Opens verb (some (.said line)) ↔ second = verb := by
    rw [opens_said, tells, Option.some.injEq]
  have answered (verb : Verb) (condition : Reply → Prop) :
      Answered verb condition (front ++ [.said asked, .heard reply]) ↔
        first = verb ∧ condition reply := by
    rw [answered_heard, asks, Option.some.injEq]
  have unarranged : ¬ Arranged (front ++ [.said asked, .heard reply]) := by
    simp only [Arranged, List.reverse_append, List.reverse_cons, List.reverse_nil,
      List.nil_append, List.cons_append, asks, Option.some.injEq]
    exact fun both => both.2.elim inactive.1 inactive.2
  exact {
    refused := fun _ _ => calm
    password := by rw [answered, opens]; exact password
    target := by rw [answered, opens]; exact target
    protection := fun next => (answered _ _).mpr (protection ((opens _).mp next))
    untyped := fun next => untyped (next.imp (opens _).mp (opens _).mp)
    type := fun logsIn context next => type ((opens _).mp next) logsIn context
    main := fun main transfers => iff_of_false unarranged fun same =>
      verb_apart tells main transfers (Turn.said.inj (Option.some.inj same))
    abort := fun next => absurd ((opens _).mp next) other }

/-- The main command behind a negotiation. -/
theorem fits_main (arranged : Arranged front) (calm : Calm front)
    (user : ¬ Answered .user (·.code = 331) front) (rnfr : ¬ Answered .rnfr (·.code = 350) front)
    (transfers : operation.mainCommand = some main) :
    Fits operation context front (some (.said (main ++ crlf))) := by
  have shut (verb : Verb) : ¬ Opens verb (some (.said (main ++ crlf))) := by
    rw [opens_said, verbOf_main transfers]
    exact nofun
  exact {
    refused := fun _ _ => calm
    password := iff_of_false user (shut _)
    target := iff_of_false rnfr (shut _)
    protection := fun opens => absurd opens (shut _)
    untyped := fun opens => (opens.elim (shut _) (shut _)).elim
    type := fun _ _ opens => absurd opens (shut _)
    main := fun other same => by
      cases transfers.symm.trans same
      exact iff_of_true arranged rfl
    abort := fun opens => absurd opens (shut _) }

/-- ABOR behind a callback that says that the transfer is cancelled. -/
theorem fits_abor (calm : Calm front) (polled : front.getLast? = some (.polled true))
    (transfers : operation.mainCommand = some main) (accepted : Accepted main front)
    (is : verbOf line = some .abor) : Fits operation context front (some (.said line)) := by
  obtain ⟨before, same⟩ := List.getLast?_eq_some_iff.mp polled
  have idle : Idle front := same ▸ idle_polled true
  have shut (verb : Verb) (other : verb ≠ .abor) : ¬ Opens verb (some (.said line)) := by
    rw [opens_said, is, Option.some.injEq]
    exact other.symm
  exact {
    refused := fun _ _ => calm
    password := iff_of_false idle.user (shut _ (by decide))
    target := iff_of_false idle.rnfr (shut _ (by decide))
    protection := fun opens => absurd opens (shut _ (by decide))
    untyped := fun opens => (opens.elim (shut _ (by decide)) (shut _ (by decide))).elim
    type := fun _ _ opens => absurd opens (shut _ (by decide))
    main := fun main transfers => iff_of_false idle.arranged fun same =>
      verb_apart is main transfers (Turn.said.inj (Option.some.inj same))
    abort := fun _ => ⟨polled, main, transfers, accepted⟩ }

end Steps

/-- Every turn so far fits. -/
def Sound (operation : Operation) (context : Bool) (past : List Turn) : Prop :=
  ∀ front turn rest, past = front ++ turn :: rest → Fits operation context front (some turn)

/-- Every turn fits, and it fits that there are no more. -/
def Done (operation : Operation) (context : Bool) (past : List Turn) : Prop :=
  Sound operation context past ∧ Fits operation context past none

section Runs
variable {operation : Operation} {context : Bool} {past : List Turn}

theorem sound_nil : Sound operation context [] :=
  fun front turn rest split => absurd split.symm (by simp)

theorem sound_snoc (sound : Sound operation context past)
    (fits : Fits operation context past (some turn)) : Sound operation context (past ++ [turn]) := by
  intro front other rest split
  rcases List.eq_nil_or_concat rest with rfl | ⟨init, last, rfl⟩
  · obtain ⟨same, equal⟩ := List.append_inj' split rfl
    cases equal
    exact same ▸ fits
  · refine sound front other init ?_
    have whole : past ++ [turn] = (front ++ other :: init) ++ [last] := by simpa using split
    exact (List.append_inj' whole rfl).1

theorem sound_exchange {line : Bytes} {reply : Reply} (sound : Sound operation context past)
    (fits : Fits operation context past (some (.said line))) :
    Sound operation context (past ++ [.said line, .heard reply]) := by
  have said := sound_snoc sound fits
  have heard : Sound operation context (past ++ [.said line] ++ [.heard reply]) :=
    sound_snoc said (fits_unsaid idle_said _ nofun)
  rwa [List.append_assoc] at heard

theorem done_idle (sound : Sound operation context past) (idle : Idle past) :
    Done operation context past :=
  ⟨sound, fits_unsaid idle none nofun⟩

end Runs

end Client

end LibFtp
