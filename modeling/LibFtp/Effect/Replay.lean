import LibFtp.Effect.Footprint
import LibFtp.Effect.Session

/-! What was exchanged, played back. A program that meets the same answers again does what
it did, so a chain of operations that another program carries out is a session of its own. -/

namespace LibFtp.Effect

variable {interface : Interface} {State Error Value World Operation : Type}

section Host
variable [DecidableEq interface.Query] (otherwise : (query : interface.Query) → interface.Answer query)

/-- Surroundings that answer as recorded, while they are asked what was asked then. -/
def Host.replay : Host interface (List (Event interface)) where
  respond query
    | [] => (otherwise query, [])
    | event :: rest =>
      if same : event.query = query then (same ▸ event.answer, rest)
      else (otherwise query, event :: rest)

@[simp] theorem replay_respond (event : Event interface) (rest : List (Event interface)) :
    (Host.replay otherwise).respond event.query (event :: rest) = (event.answer, rest) :=
  dif_pos rfl

theorem Tree.Traces.run_replay {tree : Tree interface Value} {events : List (Event interface)}
    {value : Value} (traces : tree.Traces events value) (rest : List (Event interface)) :
    tree.run (.replay otherwise) (events ++ rest) = ⟨value, rest, events⟩ := by
  induction traces with
  | done => rfl
  | @ask _ _ query _ answer _ ih =>
    have answered := replay_respond otherwise ⟨query, answer⟩
    simp only [List.cons_append, Tree.run, answered, ih]

end Host

theorem Program.wp_traces {fuel : Nat} {state : State}
    (program : Program interface State Error Value) (past : List (Event interface)) :
    program.wp Monitor.history fuel
      (fun value last after => ∃ more, after = past ++ more ∧
        (program fuel state).Traces more (.ok value, last))
      (fun stop last after => ∃ more, after = past ++ more ∧
        (program fuel state).Traces more (.error stop, last)) state past := by
  refine (Tree.sat_traces (program fuel state) past).mono fun settled after traced => ?_
  obtain ⟨stop | value, last⟩ := settled
  · exact traced
  · exact traced

section Chain
variable (meaning : Operation → Program interface State Error Value)
  (permits : State → Operation → Prop) (fuel : Nat)

/-- Operations carried out one after the other, each where it is permitted, and what they
exchanged. Every one of them gave the object back. -/
inductive Played : State → List (Event interface) → State → Prop where
  | none : Played state [] state
  | next (permitted : permits state operation)
      (traces : (meaning operation fuel state).Traces events (outcome, middle))
      (ends : outcome ≠ .error .spinning) (rest : Played middle others last) :
      Played state (events ++ others) last

/-- The same where the last operation may have spun. -/
inductive PlayedOut (first : State) : List (Event interface) → Prop where
  | idle (played : Played meaning permits fuel first events last) : PlayedOut first events
  | stuck (played : Played meaning permits fuel first events middle)
      (permitted : permits middle operation)
      (traces : (meaning operation fuel middle).Traces others (.error .spinning, last)) :
      PlayedOut first (events ++ others)

variable {meaning permits fuel}

theorem Played.append (front : Played meaning permits fuel first events middle)
    (back : Played meaning permits fuel middle others last) :
    Played meaning permits fuel first (events ++ others) last := by
  induction front with
  | none => exact back
  | next permitted traces ends _ ih =>
    rw [List.append_assoc]
    exact .next permitted traces ends (ih back)

theorem Played.snoc (front : Played meaning permits fuel first events middle)
    (permitted : permits middle operation)
    (traces : (meaning operation fuel middle).Traces others (outcome, last))
    (ends : outcome ≠ .error .spinning) :
    Played meaning permits fuel first (events ++ others) last := by
  have single : Played meaning permits fuel middle (others ++ []) last :=
    .next permitted traces ends .none
  rw [List.append_nil] at single
  exact front.append single

end Chain

section Sessions
variable [DecidableEq interface.Query] (otherwise : (query : interface.Query) → interface.Answer query)
  {meaning : Operation → Program interface State Error Value} {permits : State → Operation → Prop}
  {fuel : Nat}

theorem perform_replay {operation : Operation} {state after : State}
    {events : List (Event interface)} {outcome : Except (Stop Error) Value}
    (traces : (meaning operation fuel state).Traces events (outcome, after))
    (rest : List (Event interface)) :
    perform meaning (.replay otherwise) fuel operation state (events ++ rest) =
      ⟨operation, state, outcome, events, after, rest⟩ := by
  simp only [perform, Program.run, traces.run_replay]

/-- A chain is the beginning of a session with the recorded answers. -/
theorem Played.in_session {first last : State} {events : List (Event interface)}
    (played : Played meaning permits fuel first events last) (more : List Operation)
    (rest : List (Event interface)) :
    ∃ operations records,
      session meaning (.replay otherwise) fuel (operations ++ more) first (events ++ rest) =
          records ++ session meaning (.replay otherwise) fuel more last rest ∧
        records.flatMap Record.events = events ∧
        ∀ record ∈ records, permits record.before record.operation := by
  induction played with
  | none => exact ⟨[], [], rfl, rfl, by simp⟩
  | @next state operation events outcome middle others last permitted traces ends _ ih =>
    obtain ⟨operations, records, same, told, allowed⟩ := ih
    refine ⟨operation :: operations, ⟨operation, state, outcome, events, middle, others ++ rest⟩ ::
      records, ?_, ?_, ?_⟩
    · rw [List.cons_append, session, List.append_assoc, perform_replay otherwise traces]
      dsimp only
      split
      · exact absurd rfl ends
      · rw [same]
        rfl
    · rw [List.flatMap_cons, told]
    · intro record member
      rcases List.mem_cons.mp member with here | later
      · rw [here]
        exact permitted
      · exact allowed record later

/-- So there are surroundings in which a session exchanges just that. -/
theorem PlayedOut.in_session {first : State} {events : List (Event interface)}
    (played : PlayedOut meaning permits fuel first events) :
    ∃ operations,
      (session meaning (.replay otherwise) fuel operations first events).flatMap Record.events =
          events ∧
        ∀ record ∈ session meaning (.replay otherwise) fuel operations first events,
          permits record.before record.operation := by
  cases played with
  | idle played =>
    obtain ⟨operations, records, same, told, allowed⟩ := played.in_session otherwise [] []
    rw [List.append_nil, List.append_nil, session, List.append_nil] at same
    exact ⟨operations, by rw [same, told], by rwa [same]⟩
  | @stuck front middle operation others last played permitted traces =>
    obtain ⟨operations, records, same, told, allowed⟩ := played.in_session otherwise [operation] others
    have performed := perform_replay otherwise traces []
    rw [List.append_nil] at performed
    rw [session_one, performed] at same
    refine ⟨operations ++ [operation], ?_, ?_⟩
    · rw [same, List.flatMap_append, told]
      simp
    · rw [same]
      intro record member
      rcases List.mem_append.mp member with earlier | here
      · exact allowed record earlier
      · rw [List.mem_singleton.mp here]
        exact permitted

end Sessions

end LibFtp.Effect
