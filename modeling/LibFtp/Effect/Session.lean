import LibFtp.Effect.Program

/-! Operations carried out one after the other on one object against one host.
An operation that raises leaves the object in use; one that spins never gives
it back. -/

namespace LibFtp.Effect

variable {interface : Interface} {State Error Value World Ghost Operation : Type}

/-- What one operation of a session did. -/
structure Record (interface : Interface) (Operation State Error Value World : Type) where
  operation : Operation
  before : State
  outcome : Except (Stop Error) Value
  events : List (Event interface)
  after : State
  world : World

def perform (meaning : Operation → Program interface State Error Value)
    (host : Host interface World) (fuel : Nat) (operation : Operation) (state : State)
    (world : World) : Record interface Operation State Error Value World :=
  let run := (meaning operation).run host fuel state world
  ⟨operation, state, run.value.1, run.events, run.value.2, run.world⟩

def session (meaning : Operation → Program interface State Error Value)
    (host : Host interface World) (fuel : Nat) :
    List Operation → State → World → List (Record interface Operation State Error Value World)
  | [], _, _ => []
  | operation :: rest, state, world =>
    let record := perform meaning host fuel operation state world
    match record.outcome with
    | .error .spinning => [record]
    | _ => record :: session meaning host fuel rest record.after record.world

def Record.Normal (record : Record interface Operation State Error Value World) : Prop :=
  ∃ value, record.outcome = .ok value

variable {meaning : Operation → Program interface State Error Value}
  {host : Host interface World} {fuel : Nat}

variable (meaning host fuel) in
theorem session_cons (operation : Operation) (rest : List Operation) (state : State)
    (world : World) :
    ∃ tail, session meaning host fuel (operation :: rest) state world =
        perform meaning host fuel operation state world :: tail ∧
      (tail = [] ∨ tail = session meaning host fuel rest
        (perform meaning host fuel operation state world).after
        (perform meaning host fuel operation state world).world) := by
  simp only [session]
  split
  · exact ⟨[], rfl, .inl rfl⟩
  · exact ⟨_, rfl, .inr rfl⟩

theorem session_one (operation : Operation) (state : State) (world : World) :
    session meaning host fuel [operation] state world =
      [perform meaning host fuel operation state world] := by
  simp only [session]
  split <;> rfl

/-- What every operation preserves from a good state holds all along a session.
`admitted` restricts the steps of the session. -/
theorem session_invariant (invariant : State → Prop)
    (admitted holds : Record interface Operation State Error Value World → Prop)
    (step : ∀ operation state world, invariant state →
      admitted (perform meaning host fuel operation state world) →
      invariant (perform meaning host fuel operation state world).after ∧
        holds (perform meaning host fuel operation state world))
    (operations : List Operation) (state : State) (world : World) (initial : invariant state)
    (steps : ∀ record ∈ session meaning host fuel operations state world, admitted record) :
    ∀ record ∈ session meaning host fuel operations state world,
      invariant record.after ∧ holds record := by
  induction operations generalizing state world with
  | nil => simp [session]
  | cons operation rest ih =>
    obtain ⟨tail, same, ending⟩ := session_cons meaning host fuel operation rest state world
    rw [same] at steps ⊢
    have head := step operation state world initial (steps _ (List.mem_cons_self ..))
    intro record member
    rcases List.mem_cons.mp member with first | later
    · subst record
      exact head
    · rcases ending with none | rest
      · simp [none] at later
      · subst tail
        exact ih _ _ head.1 (fun other found => steps other (List.mem_cons_of_mem _ found))
          record later

/-- What holds of every operation holds of every record. -/
theorem session_all (holds : Record interface Operation State Error Value World → Prop)
    (each : ∀ operation state world, holds (perform meaning host fuel operation state world))
    (operations : List Operation) (state : State) (world : World) :
    ∀ record ∈ session meaning host fuel operations state world, holds record := by
  induction operations generalizing state world with
  | nil => simp [session]
  | cons operation rest ih =>
    obtain ⟨tail, same, ending⟩ := session_cons meaning host fuel operation rest state world
    rw [same]
    intro record member
    rcases List.mem_cons.mp member with first | later
    · subst record
      exact each operation state world
    · rcases ending with none | rest
      · simp [none] at later
      · subst tail
        exact ih _ _ record later

/-- The same with a ghost state that is carried from record to record. -/
theorem session_fold (advance : Ghost → Record interface Operation State Error Value World → Ghost)
    (invariant : State → Ghost → Prop)
    (admitted : Record interface Operation State Error Value World → Prop)
    (holds : Ghost → Record interface Operation State Error Value World → Prop)
    (step : ∀ operation state world ghost, invariant state ghost →
      admitted (perform meaning host fuel operation state world) →
      invariant (perform meaning host fuel operation state world).after
          (advance ghost (perform meaning host fuel operation state world)) ∧
        holds ghost (perform meaning host fuel operation state world))
    (operations : List Operation) (state : State) (world : World) (ghost : Ghost)
    (initial : invariant state ghost) :
    ∀ front record rest,
      session meaning host fuel operations state world = front ++ record :: rest →
      (∀ other ∈ front ++ [record], admitted other) →
      invariant record.after (advance (front.foldl advance ghost) record) ∧
        holds (front.foldl advance ghost) record := by
  induction operations generalizing state world ghost with
  | nil =>
    intro front record rest split
    have length := congrArg List.length split
    simp [session] at length
  | cons operation others ih =>
    intro front record rest split steps
    obtain ⟨tail, same, ending⟩ := session_cons meaning host fuel operation others state world
    rw [same] at split
    cases front with
    | nil =>
      obtain ⟨first, _⟩ := List.cons.inj split
      subst first
      exact step operation state world ghost initial (steps _ (List.mem_cons_self ..))
    | cons first front =>
      obtain ⟨head, later⟩ := List.cons.inj split
      subst head
      have kept := step operation state world ghost initial (steps _ (List.mem_cons_self ..))
      rcases ending with none | rest'
      · simp [none] at later
      · rw [rest'] at later
        exact ih _ _ _ kept.1 front record rest later fun other found =>
          steps other (List.mem_cons_of_mem _ found)

/-- An operation that returns ends as its program does. -/
theorem perform_normal {monitor : Monitor interface Ghost} {operation : Operation} {state : State}
    {world : World} {post : Value → State → Ghost → Prop} {fail : Stop Error → State → Ghost → Prop}
    (ends : (meaning operation).wp monitor fuel post fail state ghost)
    (drives : monitor.Drives ghost (perform meaning host fuel operation state world).events after)
    (normal : (perform meaning host fuel operation state world).Normal) :
    ∃ value, (perform meaning host fuel operation state world).outcome = .ok value ∧
      post value (perform meaning host fuel operation state world).after after := by
  obtain ⟨_, returned⟩ := normal
  rcases Program.wp_run ends host world drives with ended | ⟨stop, stopped, _⟩
  · exact ended
  · rw [perform, stopped] at returned
    cases returned

/-- What holds however the program ends holds behind the operation. -/
theorem perform_settled {monitor : Monitor interface Ghost} {operation : Operation} {state : State}
    {world : World} {holds : State → Ghost → Prop}
    (ends : (meaning operation).wp monitor fuel (fun _ => holds) (fun _ => holds) state ghost)
    (drives : monitor.Drives ghost (perform meaning host fuel operation state world).events after) :
    holds (perform meaning host fuel operation state world).after after := by
  rcases Program.wp_run ends host world drives with ⟨_, _, held⟩ | ⟨_, _, held⟩
  · exact held
  · exact held

/-- Read off the outcomes of a concrete session. -/
theorem all_normal {records : List (Record interface Operation State Error Value World)}
    (ok : (records.all fun record => record.outcome.isOk) = true) :
    ∀ record ∈ records, record.Normal := by
  intro record member
  have isOk := List.all_eq_true.mp ok record member
  unfold Record.Normal
  cases ended : record.outcome with
  | ok value => exact ⟨value, rfl⟩
  | error stop => simp [ended, Except.isOk, Except.toBool] at isOk

end LibFtp.Effect
