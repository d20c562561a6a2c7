import LibFtp.Effect.Session
import Mathlib.Data.List.Induction

/-! What holds at every moment of a run, and of a session taken as one run. A ghost
state is computed from the events so far, and each event is judged in the state that
it meets. -/

namespace LibFtp.Effect

variable {interface : Interface} {State Error Value World Ghost Operation : Type}

/-- Every event meets the condition in the ghost state that the events before it lead to. -/
def Always (advance : Ghost → Event interface → Ghost) (ok : Ghost → Event interface → Prop)
    (ghost : Ghost) (events : List (Event interface)) : Prop :=
  ∀ front event back, events = front ++ event :: back → ok (front.foldl advance ghost) event

variable {advance : Ghost → Event interface → Ghost} {ok : Ghost → Event interface → Prop}

theorem always_nil (ghost : Ghost) : Always advance ok ghost [] :=
  fun _ _ _ split => absurd split (by simp)

theorem always_snoc {events : List (Event interface)} {event : Event interface} {ghost : Ghost} :
    Always advance ok ghost (events ++ [event]) ↔
      Always advance ok ghost events ∧ ok (events.foldl advance ghost) event := by
  constructor
  · intro always
    refine ⟨fun front other back split => always front other (back ++ [event]) ?_,
      always events event [] rfl⟩
    rw [split, List.append_assoc, List.cons_append]
  · intro ⟨always, last⟩ front other back split
    rcases List.eq_nil_or_concat back with none | ⟨others, final, same⟩
    · subst none
      obtain ⟨rfl, same⟩ := List.append_inj' split rfl
      obtain rfl := List.singleton_inj.mp same
      exact last
    · rw [List.concat_eq_append] at same
      rw [same, ← List.cons_append, ← List.append_assoc] at split
      exact always front other others (List.append_inj' split rfl).1

theorem always_append {front back : List (Event interface)} {ghost : Ghost} :
    Always advance ok ghost (front ++ back) ↔
      Always advance ok ghost front ∧ Always advance ok (front.foldl advance ghost) back := by
  induction back using List.reverseRecOn with
  | nil => simp [always_nil]
  | append_singleton events event ih =>
    rw [← List.append_assoc, always_snoc, ih, always_snoc, List.foldl_append, and_assoc]

/-- There was an event of the first kind, and none of the second kind behind it. -/
def Since (opens closes : Event interface → Prop) (events : List (Event interface)) : Prop :=
  ∃ front event back, events = front ++ event :: back ∧ opens event ∧ ∀ other ∈ back, ¬ closes other

section Since
variable {opens closes : Event interface → Prop}

theorem not_since_nil : ¬ Since opens closes [] := fun ⟨_, _, _, same, _⟩ => absurd same (by simp)

theorem since_snoc {events : List (Event interface)} {event : Event interface} :
    Since opens closes (events ++ [event]) ↔
      opens event ∨ ¬ closes event ∧ Since opens closes events := by
  constructor
  · rintro ⟨front, first, back, same, opened, still⟩
    rcases List.eq_nil_or_concat back with none | ⟨others, last, concat⟩
    · subst none
      obtain rfl := List.singleton_inj.mp (List.append_inj' same rfl).2
      exact .inl opened
    · rw [concat, List.concat_eq_append, ← List.cons_append, ← List.append_assoc] at same
      obtain rfl := List.singleton_inj.mp (List.append_inj' same rfl).2
      refine .inr ⟨still event (by simp [concat]), front, first, others, ?_, opened, ?_⟩
      · exact (List.append_inj' same rfl).1
      · exact fun other member => still other (by simp [concat, member])
  · rintro (opened | ⟨open', front, first, back, rfl, opened, still⟩)
    · exact ⟨events, event, [], rfl, opened, fun _ member => absurd member List.not_mem_nil⟩
    · refine ⟨front, first, back ++ [event], by simp, opened, fun other member => ?_⟩
      rcases List.mem_append.mp member with before | last
      · exact still other before
      · exact List.mem_singleton.mp last ▸ open'

/-- A flag that is set and cleared by single events says so. -/
theorem foldl_since (flag : Ghost → Prop) (advance : Ghost → Event interface → Ghost) (ghost : Ghost)
    (start : ¬ flag ghost)
    (step : ∀ ghost event, flag (advance ghost event) ↔ opens event ∨ ¬ closes event ∧ flag ghost)
    (events : List (Event interface)) :
    flag (events.foldl advance ghost) ↔ Since opens closes events := by
  induction events using List.reverseRecOn with
  | nil => exact iff_of_false start not_since_nil
  | append_singleton events event ih =>
    rw [List.foldl_append, List.foldl_cons, List.foldl_nil, step, since_snoc, ih]

end Since

/-- Follow the ghost state and remember whether every event met the condition. -/
def watching (advance : Ghost → Event interface → Ghost) (ok : Ghost → Event interface → Prop)
    (moment : Ghost × Prop) (event : Event interface) : Ghost × Prop :=
  (advance moment.1 event, moment.2 ∧ ok moment.1 event)

theorem foldl_watching (ghost : Ghost) (events : List (Event interface)) :
    events.foldl (watching advance ok) (ghost, True) =
      (events.foldl advance ghost, Always advance ok ghost events) := by
  induction events using List.reverseRecOn with
  | nil => exact congrArg (Prod.mk ghost) (propext (iff_of_true trivial (always_nil ghost)))
  | append_singleton events event ih =>
    rw [List.foldl_append, ih, List.foldl_append]
    exact congrArg (Prod.mk _) (propext always_snoc.symm)

abbrev watch (advance : Ghost → Event interface → Ghost) (ok : Ghost → Event interface → Prop) :
    Monitor interface (Ghost × Prop) :=
  Monitor.fold (watching advance ok)

/-- The invariant holds, and every event so far has met the condition. -/
def Watched (invariant : State → Ghost → Prop) (state : State) (moment : Ghost × Prop) : Prop :=
  invariant state moment.1 ∧ moment.2

/-- The exchanges of a program that keeps a watch meet the condition. -/
theorem watched_traces (ghost : Ghost) {program : Program interface State Error Value}
    {invariant : State → Ghost → Prop} {fuel : Nat} {state : State}
    {events : List (Event interface)} {settled : Except (Stop Error) Value × State}
    (keeps : program.Keeps (watch advance ok) (Watched invariant) (Watched invariant))
    (holds : invariant state ghost) (traces : (program fuel state).Traces events settled) :
    Always advance ok ghost events := by
  have drives := Monitor.fold_drives (watching advance ok) (ghost, True) events
  have watched := (keeps fuel state (ghost, True) ⟨holds, trivial⟩).traces traces drives
  rw [foldl_watching] at watched
  obtain ⟨stop | value, last⟩ := settled
  · exact watched.2
  · exact watched.2

section Guard
variable {monitor : Monitor interface Ghost} {good : Ghost → Prop}

/-- Follow a monitor and remember whether every state it went through was good. -/
def Monitor.guard (monitor : Monitor interface Ghost) (good : Ghost → Prop) :
    Monitor interface (Ghost × Prop) where
  step moment event after :=
    monitor.step moment.1 event after.1 ∧ after.2 = (moment.2 ∧ good after.1)

theorem Monitor.Drives.guard {ghost after : Ghost} {events : List (Event interface)}
    (drives : monitor.Drives ghost events after) (good : Ghost → Prop) (flag : Prop) :
    ∃ last, (monitor.guard good).Drives (ghost, flag) events (after, last) ∧ (last → flag) ∧
      (last → events = [] ∨ good after) := by
  induction drives generalizing flag with
  | nil => exact ⟨flag, .nil, id, fun _ => .inl rfl⟩
  | @cons _ event middle others after step _ ih =>
    obtain ⟨last, drives, sound, ends⟩ := ih (flag ∧ good middle)
    refine ⟨last, .cons ⟨step, rfl⟩ drives, fun holds => (sound holds).1, fun holds => ?_⟩
    rcases ends holds with none | fine
    · subst none
      cases drives
      exact .inr holds.2
    · exact .inr fine

/-- An invariant that the program keeps, and that says that the state is good, makes every
state on the way good. -/
theorem guarded_run {program : Program interface State Error Value}
    {host : Host interface World} {fuel : Nat} {state : State} {world : World} {ghost middle last : Ghost}
    {front back : List (Event interface)}
    (ends : program.wp (monitor.guard good) fuel (fun _ _ moment => moment.2)
      (fun _ _ moment => moment.2) state (ghost, True))
    (split : (program.run host fuel state world).events = front ++ back) (initial : good ghost)
    (first : monitor.Drives ghost front middle) (second : monitor.Drives middle back last) :
    good middle := by
  obtain ⟨flag, before, _, fine⟩ := first.guard good True
  obtain ⟨final, behind, sound, _⟩ := second.guard good flag
  have drives : (monitor.guard good).Drives (ghost, True)
      (program.run host fuel state world).events (last, final) := by
    rw [split]
    exact before.append behind
  have holds : final := by
    rcases Program.wp_run ends host world drives with ⟨_, _, holds⟩ | ⟨_, _, holds⟩
    · exact holds
    · exact holds
  rcases fine (sound holds) with none | fine
  · subst none
    cases first
    exact initial
  · exact fine

end Guard

/-- What is exchanged in a session. -/
def exchanged (records : List (Record interface Operation State Error Value World)) :
    List (Event interface) :=
  records.flatMap Record.events

section Sessions
variable {meaning : Operation → Program interface State Error Value}
  {invariant : State → Ghost → Prop} (host : Host interface World) (fuel : Nat)

/-- An operation that keeps the invariant keeps it however it ends. -/
theorem perform_keeps (world : World) {operation : Operation} {state : State} {ghost : Ghost}
    (keeps : (meaning operation).Keeps (Monitor.fold advance) invariant invariant)
    (holds : invariant state ghost) :
    invariant (perform meaning host fuel operation state world).after
      ((perform meaning host fuel operation state world).events.foldl advance ghost) := by
  rcases Program.wp_run (keeps fuel state ghost holds) host world (Monitor.fold_drives advance ghost _)
    with ⟨_, _, kept⟩ | ⟨_, _, kept⟩
  · exact kept
  · exact kept

/-- The invariant holds before and behind every operation of a session, in the ghost states
that all events up to there lead to. -/
theorem session_carries
    (keeps : ∀ operation, (meaning operation).Keeps (Monitor.fold advance) invariant invariant)
    (operations : List Operation) (state : State) (world : World) (ghost : Ghost)
    (initial : invariant state ghost) :
    ∀ front record back, session meaning host fuel operations state world = front ++ record :: back →
      invariant record.before ((exchanged front).foldl advance ghost) ∧
        invariant record.after ((exchanged (front ++ [record])).foldl advance ghost) := by
  induction operations generalizing state world ghost with
  | nil => exact fun _ _ _ split => absurd split (by simp [session])
  | cons operation others ih =>
    intro front record back split
    obtain ⟨tail, same, ending⟩ := session_cons meaning host fuel operation others state world
    rw [same] at split
    have kept := perform_keeps host fuel world (keeps operation) initial
    cases front with
    | nil =>
      obtain ⟨rfl, _⟩ := List.cons.inj split
      refine ⟨initial, ?_⟩
      rw [List.nil_append, exchanged, List.flatMap_singleton]
      exact kept
    | cons first front =>
      obtain ⟨rfl, later⟩ := List.cons.inj split
      rcases ending with none | rest
      · rw [none] at later
        exact absurd later (by simp)
      · rw [rest] at later
        have both := ih _ _ _ kept front record back later
        simp only [exchanged, List.cons_append, List.flatMap_cons, List.foldl_append] at both ⊢
        exact both

/-- Where every operation keeps an invariant under which its events meet the condition, all
events of a session meet it. -/
theorem session_always
    (keeps : ∀ operation,
      (meaning operation).Keeps (watch advance ok) (Watched invariant) (Watched invariant))
    (operations : List Operation) (state : State) (world : World) (ghost : Ghost)
    (initial : invariant state ghost) :
    Always advance ok ghost (exchanged (session meaning host fuel operations state world)) := by
  have carried := session_carries host fuel keeps operations state world
    (ghost, True) ⟨initial, trivial⟩
  rcases List.eq_nil_or_concat (session meaning host fuel operations state world) with
    none | ⟨front, last, same⟩
  · rw [none]
    exact always_nil ghost
  · rw [List.concat_eq_append] at same
    have watched := (carried front last [] same).2
    rw [← same, foldl_watching] at watched
    exact watched.2

/-- The same where the session goes on from where a program has ended. -/
theorem run_session_always {Result : Type} {program : Program interface State Error Result}
    (first : program.Keeps (watch advance ok) (Watched invariant) (Watched invariant))
    (keeps : ∀ operation,
      (meaning operation).Keeps (watch advance ok) (Watched invariant) (Watched invariant))
    (operations : List Operation) (state : State) (world : World) (ghost : Ghost)
    (initial : invariant state ghost) :
    let run := program.run host fuel state world
    Always advance ok ghost (run.events ++
      exchanged (session meaning host fuel operations run.value.2 run.world)) := by
  intro run
  have settled : Watched invariant run.value.2
      (run.events.foldl (watching advance ok) (ghost, True)) := by
    rcases Program.wp_run (first fuel state (ghost, True) ⟨initial, trivial⟩) host world
      (Monitor.fold_drives (watching advance ok) (ghost, True) _) with ⟨_, _, kept⟩ | ⟨_, _, kept⟩
    · exact kept
    · exact kept
  rw [foldl_watching] at settled
  exact always_append.mpr ⟨settled.2, session_always host fuel keeps operations run.value.2 run.world
    (run.events.foldl advance ghost) settled.1⟩

/-- What an operation keeps when it returns holds as long as all operations have returned. -/
theorem session_returning {broken : State → Ghost → Prop}
    (keeps : ∀ operation, (meaning operation).Keeps (Monitor.fold advance) invariant broken)
    (operations : List Operation) (state : State) (world : World) (ghost : Ghost)
    (initial : invariant state ghost) :
    ∀ front record back, session meaning host fuel operations state world = front ++ record :: back →
      (∀ other ∈ front ++ [record], other.Normal) →
      invariant record.after ((exchanged (front ++ [record])).foldl advance ghost) := by
  intro front record back split normal
  have step (operation : Operation) (state : State) (world : World) (ghost : Ghost)
      (holds : invariant state ghost)
      (returned : (perform meaning host fuel operation state world).Normal) :
      invariant (perform meaning host fuel operation state world).after
        ((perform meaning host fuel operation state world).events.foldl advance ghost) ∧ True := by
    obtain ⟨_, _, kept⟩ := perform_normal (keeps operation fuel state ghost holds)
      (Monitor.fold_drives advance ghost _) returned
    exact ⟨kept, trivial⟩
  have kept := (session_fold (fun ghost record => record.events.foldl advance ghost) invariant
    Record.Normal (fun _ _ => True) step operations state world ghost initial front record back
    split normal).1
  rw [exchanged, List.foldl_flatMap, List.foldl_append]
  exact kept

/-- The same for the invariant itself, without the condition. -/
theorem session_watched
    (keeps : ∀ operation,
      (meaning operation).Keeps (watch advance ok) (Watched invariant) (Watched invariant))
    (operations : List Operation) (state : State) (world : World) (ghost : Ghost)
    (initial : invariant state ghost) :
    ∀ front record back, session meaning host fuel operations state world = front ++ record :: back →
      invariant record.before ((exchanged front).foldl advance ghost) ∧
        invariant record.after ((exchanged (front ++ [record])).foldl advance ghost) := by
  intro front record back split
  have both := session_carries host fuel keeps operations state world
    (ghost, True) ⟨initial, trivial⟩ front record back split
  rw [foldl_watching, foldl_watching] at both
  exact ⟨both.1.1, both.2.1⟩

end Sessions

end LibFtp.Effect
