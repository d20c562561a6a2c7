import Mathlib.Logic.Basic

/-! Interaction trees: a program put as the questions it asks its surroundings
and what it does with each answer. A host answers them one after the other; a
monitor restricts what a host may answer and follows the exchange. -/

namespace LibFtp.Effect

/-- The questions a program may put to its surroundings, and their answers. -/
structure Interface where
  Query : Type
  Answer : Query → Type

structure Event (interface : Interface) where
  query : interface.Query
  answer : interface.Answer query

instance {interface : Interface} [DecidableEq interface.Query]
    [∀ query, DecidableEq (interface.Answer query)] : DecidableEq (Event interface)
  | ⟨query, answer⟩, ⟨other, reply⟩ =>
    if same : query = other then
      if equal : same ▸ answer = reply then
        .isTrue (by subst same; subst equal; rfl)
      else .isFalse fun both => by cases both; exact equal rfl
    else .isFalse fun both => same (congrArg Event.query both)

inductive Tree (interface : Interface) (Value : Type) where
  | done (value : Value)
  | ask (query : interface.Query) (next : interface.Answer query → Tree interface Value)

variable {interface : Interface} {Value Other World Ghost : Type}

def Tree.bind : Tree interface Value → (Value → Tree interface Other) → Tree interface Other
  | .done value, rest => rest value
  | .ask query next, rest => .ask query fun answer => (next answer).bind rest

theorem Tree.bind_done (tree : Tree interface Value) : tree.bind .done = tree := by
  induction tree with
  | done value => rfl
  | ask query next ih => simp only [Tree.bind, ih]

theorem Tree.bind_assoc {Last : Type} (tree : Tree interface Value)
    (rest : Value → Tree interface Other) (last : Other → Tree interface Last) :
    (tree.bind rest).bind last = tree.bind fun value => (rest value).bind last := by
  induction tree with
  | done value => rfl
  | ask query next ih => simp only [Tree.bind, ih]

/-- Surroundings that answer every question, keeping a state of their own. -/
structure Host (interface : Interface) (World : Type) where
  respond : (query : interface.Query) → World → interface.Answer query × World

structure Run (interface : Interface) (World Value : Type) where
  value : Value
  world : World
  events : List (Event interface)

def Tree.run (host : Host interface World) : Tree interface Value → World → Run interface World Value
  | .done value, world => ⟨value, world, []⟩
  | .ask query next, world =>
    let reply := host.respond query world
    let rest := (next reply.1).run host reply.2
    ⟨rest.value, rest.world, ⟨query, reply.1⟩ :: rest.events⟩

theorem Tree.run_bind (host : Host interface World) (tree : Tree interface Value)
    (rest : Value → Tree interface Other) (world : World) :
    (tree.bind rest).run host world =
      let first := tree.run host world
      let second := (rest first.value).run host first.world
      ⟨second.value, second.world, first.events ++ second.events⟩ := by
  induction tree generalizing world with
  | done value => rfl
  | ask query next ih => simp only [Tree.bind, Tree.run, ih, List.cons_append]

/-- A relation that says which answers are admitted and how a ghost state
follows them. Several successors stand for choices made out of sight. -/
structure Monitor (interface : Interface) (Ghost : Type) where
  step : Ghost → Event interface → Ghost → Prop

namespace Monitor

inductive Drives (monitor : Monitor interface Ghost) :
    Ghost → List (Event interface) → Ghost → Prop where
  | nil : Drives monitor ghost [] ghost
  | cons (first : monitor.step ghost event middle) (rest : Drives monitor middle events last) :
      Drives monitor ghost (event :: events) last

variable {monitor : Monitor interface Ghost}

theorem Drives.append (first : monitor.Drives ghost events middle)
    (second : monitor.Drives middle others last) : monitor.Drives ghost (events ++ others) last := by
  induction first with
  | nil => exact second
  | cons step _ ih => exact .cons step (ih second)

theorem drives_append_iff : monitor.Drives ghost (events ++ others) last ↔
    ∃ middle, monitor.Drives ghost events middle ∧ monitor.Drives middle others last := by
  constructor
  · intro drives
    induction events generalizing ghost with
    | nil => exact ⟨ghost, .nil, drives⟩
    | cons event events ih =>
      cases drives with
      | cons step rest =>
        obtain ⟨middle, front, back⟩ := ih rest
        exact ⟨middle, .cons step front, back⟩
  · rintro ⟨middle, front, back⟩
    exact front.append back

/-- A monitor that admits everything and computes its ghost state. -/
def fold (advance : Ghost → Event interface → Ghost) : Monitor interface Ghost where
  step ghost event next := next = advance ghost event

theorem fold_drives (advance : Ghost → Event interface → Ghost) (ghost : Ghost)
    (events : List (Event interface)) :
    (fold advance).Drives ghost events (events.foldl advance ghost) := by
  induction events generalizing ghost with
  | nil => exact .nil
  | cons event events ih => exact .cons rfl (ih _)

/-- The ghost state collects what is of interest in the events so far. -/
def collect {Out : Type} (read : Event interface → Option Out) : Monitor interface (List Out) :=
  fold fun past event => past ++ (read event).toList

theorem collect_drives {Out : Type} (read : Event interface → Option Out) (past : List Out)
    (events : List (Event interface)) :
    (collect read).Drives past events (past ++ events.filterMap read) := by
  induction events generalizing past with
  | nil => simpa using Drives.nil
  | cons event events ih =>
    have rest := ih (past ++ (read event).toList)
    have same : past ++ (read event).toList ++ events.filterMap read =
        past ++ (event :: events).filterMap read := by
      rw [List.filterMap_cons, List.append_assoc]
      cases read event <;> rfl
    rw [same] at rest
    exact .cons rfl rest

/-- The ghost state is everything exchanged so far. -/
def history : Monitor interface (List (Event interface)) :=
  fold fun past event => past ++ [event]

theorem history_drives (past events : List (Event interface)) :
    history.Drives past events (past ++ events) := by
  induction events generalizing past with
  | nil => simpa using Drives.nil
  | cons event events ih =>
    have rest := ih (past ++ [event])
    rw [List.append_assoc, List.singleton_append] at rest
    exact .cons rfl rest

/-- Two monitors side by side. -/
def both (first : Monitor interface Ghost) (second : Monitor interface Other) :
    Monitor interface (Ghost × Other) where
  step ghosts event after :=
    first.step ghosts.1 event after.1 ∧ second.step ghosts.2 event after.2

theorem Drives.both {first : Monitor interface Ghost} {second : Monitor interface Other}
    (left : first.Drives ghost events after) (right : second.Drives other events last) :
    (first.both second).Drives (ghost, other) events (after, last) := by
  induction left generalizing other with
  | nil =>
    cases right
    exact .nil
  | cons step _ ih =>
    cases right with
    | cons other rest => exact .cons ⟨step, other⟩ (ih rest)

end Monitor

/-- Whatever admitted answers come, the tree ends with `post`. -/
def Tree.Sat (monitor : Monitor interface Ghost) :
    Tree interface Value → Ghost → (Value → Ghost → Prop) → Prop
  | .done value, ghost, post => post value ghost
  | .ask query next, ghost, post =>
    ∀ answer after, monitor.step ghost ⟨query, answer⟩ after → (next answer).Sat monitor after post

namespace Tree

variable {monitor : Monitor interface Ghost}

theorem sat_bind (tree : Tree interface Value) (rest : Value → Tree interface Other)
    (ghost : Ghost) (post : Other → Ghost → Prop) :
    (tree.bind rest).Sat monitor ghost post ↔
      tree.Sat monitor ghost fun value after => (rest value).Sat monitor after post := by
  induction tree generalizing ghost with
  | done value => rfl
  | ask query next ih => simp only [Tree.bind, Tree.Sat, ih]

theorem Sat.mono {tree : Tree interface Value} (sat : tree.Sat monitor ghost post)
    (weaker : ∀ value after, post value after → loose value after) :
    tree.Sat monitor ghost loose := by
  induction tree generalizing ghost with
  | done value => exact weaker _ _ sat
  | ask query next ih =>
    intro answer after step
    exact ih answer (sat answer after step)

theorem Sat.always (tree : Tree interface Value) (holds : ∀ value after, post value after) :
    tree.Sat monitor ghost post := by
  induction tree generalizing ghost with
  | done value => exact holds value ghost
  | ask query next ih => exact fun answer after _ => ih answer

theorem Sat.and {other : Value → Ghost → Prop} {tree : Tree interface Value}
    (left : tree.Sat monitor ghost post) (right : tree.Sat monitor ghost other) :
    tree.Sat monitor ghost fun value after => post value after ∧ other value after := by
  induction tree generalizing ghost with
  | done value => exact ⟨left, right⟩
  | ask query next ih =>
    intro answer after step
    exact ih answer (left answer after step) (right answer after step)

/-- What was exchanged before stays in front. -/
theorem sat_history (tree : Tree interface Value) (past : List (Event interface)) :
    tree.Sat Monitor.history past fun _ after => ∃ more, after = past ++ more := by
  induction tree generalizing past with
  | done value => exact ⟨[], (List.append_nil past).symm⟩
  | ask query next ih =>
    intro answer after step
    have step : after = past ++ [⟨query, answer⟩] := step
    subst after
    refine (ih answer _).mono fun _ last ⟨more, same⟩ => ⟨⟨query, answer⟩ :: more, ?_⟩
    rw [same, List.append_assoc, List.singleton_append]

/-- What holds of every admitted exchange holds of the run with any host whose
answers are admitted. -/
theorem Sat.run {tree : Tree interface Value} (sat : tree.Sat monitor ghost post)
    (host : Host interface World) (world : World)
    (drives : monitor.Drives ghost (tree.run host world).events after) :
    post (tree.run host world).value after := by
  induction tree generalizing ghost world with
  | done value =>
    cases drives
    exact sat
  | ask query next ih =>
    cases drives with
    | cons step rest => exact ih _ (sat _ _ step) _ rest

end Tree

/-- The exchanges after which a tree ends with a value. -/
inductive Tree.Traces :
    Tree interface Value → List (Event interface) → Value → Prop where
  | done : Traces (.done value) [] value
  | ask {query : interface.Query} {next : interface.Answer query → Tree interface Value}
      {answer : interface.Answer query} (rest : Traces (next answer) events value) :
      Traces (.ask query next) (⟨query, answer⟩ :: events) value

namespace Tree

theorem sat_traces (tree : Tree interface Value) (past : List (Event interface)) :
    tree.Sat Monitor.history past fun value after =>
      ∃ more, after = past ++ more ∧ tree.Traces more value := by
  induction tree generalizing past with
  | done value => exact ⟨[], (List.append_nil past).symm, .done⟩
  | ask query next ih =>
    intro answer after step
    have step : after = past ++ [⟨query, answer⟩] := step
    subst after
    refine (ih answer _).mono fun _ last ⟨more, same, traces⟩ => ?_
    refine ⟨⟨query, answer⟩ :: more, ?_, .ask traces⟩
    rw [same, List.append_assoc, List.singleton_append]

/-- What holds of every admitted exchange holds of each trace that is admitted. -/
theorem Sat.traces {monitor : Monitor interface Ghost} {tree : Tree interface Value}
    (sat : tree.Sat monitor ghost post) (traces : tree.Traces events value)
    (drives : monitor.Drives ghost events after) : post value after := by
  induction traces generalizing ghost with
  | done =>
    cases drives
    exact sat
  | ask _ ih =>
    cases drives with
    | cons step rest => exact ih (sat _ _ step) rest

end Tree

/-- A host keeps to a monitor when its own state follows the ghost state. -/
structure Host.Follows (host : Host interface World) (monitor : Monitor interface Ghost)
    (view : World → Ghost) : Prop where
  step : ∀ query world, monitor.step (view world) ⟨query, (host.respond query world).1⟩
    (view (host.respond query world).2)

theorem Host.Follows.drives {host : Host interface World} {monitor : Monitor interface Ghost}
    {view : World → Ghost} (follows : host.Follows monitor view)
    (tree : Tree interface Value) (world : World) :
    monitor.Drives (view world) (tree.run host world).events (view (tree.run host world).world) := by
  induction tree generalizing world with
  | done value => exact .nil
  | ask query next ih => exact .cons (follows.step query world) (ih _ _)

/-- The run with a host that follows the monitor, read off the tree. -/
theorem Tree.Sat.follow {tree : Tree interface Value} {host : Host interface World}
    {monitor : Monitor interface Ghost} {view : World → Ghost}
    (follows : host.Follows monitor view) {world : World}
    (sat : tree.Sat monitor (view world) post) :
    post (tree.run host world).value (view (tree.run host world).world) :=
  sat.run host world (follows.drives tree world)

/-- The monitor that admits what one host answers, and nothing else. -/
def Monitor.only (host : Host interface World) : Monitor interface World where
  step world event after := host.respond event.query world = (event.answer, after)

theorem Monitor.only_follows (host : Host interface World) : host.Follows (Monitor.only host) id where
  step _ _ := rfl

theorem Tree.sat_only (host : Host interface World) (tree : Tree interface Value) (world : World)
    (post : Value → World → Prop) :
    tree.Sat (Monitor.only host) world post ↔
      post (tree.run host world).value (tree.run host world).world := by
  refine ⟨fun sat => sat.follow (Monitor.only_follows host), fun holds => ?_⟩
  induction tree generalizing world with
  | done value => exact holds
  | ask query next ih =>
    intro answer after step
    have same : host.respond query world = (answer, after) := step
    have rest := ih (host.respond query world).1 (host.respond query world).2 holds
    rw [same] at rest
    exact rest

end LibFtp.Effect
