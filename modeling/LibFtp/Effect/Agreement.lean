import LibFtp.Effect.Session
import Mathlib.Data.List.Forall2

/-! Programs that ask the same apart from what they tell listeners. Against a host that takes
no notice of the listeners they end alike, and the rest of what they exchange is the same. -/

namespace LibFtp.Effect

variable {interface : Interface} {State Part Other Error Value Result World Operation : Type}

/-- The questions that only inform listeners, and the answers to them that are counted on. -/
structure Listeners (interface : Interface) where
  asked : interface.Query → Bool
  answered : Event interface → Prop

/-- The events that do not concern the listeners. -/
def Listeners.others (listeners : Listeners interface) (events : List (Event interface)) :
    List (Event interface) :=
  events.filter fun event => !listeners.asked event.query

/-- The listeners answer as is counted on, and the host stays as it is. -/
def Host.Unmoved (host : Host interface World) (listeners : Listeners interface) : Prop :=
  ∀ query world, listeners.asked query = true →
    listeners.answered ⟨query, (host.respond query world).1⟩ ∧ (host.respond query world).2 = world

/-- Both trees ask the same and end with related values, apart from what either tells listeners. -/
inductive Tree.Concurs (listeners : Listeners interface) (relate : Value → Result → Prop) :
    Tree interface Value → Tree interface Result → Prop where
  | done (related : relate value result) : Concurs listeners relate (.done value) (.done result)
  | ask {first : interface.Answer query → Tree interface Value}
      {second : interface.Answer query → Tree interface Result}
      (next : ∀ answer, Concurs listeners relate (first answer) (second answer)) :
      Concurs listeners relate (.ask query first) (.ask query second)
  | left {first : interface.Answer query → Tree interface Value} (asked : listeners.asked query = true)
      (next : ∀ answer, listeners.answered ⟨query, answer⟩ →
        Concurs listeners relate (first answer) tree) :
      Concurs listeners relate (.ask query first) tree
  | right {second : interface.Answer query → Tree interface Result}
      (asked : listeners.asked query = true)
      (next : ∀ answer, listeners.answered ⟨query, answer⟩ →
        Concurs listeners relate tree (second answer)) :
      Concurs listeners relate tree (.ask query second)

namespace Tree.Concurs

variable {listeners : Listeners interface} {relate : Value → Result → Prop}

theorem refl {relate : Value → Value → Prop} (related : ∀ value, relate value value)
    (tree : Tree interface Value) : tree.Concurs listeners relate tree := by
  induction tree with
  | done value => exact .done (related value)
  | ask query next ih => exact .ask ih

theorem bind {Last Final : Type} {relate' : Last → Final → Prop}
    {first : Tree interface Value} {second : Tree interface Result}
    {rest : Value → Tree interface Last} {rest' : Result → Tree interface Final}
    (head : first.Concurs listeners relate second)
    (tail : ∀ value result, relate value result → (rest value).Concurs listeners relate' (rest' result)) :
    (first.bind rest).Concurs listeners relate' (second.bind rest') := by
  induction head with
  | done related => exact tail _ _ related
  | ask _ ih => exact .ask ih
  | left asked _ ih => exact .left asked ih
  | right asked _ ih => exact .right asked ih

theorem run {first : Tree interface Value} {second : Tree interface Result}
    {host : Host interface World} (concurs : first.Concurs listeners relate second)
    (unmoved : host.Unmoved listeners) (world : World) :
    relate (first.run host world).value (second.run host world).value ∧
      (first.run host world).world = (second.run host world).world ∧
      listeners.others (first.run host world).events = listeners.others (second.run host world).events := by
  induction concurs generalizing world with
  | done related => exact ⟨related, rfl, rfl⟩
  | @ask query _ _ _ ih =>
    obtain ⟨related, same, heard⟩ := ih (host.respond query world).1 (host.respond query world).2
    refine ⟨related, same, ?_⟩
    simp only [Listeners.others, Tree.run, List.filter_cons] at heard ⊢
    rw [heard]
  | @left query _ _ asked _ ih =>
    obtain ⟨answered, still⟩ := unmoved query world asked
    obtain ⟨related, same, heard⟩ := ih _ answered world
    rw [Tree.run, still]
    refine ⟨related, same, ?_⟩
    rw [Listeners.others, List.filter_cons_of_neg (by simp [asked])]
    exact heard
  | @right query _ _ asked _ ih =>
    obtain ⟨answered, still⟩ := unmoved query world asked
    obtain ⟨related, same, heard⟩ := ih _ answered world
    rw [Tree.run, still]
    refine ⟨related, same, ?_⟩
    rw [Listeners.others, Listeners.others, List.filter_cons_of_neg (by simp [asked])]
    exact heard

end Tree.Concurs

/-- The programs end in the same way, in states that are related as the ones they start in. -/
def Program.Concurs (listeners : Listeners interface) (between : State → Other → Prop)
    (first : Program interface State Error Value) (second : Program interface Other Error Value) :
    Prop :=
  ∀ fuel state other, between state other →
    (first fuel state).Concurs listeners
      (fun settled settled' => settled.1 = settled'.1 ∧ between settled.2 settled'.2)
      (second fuel other)

namespace Program.Concurs

variable {listeners : Listeners interface} {between : State → Other → Prop}

theorem refl (program : Program interface State Error Value) : Concurs listeners Eq program program := by
  intro fuel state other same
  subst same
  exact .refl (fun _ => ⟨rfl, rfl⟩) _

theorem pure (value : Value) : Concurs listeners between
    (pure value : Program interface State Error Value) (pure value) :=
  fun _ _ _ related => .done ⟨rfl, related⟩

theorem raise (error : Error) : Concurs listeners between
    (raise error : Program interface State Error Value) (raise error) :=
  fun _ _ _ related => .done ⟨rfl, related⟩

theorem spin : Concurs listeners between
    (spin : Program interface State Error Value) (spin : Program interface Other Error Value) :=
  fun _ _ _ related => .done ⟨rfl, related⟩

theorem modify {change : State → State} {change' : Other → Other}
    (kept : ∀ state other, between state other → between (change state) (change' other)) :
    Concurs listeners between (modify change : Program interface State Error Unit) (modify change') :=
  fun _ _ _ related => .done ⟨rfl, kept _ _ related⟩

theorem ask (query : interface.Query) : Concurs listeners between
    (ask query : Program interface State Error _) (ask query) :=
  fun _ _ _ related => .ask fun _ => .done ⟨rfl, related⟩

theorem bind {Middle : Type} {first : Program interface State Error Middle}
    {second : Program interface Other Error Middle}
    {rest : Middle → Program interface State Error Value}
    {rest' : Middle → Program interface Other Error Value}
    (head : Concurs listeners between first second)
    (tail : ∀ value, Concurs listeners between (rest value) (rest' value)) :
    Concurs listeners between (first >>= rest) (second >>= rest') := by
  intro fuel state other related
  refine (head fuel state other related).bind ?_
  rintro ⟨stop | value, after⟩ ⟨stop' | value', after'⟩ ⟨same, kept⟩
  · cases same
    exact .done ⟨rfl, kept⟩
  · cases same
  · cases same
  · cases same
    exact tail value fuel after after' kept

/-- Both may look at their states. -/
theorem get {rest : State → Program interface State Error Value}
    {rest' : Other → Program interface Other Error Value}
    (tail : ∀ state other, between state other → Concurs listeners between (rest state) (rest' other)) :
    Concurs listeners between (get >>= rest) (get >>= rest') :=
  fun fuel state other related => tail state other related fuel state other related

theorem ite {condition : Prop} [Decidable condition] {yes no : Program interface State Error Value}
    {yes' no' : Program interface Other Error Value} (left : Concurs listeners between yes yes')
    (right : Concurs listeners between no no') :
    Concurs listeners between (if condition then yes else no) (if condition then yes' else no') := by
  split
  · exact left
  · exact right

theorem loop {body : Nat → Program interface State Error Value}
    {body' : Nat → Program interface Other Error Value}
    (concurs : ∀ fuel, Concurs listeners between (body fuel) (body' fuel)) :
    Concurs listeners between (loop body) (loop body') :=
  fun fuel => concurs fuel fuel

/-- The first one may tell its listeners. -/
theorem left {query : interface.Query}
    {rest : interface.Answer query → Program interface State Error Value}
    {second : Program interface Other Error Value} (asked : listeners.asked query = true)
    (next : ∀ answer, listeners.answered ⟨query, answer⟩ → Concurs listeners between (rest answer) second) :
    Concurs listeners between (Program.ask query >>= rest) second :=
  fun fuel state other related => .left asked fun answer answered =>
    next answer answered fuel state other related

theorem zoom {between' : Part → Part → Prop} {view : State → Part} {put : State → Part → State}
    {view' : Other → Part} {put' : Other → Part → Other}
    {first second : Program interface Part Error Value} (concurs : Concurs listeners between' first second)
    (views : ∀ state other, between state other → between' (view state) (view' other))
    (puts : ∀ state other part part', between state other → between' part part' →
      between (put state part) (put' other part')) :
    Concurs listeners between (zoom view put first) (zoom view' put' second) := by
  intro fuel state other related
  refine (concurs fuel _ _ (views state other related)).bind ?_
  exact fun _ _ both => .done ⟨both.1, puts _ _ _ _ related both.2⟩

/-- On local objects that are the same. -/
theorem on {object : Part} {first second : Program interface Part Error Value}
    (concurs : Concurs listeners Eq first second) :
    Concurs listeners between (on object first : Program interface State Error _) (on object second) := by
  intro fuel state other related
  refine (concurs fuel object object rfl).bind ?_
  rintro ⟨stop | value, after⟩ ⟨stop' | value', after'⟩ ⟨same, kept⟩
  · cases same
    exact .done ⟨rfl, related⟩
  · cases same
  · cases same
  · cases same
    cases kept
    exact .done ⟨rfl, related⟩

end Program.Concurs

/-- The records tell of the same operation with the same outcome. -/
structure Record.Concurs (listeners : Listeners interface) (between : State → Other → Prop)
    (plain : Operation → Operation)
    (record : Record interface Operation State Error Value World)
    (record' : Record interface Operation Other Error Value World) : Prop where
  operation : record'.operation = plain record.operation
  outcome : record.outcome = record'.outcome
  after : between record.after record'.after
  world : record.world = record'.world
  events : listeners.others record.events = listeners.others record'.events

section Sessions
variable {meaning : Operation → Program interface State Error Value}
  {meaning' : Operation → Program interface Other Error Value} {listeners : Listeners interface}
  {between : State → Other → Prop} {plain : Operation → Operation} {host : Host interface World}

theorem perform_concurs (unmoved : host.Unmoved listeners) (fuel : Nat) {operation : Operation}
    (concurs : (meaning operation).Concurs listeners between (meaning' (plain operation)))
    {state : State} {other : Other} (related : between state other) (world : World) :
    (perform meaning host fuel operation state world).Concurs listeners between plain
      (perform meaning' host fuel (plain operation) other world) := by
  obtain ⟨⟨outcome, after⟩, same, events⟩ := (concurs fuel state other related).run unmoved world
  exact ⟨rfl, outcome, after, same, events⟩

/-- A session agrees with the one without the operations that only concern the listeners. -/
theorem session_concurs (unmoved : host.Unmoved listeners) (fuel : Nat) (keeps : Operation → Bool)
    (concurs : ∀ operation, keeps operation = true →
      (meaning operation).Concurs listeners between (meaning' (plain operation)))
    (skips : ∀ operation, keeps operation = false → ∀ state other, between state other →
      ∃ value after, meaning operation fuel state = .done (.ok value, after) ∧ between after other)
    (operations : List Operation) (state : State) (other : Other) (world : World)
    (related : between state other) :
    List.Forall₂ (Record.Concurs listeners between plain)
      ((session meaning host fuel operations state world).filter (keeps ·.operation))
      (session meaning' host fuel ((operations.filter keeps).map plain) other world) := by
  induction operations generalizing state other world with
  | nil => exact .nil
  | cons operation rest ih =>
    cases kept : keeps operation with
    | true =>
      have alike := perform_concurs unmoved fuel (concurs operation kept) related world
      rw [List.filter_cons_of_pos kept, List.map_cons, session, session, ← alike.outcome]
      have first : (perform meaning host fuel operation state world).operation = operation := rfl
      split
      · rw [List.filter_cons_of_pos (by rw [first, kept])]
        exact .cons alike .nil
      · rw [List.filter_cons_of_pos (by rw [first, kept]), ← alike.world]
        exact .cons alike (ih _ _ _ alike.after)
    | false =>
      obtain ⟨value, after, same, between⟩ := skips operation kept state other related
      have quiet : perform meaning host fuel operation state world =
          ⟨operation, state, .ok value, [], after, world⟩ := by
        simp only [perform, Program.run, same, Tree.run]
      rw [List.filter_cons_of_neg (by simp [kept]), session, quiet]
      simp only
      rw [List.filter_cons_of_neg (by simp [kept])]
      exact ih after other world between

end Sessions

end LibFtp.Effect
