import LibFtp.Effect.Session

/-! Why a program raises an error. The rules below follow what has been exchanged and what is
kept of the state, so that each error can be traced to a cause among the events of its run. -/

namespace LibFtp.Effect

variable {interface : Interface} {State Part Error Value Other World Operation : Type}

/-- Behind the given events the program raises an error only where they or its own have caused
it. It keeps what is said of the state, and its values are what they are said to be. -/
def Program.Accounts (kept : State → List (Event interface) → Prop)
    (cause : List (Event interface) → Error → Prop) (past : List (Event interface))
    (post : Value → List (Event interface) → Prop) (program : Program interface State Error Value) :
    Prop :=
  ∀ fuel state, kept state past → program.wp Monitor.history fuel
    (fun value last after => kept last after ∧ past ⊆ after ∧ post value after)
    (fun stop _ after => ∀ error, stop = .raised error → cause after error) state past

namespace Program.Accounts

variable {kept : State → List (Event interface) → Prop}
  {cause : List (Event interface) → Error → Prop} {past : List (Event interface)}
  {post middle : Value → List (Event interface) → Prop}

theorem pure {value : Value} (holds : post value past) :
    Accounts kept cause past post (pure value : Program interface State Error Value) :=
  fun _ _ keeps => ⟨keeps, List.Subset.refl past, holds⟩

theorem raise {error : Error} (caused : cause past error) :
    Accounts kept cause past post (raise error : Program interface State Error Value) := by
  intro _ _ _ other same
  cases same
  exact caused

theorem spin : Accounts kept cause past post (spin : Program interface State Error Value) := by
  intro _ _ _ _ same
  cases same

theorem ask {query : interface.Query}
    {post : interface.Answer query → List (Event interface) → Prop}
    (still : ∀ state answer, kept state past → kept state (past ++ [⟨query, answer⟩]))
    (holds : ∀ answer, post answer (past ++ [⟨query, answer⟩])) :
    Accounts kept cause past post (ask query : Program interface State Error _) := by
  intro _ state keeps answer after step
  have step : after = past ++ [⟨query, answer⟩] := step
  subst step
  exact ⟨still state answer keeps, List.subset_append_left _ _, holds answer⟩

theorem get : Accounts kept cause past (fun _ _ => True) (get : Program interface State Error State) :=
  fun _ _ keeps => ⟨keeps, List.Subset.refl past, trivial⟩

theorem modify {change : State → State}
    (still : ∀ state events, kept state events → kept (change state) events) :
    Accounts kept cause past (fun _ _ => True) (modify change : Program interface State Error Unit) :=
  fun _ state keeps => ⟨still state past keeps, List.Subset.refl past, trivial⟩

theorem bind {first : Program interface State Error Other}
    {rest : Other → Program interface State Error Value}
    {middle : Other → List (Event interface) → Prop} (head : Accounts kept cause past middle first)
    (tail : ∀ value after, past ⊆ after → middle value after →
      Accounts kept cause after post (rest value)) :
    Accounts kept cause past post (first >>= rest) := by
  intro fuel state keeps
  rw [wp_bind]
  refine wp_mono (head fuel state keeps) ?_ fun _ _ _ => id
  rintro value between after ⟨keeps, longer, reached⟩
  refine wp_mono (tail value after longer reached fuel between keeps) ?_ fun _ _ _ => id
  rintro _ _ last ⟨keeps, further, result⟩
  exact ⟨keeps, List.Subset.trans longer further, result⟩

theorem ite {condition : Prop} [Decidable condition] {yes no : Program interface State Error Value}
    (left : condition → Accounts kept cause past post yes)
    (right : ¬ condition → Accounts kept cause past post no) :
    Accounts kept cause past post (if condition then yes else no) := by
  split
  · rename_i holds
    exact left holds
  · rename_i fails
    exact right fails

theorem loop {body : Nat → Program interface State Error Value}
    (accounts : ∀ fuel, Accounts kept cause past post (body fuel)) :
    Accounts kept cause past post (loop body) :=
  fun fuel => accounts fuel fuel

theorem zoom {view : State → Part} {put : State → Part → State}
    {program : Program interface Part Error Value}
    (accounts : ∀ state, Accounts (fun part => kept (put state part)) cause past post program)
    (same : ∀ state, put state (view state) = state) :
    Accounts kept cause past post (zoom view put program) := by
  intro fuel state keeps
  rw [wp_zoom]
  have held : kept (put state (view state)) past := by rwa [same]
  exact accounts state fuel (view state) held

theorem on {object : Part} {program : Program interface Part Error Value}
    (accounts : ∀ state, Accounts (fun _ => kept state) cause past post program) :
    Accounts kept cause past (fun result => post result.1)
      (on object program : Program interface State Error _) := by
  intro fuel state keeps
  rw [wp_on]
  exact accounts state fuel object keeps

theorem mono {program : Program interface State Error Value}
    (accounts : Accounts kept cause past middle program)
    (weaker : ∀ value after, past ⊆ after → middle value after → post value after) :
    Accounts kept cause past post program := by
  intro fuel state keeps
  refine wp_mono (accounts fuel state keeps) ?_ fun _ _ _ => id
  rintro value _ after ⟨keeps, longer, holds⟩
  exact ⟨keeps, longer, weaker value after longer holds⟩

end Program.Accounts

/-- The errors of an operation are caused by its own events. -/
theorem perform_accounts {kept : State → List (Event interface) → Prop}
    {cause : List (Event interface) → Error → Prop}
    {meaning : Operation → Program interface State Error Value} {operation : Operation}
    {post : Value → List (Event interface) → Prop}
    (accounts : (meaning operation).Accounts kept cause [] post) (host : Host interface World)
    (fuel : Nat) (state : State) (world : World) (initial : kept state []) {error : Error}
    (raised : (perform meaning host fuel operation state world).outcome = .error (.raised error)) :
    cause (perform meaning host fuel operation state world).events error := by
  rcases Program.wp_run (accounts fuel state initial) host world (Monitor.history_drives [] _) with
    ⟨value, returned, _⟩ | ⟨stop, stopped, caused⟩
  · rw [perform, returned] at raised
    cases raised
  · rw [perform, stopped] at raised
    cases raised
    exact caused error rfl

end LibFtp.Effect
