import LibFtp.Effect.Program

/-! Footprints: which questions a program may ask, whatever it is answered. A
ghost invariant that no event of the footprint disturbs survives the program. -/

namespace LibFtp.Effect

variable {interface : Interface} {State Part Error Failure Value Other Ghost : Type}
  {allowed : interface.Query → Prop}

def Tree.Within (allowed : interface.Query → Prop) : Tree interface Value → Prop
  | .done _ => True
  | .ask query next => allowed query ∧ ∀ answer, (next answer).Within allowed

theorem Tree.Within.bind {tree : Tree interface Value} {rest : Value → Tree interface Other}
    (head : tree.Within allowed) (tail : ∀ value, (rest value).Within allowed) :
    (tree.bind rest).Within allowed := by
  induction tree with
  | done value => exact tail value
  | ask query next ih => exact ⟨head.1, fun answer => ih answer (head.2 answer)⟩

theorem Tree.Within.mono {wider : interface.Query → Prop} {tree : Tree interface Value}
    (within : tree.Within allowed) (widen : ∀ query, allowed query → wider query) :
    tree.Within wider := by
  induction tree with
  | done value => exact True.intro
  | ask query next ih => exact ⟨widen _ within.1, fun answer => ih answer (within.2 answer)⟩

theorem Tree.Within.sat {monitor : Monitor interface Ghost} {invariant : Ghost → Prop}
    {tree : Tree interface Value} (within : tree.Within allowed)
    (undisturbed : ∀ ghost event after, allowed event.query → invariant ghost →
      monitor.step ghost event after → invariant after)
    (initial : invariant ghost) : tree.Sat monitor ghost fun _ after => invariant after := by
  induction tree generalizing ghost with
  | done value => exact initial
  | ask query next ih =>
    intro answer after step
    exact ih answer (within.2 answer) (undisturbed _ _ _ within.1 initial step)

theorem Tree.within_any (tree : Tree interface Value) : tree.Within fun _ => True := by
  induction tree with
  | done value => exact True.intro
  | ask query next ih => exact ⟨True.intro, ih⟩

namespace Program

def Asks (allowed : interface.Query → Prop) (program : Program interface State Error Value) :
    Prop :=
  ∀ fuel state, (program fuel state).Within allowed

theorem Asks.pure (value : Value) :
    Asks allowed (pure value : Program interface State Error Value) := fun _ _ => True.intro

theorem Asks.raise (error : Error) :
    Asks allowed (raise error : Program interface State Error Value) := fun _ _ => True.intro

theorem Asks.spin : Asks allowed (spin : Program interface State Error Value) :=
  fun _ _ => True.intro

theorem Asks.get : Asks allowed (get : Program interface State Error State) :=
  fun _ _ => True.intro

theorem Asks.modify (change : State → State) :
    Asks allowed (modify change : Program interface State Error Unit) := fun _ _ => True.intro

theorem Asks.ask {query : interface.Query} (member : allowed query) :
    Asks allowed (ask query : Program interface State Error _) :=
  fun _ _ => ⟨member, fun _ => True.intro⟩

theorem Asks.bind {first : Program interface State Error Other}
    {rest : Other → Program interface State Error Value}
    (head : Asks allowed first) (tail : ∀ value, Asks allowed (rest value)) :
    Asks allowed (first >>= rest) := by
  intro fuel state
  refine (head fuel state).bind fun settled => ?_
  rcases settled with ⟨stop | value, after⟩
  · exact True.intro
  · exact tail value fuel after

theorem Asks.ite {condition : Prop} [Decidable condition]
    {yes no : Program interface State Error Value}
    (left : Asks allowed yes) (right : Asks allowed no) :
    Asks allowed (if condition then yes else no) := by
  split
  · exact left
  · exact right

theorem Asks.loop {body : Nat → Program interface State Error Value}
    (asks : ∀ fuel, Asks allowed (body fuel)) : Asks allowed (loop body) :=
  fun fuel => asks fuel fuel

theorem Asks.zoom {view : State → Part} {put : State → Part → State}
    {program : Program interface Part Error Value} (asks : Asks allowed program) :
    Asks allowed (zoom view put program) :=
  fun fuel state => (asks fuel (view state)).bind fun _ => True.intro

theorem Asks.on {object : Part} {program : Program interface Part Error Value}
    (asks : Asks allowed program) : Asks allowed (on object program : Program _ State _ _) := by
  intro fuel state
  refine (asks fuel object).bind fun settled => ?_
  rcases settled with ⟨stop | value, after⟩ <;> exact True.intro

theorem Asks.mono {wider : interface.Query → Prop} {program : Program interface State Error Value}
    (asks : Asks allowed program) (widen : ∀ query, allowed query → wider query) :
    Asks wider program :=
  fun fuel state => (asks fuel state).mono widen

theorem Asks.any (program : Program interface State Error Value) : Asks (fun _ => True) program :=
  fun fuel state => (program fuel state).within_any

/-- A footprint that leaves a ghost invariant alone keeps it. -/
theorem Asks.keeps {monitor : Monitor interface Ghost} {invariant : Ghost → Prop}
    {program : Program interface State Error Value} (asks : Asks allowed program)
    (undisturbed : ∀ ghost event after, allowed event.query → invariant ghost →
      monitor.step ghost event after → invariant after) :
    Keeps monitor (fun _ => invariant) (fun _ => invariant) program := by
  intro fuel state ghost holds
  refine ((asks fuel state).sat undisturbed holds).mono fun settled after kept => ?_
  rcases settled with ⟨stop | value, last⟩ <;> exact kept

/-- A question whose events leave a computed ghost state as it is. -/
def Ignored (advance : Ghost → Event interface → Ghost) (query : interface.Query) : Prop :=
  ∀ ghost answer, advance ghost ⟨query, answer⟩ = ghost

theorem Asks.ignored {advance : Ghost → Event interface → Ghost} {kept : Ghost → Prop}
    {program : Program interface State Error Value} (asks : Asks (Ignored advance) program) :
    Keeps (Monitor.fold advance) (fun _ => kept) (fun _ => kept) program := by
  refine asks.keeps fun ghost event after ignored holds step => ?_
  have step : after = ghost := step.trans (ignored ghost event.answer)
  rw [step]
  exact holds

end Program

end LibFtp.Effect
