import LibFtp.Effect.Footprint

/-! Programs that end. A loop runs out of its fuel only where the ghost state accounts for
all of it, so a program that is given little ends with enough fuel. -/

namespace LibFtp.Effect

variable {interface : Interface} {State Part Error Value Other Ghost World : Type}
  {monitor : Monitor interface Ghost} {invariant : State → Ghost → Prop}
  {spent : Nat → Ghost → Prop}

namespace Program

/-- The program keeps the invariant where it returns, and spins only when its fuel was
spent. -/
def Ends (monitor : Monitor interface Ghost) (invariant : State → Ghost → Prop)
    (spent : Nat → Ghost → Prop) (program : Program interface State Error Value) : Prop :=
  ∀ fuel, Triple monitor fuel invariant program (fun _ => invariant)
    (fun stop _ ghost => stop = .spinning → spent fuel ghost)

theorem Ends.pure (value : Value) :
    Ends monitor invariant spent (pure value : Program interface State Error Value) :=
  fun _ _ _ holds => holds

theorem Ends.raise (error : Error) :
    Ends monitor invariant spent (raise error : Program interface State Error Value) :=
  fun _ _ _ _ never => nomatch never

theorem Ends.get : Ends monitor invariant spent (get : Program interface State Error State) :=
  fun _ _ _ holds => holds

theorem Ends.modify {change : State → State}
    (kept : ∀ state ghost, invariant state ghost → invariant (change state) ghost) :
    Ends monitor invariant spent (modify change : Program interface State Error Unit) :=
  fun _ => kept

theorem Ends.ask {query : interface.Query}
    (kept : ∀ state ghost answer after, invariant state ghost →
      monitor.step ghost ⟨query, answer⟩ after → invariant state after) :
    Ends monitor invariant spent (ask query : Program interface State Error _) :=
  fun _ state ghost holds answer after step => kept state ghost answer after holds step

theorem Ends.bind {first : Program interface State Error Other}
    {rest : Other → Program interface State Error Value}
    (head : Ends monitor invariant spent first)
    (tail : ∀ value, Ends monitor invariant spent (rest value)) :
    Ends monitor invariant spent (first >>= rest) :=
  fun fuel => (head fuel).bind fun value => tail value fuel

theorem Ends.ite {condition : Prop} [Decidable condition]
    {yes no : Program interface State Error Value}
    (left : Ends monitor invariant spent yes) (right : Ends monitor invariant spent no) :
    Ends monitor invariant spent (if condition then yes else no) := by
  split
  · exact left
  · exact right

theorem Ends.zoom {view : State → Part} {put : State → Part → State}
    {program : Program interface Part Error Value}
    (ends : ∀ state, Ends monitor (fun part => invariant (put state part)) spent program)
    (same : ∀ state, put state (view state) = state) :
    Ends monitor invariant spent (zoom view put program) := by
  intro fuel state ghost holds
  have entered : invariant (put state (view state)) ghost := by
    rw [same]
    exact holds
  rw [wp_zoom]
  exact ends state fuel (view state) ghost entered

theorem Ends.on {object : Part} {program : Program interface Part Error Value}
    (ends : ∀ state, Ends monitor (fun _ => invariant state) spent program) :
    Ends monitor invariant spent (on object program) := by
  intro fuel state ghost holds
  rw [wp_on]
  exact ends state fuel object ghost holds

/-- A run that spins has spent its fuel. -/
theorem Ends.run {program : Program interface State Error Value}
    (ends : Ends monitor invariant spent program) (host : Host interface World) {fuel : Nat}
    {state : State} {world : World} {ghost after : Ghost} (holds : invariant state ghost)
    (drives : monitor.Drives ghost (program.run host fuel state world).events after)
    (spins : (program.run host fuel state world).value.1 = .error .spinning) : spent fuel after := by
  rcases wp_run (ends fuel state ghost holds) host world drives with ⟨_, returned, _⟩ | ⟨_, stopped, kept⟩
  · cases spins.symm.trans returned
  · exact kept (Except.error.inj (stopped.symm.trans spins))

end Program

end LibFtp.Effect
