import LibFtp.Effect.Tree

/-! Programs with a state of their own that may raise an error or spin. A loop
without a bound of its own runs on fuel; running out of it is spinning, so what
holds for every fuel holds of every finite stretch of an endless run. -/

namespace LibFtp.Effect

inductive Stop (Error : Type) where
  | raised (error : Error)
  | spinning
  deriving DecidableEq, Repr

def Program (interface : Interface) (State Error Value : Type) : Type :=
  Nat → State → Tree interface (Except (Stop Error) Value × State)

variable {interface : Interface} {State Part Error Failure Value Other World Ghost : Type}

namespace Program

instance : Monad (Program interface State Error) where
  pure value := fun _ state => .done (.ok value, state)
  bind program rest := fun fuel state => (program fuel state).bind fun settled =>
    match settled with
    | (.ok value, after) => rest value fuel after
    | (.error stop, after) => .done (.error stop, after)

instance : LawfulMonad (Program interface State Error) := by
  refine LawfulMonad.mk' _ ?_ ?_ ?_
  · intro Value program
    funext fuel state
    refine Eq.trans ?_ (Tree.bind_done (program fuel state))
    refine congrArg (Tree.bind _) ?_
    funext settled
    rcases settled with ⟨stop | value, after⟩ <;> rfl
  · intro Value Other value rest
    rfl
  · intro Value Other Last program rest last
    funext fuel state
    refine (Tree.bind_assoc (program fuel state) _ _).trans ?_
    refine congrArg (Tree.bind _) ?_
    funext settled
    rcases settled with ⟨stop | value, after⟩ <;> rfl

def raise (error : Error) : Program interface State Error Value :=
  fun _ state => .done (.error (.raised error), state)

def spin : Program interface State Error Value :=
  fun _ state => .done (.error .spinning, state)

def ask (query : interface.Query) : Program interface State Error (interface.Answer query) :=
  fun _ state => .ask query fun answer => .done (.ok answer, state)

def get : Program interface State Error State :=
  fun _ state => .done (.ok state, state)

def modify (change : State → State) : Program interface State Error Unit :=
  fun _ state => .done (.ok (), change state)

/-- Start a loop with all the fuel there is. -/
def loop (body : Nat → Program interface State Error Value) :
    Program interface State Error Value :=
  fun fuel => body fuel fuel

/-- Run a component's program on the part of the state that it owns. -/
def zoom (view : State → Part) (put : State → Part → State)
    (program : Program interface Part Error Value) : Program interface State Error Value :=
  fun fuel state => (program fuel (view state)).bind fun settled =>
    .done (settled.1, put state settled.2)

/-- Run a component's program on a local object. The object is lost when the
program stops. -/
def on (object : Part) (program : Program interface Part Error Value) :
    Program interface State Error (Value × Part) :=
  fun fuel state => (program fuel object).bind fun settled =>
    match settled with
    | (.ok value, after) => .done (.ok (value, after), state)
    | (.error stop, _) => .done (.error stop, state)

/-- Catch a raised error. -/
def recover (program : Program interface State Error Value)
    (handler : Error → Program interface State Failure Value) :
    Program interface State Failure Value :=
  fun fuel state => (program fuel state).bind fun settled =>
    match settled with
    | (.ok value, after) => .done (.ok value, after)
    | (.error (.raised error), after) => handler error fuel after
    | (.error .spinning, after) => .done (.error .spinning, after)

def run (host : Host interface World) (fuel : Nat) (program : Program interface State Error Value)
    (state : State) (world : World) : Run interface World (Except (Stop Error) Value × State) :=
  (program fuel state).run host world

/-- The weakest condition under which the program, given admitted answers only,
ends in `post`, or in `fail` when it stops early. -/
def wp (monitor : Monitor interface Ghost) (fuel : Nat)
    (program : Program interface State Error Value) (post : Value → State → Ghost → Prop)
    (fail : Stop Error → State → Ghost → Prop) (state : State) (ghost : Ghost) : Prop :=
  (program fuel state).Sat monitor ghost fun settled after =>
    match settled with
    | (.ok value, last) => post value last after
    | (.error stop, last) => fail stop last after

section Rules
variable {monitor : Monitor interface Ghost} {fuel : Nat}
  {post : Value → State → Ghost → Prop} {fail : Stop Error → State → Ghost → Prop}

private theorem sat_funext (tree : State → Tree interface Value) (rest : Value → Tree interface Other)
    {post : Other → Ghost → Prop} {middle : Value → Ghost → Prop}
    (same : ∀ value after, (rest value).Sat monitor after post = middle value after) :
    (fun state ghost => ((tree state).bind rest).Sat monitor ghost post) =
      fun state ghost => (tree state).Sat monitor ghost middle := by
  funext state ghost
  have equal : middle = fun value after => (rest value).Sat monitor after post := by
    funext value after
    exact (same value after).symm
  rw [equal]
  exact propext (Tree.sat_bind _ _ _ _)

@[simp] theorem wp_pure (value : Value) :
    (pure value : Program interface State Error Value).wp monitor fuel post fail = post value := rfl

@[simp] theorem wp_bind (program : Program interface State Error Other)
    (rest : Other → Program interface State Error Value) :
    (program >>= rest).wp monitor fuel post fail =
      program.wp monitor fuel (fun value => (rest value).wp monitor fuel post fail) fail := by
  refine sat_funext (program fuel) _ fun settled after => ?_
  rcases settled with ⟨_ | value, last⟩ <;> rfl

@[simp] theorem wp_map (change : Other → Value) (program : Program interface State Error Other) :
    (change <$> program).wp monitor fuel post fail =
      program.wp monitor fuel (fun value => post (change value)) fail := by
  rw [← bind_pure_comp, wp_bind]
  rfl

@[simp] theorem wp_raise (error : Error) :
    (raise error : Program interface State Error Value).wp monitor fuel post fail =
      fail (.raised error) := rfl

@[simp] theorem wp_spin :
    (spin : Program interface State Error Value).wp monitor fuel post fail = fail .spinning := rfl

@[simp] theorem wp_get {post : State → State → Ghost → Prop} :
    (get : Program interface State Error State).wp monitor fuel post fail =
      fun state => post state state := rfl

@[simp] theorem wp_modify {post : Unit → State → Ghost → Prop} (change : State → State) :
    (modify change : Program interface State Error Unit).wp monitor fuel post fail =
      fun state => post () (change state) := rfl

@[simp] theorem wp_ask (query : interface.Query)
    {post : interface.Answer query → State → Ghost → Prop} :
    (ask query : Program interface State Error _).wp monitor fuel post fail =
      fun state ghost => ∀ answer after, monitor.step ghost ⟨query, answer⟩ after →
        post answer state after := rfl

@[simp] theorem wp_loop (body : Nat → Program interface State Error Value) :
    (loop body).wp monitor fuel post fail = (body fuel).wp monitor fuel post fail := rfl

@[simp] theorem wp_zoom (view : State → Part) (put : State → Part → State)
    (program : Program interface Part Error Value) :
    (zoom view put program).wp monitor fuel post fail =
      fun state => program.wp monitor fuel (fun value part => post value (put state part))
        (fun stop part => fail stop (put state part)) (view state) := by
  funext state ghost
  refine congrFun (congrFun (sat_funext (fun state => program fuel (view state)) _ ?_) state) ghost
  intro settled after
  rcases settled with ⟨_ | value, last⟩ <;> rfl

@[simp] theorem wp_on (object : Part) (program : Program interface Part Error Other)
    {post : Other × Part → State → Ghost → Prop} :
    (on object program).wp monitor fuel post fail =
      fun state => program.wp monitor fuel (fun value part => post (value, part) state)
        (fun stop _ => fail stop state) object := by
  funext state ghost
  refine congrFun (congrFun (sat_funext (fun _ : State => program fuel object) _ ?_) state) ghost
  intro settled after
  rcases settled with ⟨_ | value, last⟩ <;> rfl

theorem wp_recover (program : Program interface State Error Value)
    (handler : Error → Program interface State Failure Value)
    {fail : Stop Failure → State → Ghost → Prop} :
    (recover program handler).wp monitor fuel post fail =
      program.wp monitor fuel post fun stop => match stop with
        | .raised error => (handler error).wp monitor fuel post fail
        | .spinning => fail .spinning := by
  refine sat_funext (program fuel) _ fun settled after => ?_
  rcases settled with ⟨(_ | _) | value, last⟩ <;> rfl

@[simp] theorem wp_ite (condition : Prop) [Decidable condition]
    (yes no : Program interface State Error Value) :
    (if condition then yes else no).wp monitor fuel post fail =
      if condition then yes.wp monitor fuel post fail else no.wp monitor fuel post fail := by
  split <;> rfl

variable {state : State} {ghost : Ghost}

theorem wp_mono {program : Program interface State Error Value}
    {loose : Value → State → Ghost → Prop} {lax : Stop Error → State → Ghost → Prop}
    (sat : program.wp monitor fuel post fail state ghost)
    (weaker : ∀ value last after, post value last after → loose value last after)
    (laxer : ∀ stop last after, fail stop last after → lax stop last after) :
    program.wp monitor fuel loose lax state ghost := by
  refine Tree.Sat.mono sat fun settled after holds => ?_
  rcases settled with ⟨stop | value, last⟩
  · exact laxer stop last after holds
  · exact weaker value last after holds

theorem wp_and {program : Program interface State Error Value}
    {other : Value → State → Ghost → Prop} {ends : Stop Error → State → Ghost → Prop}
    (left : program.wp monitor fuel post fail state ghost)
    (right : program.wp monitor fuel other ends state ghost) :
    program.wp monitor fuel
      (fun value last after => post value last after ∧ other value last after)
      (fun stop last after => fail stop last after ∧ ends stop last after) state ghost := by
  refine (Tree.Sat.and left right).mono fun settled after both => ?_
  rcases settled with ⟨stop | value, last⟩
  · exact both
  · exact both

theorem wp_always (program : Program interface State Error Value)
    (ends : ∀ value last after, post value last after)
    (stops : ∀ stop last after, fail stop last after) :
    program.wp monitor fuel post fail state ghost := by
  refine Tree.Sat.always _ fun settled after => ?_
  rcases settled with ⟨stop | value, last⟩
  · exact stops stop last after
  · exact ends value last after

theorem wp_history {program : Program interface State Error Value} {past : List (Event interface)}
    {post : Value → State → List (Event interface) → Prop}
    {fail : Stop Error → State → List (Event interface) → Prop}
    (ends : ∀ value last more, post value last (past ++ more))
    (stops : ∀ stop last more, fail stop last (past ++ more)) :
    program.wp Monitor.history fuel post fail state past := by
  refine (Tree.sat_history (program fuel state) past).mono fun settled after ⟨more, same⟩ => ?_
  subst after
  rcases settled with ⟨stop | value, last⟩
  · exact stops stop last more
  · exact ends value last more

/-- A run with a host whose answers are admitted ends as the condition says. -/
theorem wp_run {program : Program interface State Error Value}
    (sat : program.wp monitor fuel post fail state ghost) (host : Host interface World)
    (world : World) (drives : monitor.Drives ghost (program.run host fuel state world).events after) :
    (∃ value, (program.run host fuel state world).value.1 = .ok value ∧
      post value (program.run host fuel state world).value.2 after) ∨
    (∃ stop, (program.run host fuel state world).value.1 = .error stop ∧
      fail stop (program.run host fuel state world).value.2 after) := by
  have settled := Tree.Sat.run sat host world drives
  unfold run
  revert settled
  generalize (Tree.run host (program fuel state) world).value = result
  obtain ⟨stop | value, last⟩ := result
  · exact fun settled => .inr ⟨stop, rfl, settled⟩
  · exact fun settled => .inl ⟨value, rfl, settled⟩

/-- With one host the condition speaks about one run. -/
theorem wp_only (host : Host interface World) (program : Program interface State Error Value)
    {post : Value → State → World → Prop} {fail : Stop Error → State → World → Prop}
    (world : World) :
    program.wp (Monitor.only host) fuel post fail state world ↔
      match (program.run host fuel state world).value with
      | (.ok value, last) => post value last (program.run host fuel state world).world
      | (.error stop, last) => fail stop last (program.run host fuel state world).world :=
  Tree.sat_only host (program fuel state) world _

theorem run_only {host : Host interface World} {program : Program interface State Error Value}
    {world : World} {result : Value}
    (sat : program.wp (Monitor.only host) fuel (fun value _ _ => value = result)
      (fun _ _ _ => False) state world) :
    (program.run host fuel state world).value.1 = .ok result := by
  rw [wp_only] at sat
  revert sat
  generalize (program.run host fuel state world).value = settled
  obtain ⟨stop | value, last⟩ := settled
  · exact False.elim
  · exact congrArg Except.ok

end Rules

/-- From `pre` the program, given admitted answers only, ends in `post`, or in
`fail` when it stops early. -/
def Triple (monitor : Monitor interface Ghost) (fuel : Nat) (pre : State → Ghost → Prop)
    (program : Program interface State Error Value) (post : Value → State → Ghost → Prop)
    (fail : Stop Error → State → Ghost → Prop) : Prop :=
  ∀ state ghost, pre state ghost → program.wp monitor fuel post fail state ghost

/-- The program preserves the invariant; where it stops early, `broken` is what
is left of it. -/
def Keeps (monitor : Monitor interface Ghost) (invariant broken : State → Ghost → Prop)
    (program : Program interface State Error Value) : Prop :=
  ∀ fuel, Triple monitor fuel invariant program (fun _ => invariant) (fun _ => broken)

section Triples
variable {monitor : Monitor interface Ghost} {fuel : Nat} {pre : State → Ghost → Prop}
  {program : Program interface State Error Value} {post : Value → State → Ghost → Prop}
  {fail : Stop Error → State → Ghost → Prop}

/-- Use a program's triple where it is called. -/
theorem Triple.apply {loose : Value → State → Ghost → Prop}
    {lax : Stop Error → State → Ghost → Prop}
    (triple : Triple monitor fuel pre program post fail) (holds : pre state ghost)
    (weaker : ∀ value last after, post value last after → loose value last after)
    (laxer : ∀ stop last after, fail stop last after → lax stop last after) :
    program.wp monitor fuel loose lax state ghost :=
  wp_mono (triple state ghost holds) weaker laxer

theorem Triple.bind {middle : Other → State → Ghost → Prop}
    {first : Program interface State Error Other}
    {rest : Other → Program interface State Error Value}
    (head : Triple monitor fuel pre first middle fail)
    (tail : ∀ value, Triple monitor fuel (middle value) (rest value) post fail) :
    Triple monitor fuel pre (first >>= rest) post fail := by
  intro state ghost holds
  rw [wp_bind]
  exact head.apply holds (fun value last after => tail value last after) (fun _ _ _ => id)

/-- The same where the ghost state is everything exchanged. -/
theorem Triple.run_history {pre : State → List (Event interface) → Prop}
    {post : Value → State → List (Event interface) → Prop}
    {fail : Stop Error → State → List (Event interface) → Prop}
    (triple : Triple Monitor.history fuel pre program post fail)
    (host : Host interface World) (world : World) (holds : pre state []) :
    (∃ value, (program.run host fuel state world).value.1 = .ok value ∧
      post value (program.run host fuel state world).value.2
        (program.run host fuel state world).events) ∨
    (∃ stop, (program.run host fuel state world).value.1 = .error stop ∧
      fail stop (program.run host fuel state world).value.2
        (program.run host fuel state world).events) :=
  wp_run (triple state [] holds) host world (Monitor.history_drives [] _)

end Triples

section Runs
variable (host : Host interface World) {fuel : Nat} {state : State} {world : World}

theorem run_zoom (view : State → Part) (put : State → Part → State)
    (program : Program interface Part Error Value) :
    (zoom view put program).run host fuel state world =
      let inner := program.run host fuel (view state) world
      ⟨(inner.value.1, put state inner.value.2), inner.world, inner.events⟩ := by
  simp [run, zoom, Tree.run_bind, Tree.run]

theorem run_bind (program : Program interface State Error Other)
    (rest : Other → Program interface State Error Value) :
    (program >>= rest).run host fuel state world =
      let first := program.run host fuel state world
      match first.value with
      | (.ok value, middle) =>
        let second := (rest value).run host fuel middle first.world
        ⟨second.value, second.world, first.events ++ second.events⟩
      | (.error stop, middle) => ⟨(.error stop, middle), first.world, first.events⟩ := by
  refine (Tree.run_bind host _ _ world).trans ?_
  unfold run
  generalize Tree.run host (program fuel state) world = first
  obtain ⟨⟨_ | _, _⟩, _, _⟩ := first <;> simp [Tree.run]

theorem run_recover (program : Program interface State Error Value)
    (handler : Error → Program interface State Failure Value) :
    (recover program handler).run host fuel state world =
      let first := program.run host fuel state world
      match first.value with
      | (.ok value, middle) => ⟨(.ok value, middle), first.world, first.events⟩
      | (.error (.raised error), middle) =>
        let second := (handler error).run host fuel middle first.world
        ⟨second.value, second.world, first.events ++ second.events⟩
      | (.error .spinning, middle) => ⟨(.error .spinning, middle), first.world, first.events⟩ := by
  refine (Tree.run_bind host _ _ world).trans ?_
  unfold run
  generalize Tree.run host (program fuel state) world = first
  obtain ⟨⟨(_ | _) | _, _⟩, _, _⟩ := first <;> simp [Tree.run]

end Runs

section Invariants
variable {monitor : Monitor interface Ghost} {invariant broken : State → Ghost → Prop}

theorem Keeps.pure (value : Value) :
    Keeps monitor invariant broken (pure value : Program interface State Error Value) :=
  fun _ _ _ holds => holds

theorem Keeps.raise (error : Error)
    (stops : ∀ state ghost, invariant state ghost → broken state ghost) :
    Keeps monitor invariant broken (raise error : Program interface State Error Value) :=
  fun _ => stops

theorem Keeps.spin (stops : ∀ state ghost, invariant state ghost → broken state ghost) :
    Keeps monitor invariant broken (spin : Program interface State Error Value) :=
  fun _ => stops

theorem Keeps.get :
    Keeps monitor invariant broken (get : Program interface State Error State) :=
  fun _ _ _ holds => holds

theorem Keeps.modify {change : State → State}
    (kept : ∀ state ghost, invariant state ghost → invariant (change state) ghost) :
    Keeps monitor invariant broken (modify change : Program interface State Error Unit) :=
  fun _ => kept

theorem Keeps.ask {query : interface.Query}
    (kept : ∀ state ghost answer after, invariant state ghost →
      monitor.step ghost ⟨query, answer⟩ after → invariant state after) :
    Keeps monitor invariant broken (ask query : Program interface State Error _) :=
  fun _ state ghost holds answer after step => kept state ghost answer after holds step

theorem Keeps.bind {first : Program interface State Error Other}
    {rest : Other → Program interface State Error Value}
    (head : Keeps monitor invariant broken first)
    (tail : ∀ value, Keeps monitor invariant broken (rest value)) :
    Keeps monitor invariant broken (first >>= rest) :=
  fun fuel => (head fuel).bind fun value => tail value fuel

theorem Keeps.ite {condition : Prop} [Decidable condition]
    {yes no : Program interface State Error Value}
    (left : Keeps monitor invariant broken yes) (right : Keeps monitor invariant broken no) :
    Keeps monitor invariant broken (if condition then yes else no) := by
  split
  · exact left
  · exact right

theorem Keeps.loop {body : Nat → Program interface State Error Value}
    (kept : ∀ fuel, Keeps monitor invariant broken (body fuel)) :
    Keeps monitor invariant broken (loop body) :=
  fun fuel => kept fuel fuel

theorem Keeps.recover {broken' : State → Ghost → Prop}
    {program : Program interface State Error Value}
    {handler : Error → Program interface State Failure Value}
    (body : Keeps monitor invariant broken program)
    (handled : ∀ error fuel, Triple monitor fuel broken (handler error) (fun _ => invariant)
      (fun _ => broken'))
    (spins : ∀ state ghost, broken state ghost → broken' state ghost) :
    Keeps monitor invariant broken' (recover program handler) := by
  intro fuel state ghost holds
  rw [wp_recover]
  refine (body fuel).apply holds (fun _ _ _ => id) fun stop last after kept => ?_
  cases stop with
  | raised error => exact handled error fuel last after kept
  | spinning => exact spins last after kept

theorem Keeps.zoom {view : State → Part} {put : State → Part → State}
    {program : Program interface Part Error Value}
    (kept : ∀ state, Keeps monitor (fun part => invariant (put state part))
      (fun part => broken (put state part)) program)
    (same : ∀ state, put state (view state) = state) :
    Keeps monitor invariant broken (zoom view put program) := by
  intro fuel state ghost holds
  have entered : invariant (put state (view state)) ghost := by
    rw [same]
    exact holds
  rw [wp_zoom]
  exact kept state fuel (view state) ghost entered

theorem Keeps.on {object : Part} {program : Program interface Part Error Value}
    (kept : ∀ state, Keeps monitor (fun _ => invariant state) (fun _ => broken state) program) :
    Keeps monitor invariant broken (on object program) := by
  intro fuel state ghost holds
  rw [wp_on]
  exact kept state fuel object ghost holds

theorem Keeps.mono {loose : State → Ghost → Prop} {program : Program interface State Error Value}
    (kept : Keeps monitor invariant broken program)
    (laxer : ∀ state ghost, broken state ghost → loose state ghost) :
    Keeps monitor invariant loose program :=
  fun fuel _ _ holds => (kept fuel).apply holds (fun _ _ _ => id) fun _ last after => laxer last after

end Invariants

end Program

end LibFtp.Effect
