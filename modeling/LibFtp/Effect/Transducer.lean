import Mathlib.Logic.Basic

/-! Transducers: machines that turn one stream into another, symbol by symbol.
What they put out does not depend on how their input is cut into blocks. -/

namespace LibFtp.Effect

structure Transducer (Machine Input Output : Type) where
  step : Machine → Input → Machine × List Output

namespace Transducer

variable {Machine Input Output : Type} (transducer : Transducer Machine Input Output)

/-- The machine after a block of input, and what it put out. -/
def feed : Machine → List Input → Machine × List Output
  | machine, [] => (machine, [])
  | machine, symbol :: rest =>
    let (next, front) := transducer.step machine symbol
    let (last, back) := feed next rest
    (last, front ++ back)

/-- The same for several blocks, with the output of each. -/
def feedAll : Machine → List (List Input) → Machine × List (List Output)
  | machine, [] => (machine, [])
  | machine, block :: rest =>
    let (next, front) := transducer.feed machine block
    let (last, back) := feedAll next rest
    (last, front :: back)

@[simp] theorem feed_nil (machine : Machine) : transducer.feed machine [] = (machine, []) := rfl

theorem feed_cons (machine : Machine) (symbol : Input) (rest : List Input) :
    transducer.feed machine (symbol :: rest) =
      ((transducer.feed (transducer.step machine symbol).1 rest).1,
        (transducer.step machine symbol).2 ++
          (transducer.feed (transducer.step machine symbol).1 rest).2) := rfl

theorem feed_append (machine : Machine) (front back : List Input) :
    transducer.feed machine (front ++ back) =
      ((transducer.feed (transducer.feed machine front).1 back).1,
        (transducer.feed machine front).2 ++
          (transducer.feed (transducer.feed machine front).1 back).2) := by
  induction front generalizing machine with
  | nil => rfl
  | cons symbol front ih => simp only [List.cons_append, feed_cons, ih, List.append_assoc]

/-- The blocks of the input leave no trace in the output. -/
theorem feedAll_flatten (machine : Machine) (blocks : List (List Input)) :
    (transducer.feed machine blocks.flatten) =
      ((transducer.feedAll machine blocks).1, (transducer.feedAll machine blocks).2.flatten) := by
  induction blocks generalizing machine with
  | nil => rfl
  | cons block blocks ih => simp only [List.flatten_cons, feed_append, ih, feedAll]

end Transducer

end LibFtp.Effect
