import LibFtp.Detail.Stream
import LibFtp.Effect.Transducer

/-! Line ends. The two ASCII streams as transducers, what they are for, and how
the two coding functions undo each other. -/

namespace LibFtp

open Effect

namespace Ascii

/-- Every line end (CRLF, lone CR, lone LF) replaced, every other byte kept. -/
def withLineEnds (ending : Bytes) : Bytes → Bytes
  | [] => []
  | [ch] => if ch = cr ∨ ch = lf then ending else [ch]
  | ch :: next :: rest =>
    if ch = cr ∧ next = lf then ending ++ withLineEnds ending rest
    else if ch = cr ∨ ch = lf then ending ++ withLineEnds ending (next :: rest)
    else ch :: withLineEnds ending (next :: rest)

/-- Every CRLF pair replaced by LF, every other byte kept. -/
def joinCrlf : Bytes → Bytes
  | [] => []
  | [ch] => [ch]
  | ch :: next :: rest =>
    if ch = cr ∧ next = lf then lf :: joinCrlf rest else ch :: joinCrlf (next :: rest)

/-- Each CR is followed by LF and each LF is preceded by CR. -/
def Paired (wire : Bytes) : Prop :=
  (∀ front back, wire = front ++ cr :: back → back.head? = some lf) ∧
    ∀ front back, wire = front ++ lf :: back → front.getLast? = some cr

/-- What `ascii_istream` puts out, were its buffers without bounds. The state is
`skip_linefeed_`. -/
def encoder : Transducer Bool Byte Byte where
  step skip ch :=
    if ch = cr then (true, crlf)
    else if ch = lf then (false, if skip then [] else crlf)
    else (false, [ch])

/-- What `ascii_ostream` puts out. The state is `prev_cr_`. -/
def decoder : Transducer Bool Byte Byte where
  step := OutputStream.convertChar

theorem convert_eq_feed (prevCr : Bool) (data : Bytes) :
    OutputStream.convert prevCr data = decoder.feed prevCr data := by
  induction data generalizing prevCr with
  | nil => rfl
  | cons ch rest ih => simp only [OutputStream.convert, Transducer.feed_cons, ih, decoder]

section Equations
variable {ending : Bytes}

@[simp] theorem withLineEnds_nil : withLineEnds ending [] = [] := rfl

@[simp] theorem withLineEnds_crlf (rest : Bytes) :
    withLineEnds ending (cr :: lf :: rest) = ending ++ withLineEnds ending rest := by
  rw [withLineEnds, if_pos ⟨rfl, rfl⟩]

theorem withLineEnds_cr {rest : Bytes} (alone : rest.head? ≠ some lf) :
    withLineEnds ending (cr :: rest) = ending ++ withLineEnds ending rest := by
  cases rest with
  | nil => simp [withLineEnds]
  | cons next others =>
    have other : next ≠ lf := fun same => alone (congrArg some same)
    rw [withLineEnds, if_neg fun pair => other pair.2, if_pos (.inl rfl)]

@[simp] theorem withLineEnds_lf (rest : Bytes) :
    withLineEnds ending (lf :: rest) = ending ++ withLineEnds ending rest := by
  cases rest with
  | nil => simp [withLineEnds]
  | cons next others => rw [withLineEnds, if_neg fun pair => absurd pair.1 (by decide), if_pos (.inr rfl)]

theorem withLineEnds_other {ch : Byte} (notCr : ch ≠ cr) (notLf : ch ≠ lf) (rest : Bytes) :
    withLineEnds ending (ch :: rest) = ch :: withLineEnds ending rest := by
  cases rest with
  | nil => simp [withLineEnds, notCr, notLf]
  | cons next others => simp [withLineEnds, notCr, notLf]

@[simp] theorem joinCrlf_nil : joinCrlf [] = [] := rfl

@[simp] theorem joinCrlf_crlf (rest : Bytes) : joinCrlf (cr :: lf :: rest) = lf :: joinCrlf rest := by
  rw [joinCrlf, if_pos ⟨rfl, rfl⟩]

theorem joinCrlf_cr {rest : Bytes} (alone : rest.head? ≠ some lf) :
    joinCrlf (cr :: rest) = cr :: joinCrlf rest := by
  cases rest with
  | nil => simp [joinCrlf]
  | cons next others =>
    have other : next ≠ lf := fun same => alone (congrArg some same)
    rw [joinCrlf, if_neg fun pair => other pair.2]

theorem joinCrlf_other {ch : Byte} (notCr : ch ≠ cr) (rest : Bytes) :
    joinCrlf (ch :: rest) = ch :: joinCrlf rest := by
  cases rest with
  | nil => simp [joinCrlf]
  | cons next others => simp [joinCrlf, notCr]

end Equations

/-- Texts by their line ends: the induction that the coding functions follow. -/
theorem induction_lineEnds {holds : Bytes → Prop} (empty : holds [])
    (pair : ∀ rest, holds rest → holds (cr :: lf :: rest))
    (loneCr : ∀ rest, rest.head? ≠ some lf → holds rest → holds (cr :: rest))
    (loneLf : ∀ rest, holds rest → holds (lf :: rest))
    (other : ∀ ch rest, ch ≠ cr → ch ≠ lf → holds rest → holds (ch :: rest)) (data : Bytes) :
    holds data := by
  have single (ch : Byte) (rest : Bytes) (alone : ch = cr → rest.head? ≠ some lf)
      (ih : holds rest) : holds (ch :: rest) := by
    by_cases isCr : ch = cr
    · rw [isCr]
      exact loneCr rest (alone isCr) ih
    · by_cases isLf : ch = lf
      · rw [isLf]
        exact loneLf rest ih
      · exact other ch rest isCr isLf ih
  induction data using joinCrlf.induct with
  | case1 => exact empty
  | case2 ch => exact single ch [] (by simp) empty
  | case3 ch next rest both ih =>
    rw [both.1, both.2]
    exact pair rest ih
  | case4 ch next rest notPair ih =>
    exact single ch _ (fun isCr isLf => notPair ⟨isCr, Option.some.inj isLf⟩) ih

/-- The flag `skip_linefeed_` stands for a CR in front of what is still to come, whose
line end is out already. -/
theorem feed_encoder (data : Bytes) :
    (encoder.feed false data).2 = withLineEnds crlf data ∧
      crlf ++ (encoder.feed true data).2 = withLineEnds crlf (cr :: data) := by
  have lineEnd (skip : Bool) (rest : Bytes) :
      (encoder.feed skip (cr :: rest)).2 = crlf ++ (encoder.feed true rest).2 := rfl
  have skipped (rest : Bytes) :
      (encoder.feed true (lf :: rest)).2 = (encoder.feed false rest).2 := rfl
  induction data using induction_lineEnds with
  | empty => decide
  | pair rest ih =>
    rw [lineEnd, lineEnd, skipped, ih.1]
    refine ⟨(withLineEnds_crlf rest).symm, ?_⟩
    rw [withLineEnds_cr (by simp [cr, lf]), withLineEnds_crlf]
  | loneCr rest alone ih =>
    rw [lineEnd, lineEnd, ih.2]
    exact ⟨rfl, (withLineEnds_cr (by simp [cr, lf])).symm⟩
  | loneLf rest ih =>
    rw [skipped, ih.1, withLineEnds_crlf, withLineEnds_lf, ← ih.1]
    exact ⟨rfl, rfl⟩
  | other ch rest notCr notLf ih =>
    have plain (skip : Bool) :
        (encoder.feed skip (ch :: rest)).2 = ch :: (encoder.feed false rest).2 := by
      simp [Transducer.feed_cons, encoder, notCr, notLf]
    rw [plain, plain, ih.1, withLineEnds_cr (by simpa using notLf),
      withLineEnds_other notCr notLf]
    exact ⟨rfl, rfl⟩

/-- The byte that the decoder withholds. -/
def withheld (prevCr : Bool) : Bytes := if prevCr then [cr] else []

/-- What is withheld stands in front of what is still to come, and is what is left to
put out in the end. -/
theorem feed_decoder (prevCr : Bool) (data : Bytes) :
    (decoder.feed prevCr data).2 ++ withheld (decoder.feed prevCr data).1 =
      joinCrlf (withheld prevCr ++ data) := by
  induction data generalizing prevCr with
  | nil => cases prevCr <;> rfl
  | cons ch rest ih =>
    rw [Transducer.feed_cons, List.append_assoc, ih]
    by_cases isCr : ch = cr
    · subst ch
      cases prevCr with
      | false => rfl
      | true =>
        have alone : joinCrlf (cr :: cr :: rest) = cr :: joinCrlf (cr :: rest) :=
          joinCrlf_cr (by simp [cr, lf])
        exact alone.symm
    · by_cases isLf : ch = lf
      · subst ch
        cases prevCr with
        | false => exact (joinCrlf_other (by decide) rest).symm
        | true => exact (joinCrlf_crlf rest).symm
      · have kept := joinCrlf_other isCr rest
        cases prevCr with
        | false => simpa [decoder, OutputStream.convertChar, isCr, isLf, withheld] using kept.symm
        | true =>
          have alone : joinCrlf (cr :: ch :: rest) = cr :: joinCrlf (ch :: rest) :=
            joinCrlf_cr (by simpa using isLf)
          simp [decoder, OutputStream.convertChar, isCr, isLf, withheld, alone, kept]

theorem length_withLineEnds (data : Bytes) :
    (withLineEnds crlf data).length ≤ 2 * data.length := by
  have lineEnd (rest : Bytes) : (crlf ++ rest).length = rest.length + 2 := rfl
  induction data using induction_lineEnds with
  | empty => rfl
  | pair rest ih =>
    rw [withLineEnds_crlf, lineEnd]
    simp only [List.length_cons]
    omega
  | loneCr rest alone ih =>
    rw [withLineEnds_cr alone, lineEnd, List.length_cons]
    omega
  | loneLf rest ih =>
    rw [withLineEnds_lf, lineEnd, List.length_cons]
    omega
  | other ch rest notCr notLf ih =>
    rw [withLineEnds_other notCr notLf, List.length_cons, List.length_cons]
    omega

section RoundTrips

theorem joinCrlf_withLineEnds (data : Bytes) :
    joinCrlf (withLineEnds crlf data) = withLineEnds [lf] data := by
  have lineEnd (rest : Bytes) : joinCrlf (crlf ++ rest) = lf :: joinCrlf rest := joinCrlf_crlf rest
  induction data using induction_lineEnds with
  | empty => rfl
  | pair rest ih => rw [withLineEnds_crlf, withLineEnds_crlf, lineEnd, ih, List.singleton_append]
  | loneCr rest alone ih =>
    rw [withLineEnds_cr alone, withLineEnds_cr alone, lineEnd, ih, List.singleton_append]
  | loneLf rest ih => rw [withLineEnds_lf, withLineEnds_lf, lineEnd, ih, List.singleton_append]
  | other ch rest notCr notLf ih =>
    rw [withLineEnds_other notCr notLf, withLineEnds_other notCr notLf, joinCrlf_other notCr, ih]

theorem withLineEnds_lf_eq {data : Bytes} (noCr : cr ∉ data) : withLineEnds [lf] data = data := by
  induction data with
  | nil => rfl
  | cons ch rest ih =>
    have notCr : ch ≠ cr := fun same => noCr (same ▸ List.mem_cons_self)
    have kept := ih fun member => noCr (List.mem_cons_of_mem ch member)
    by_cases isLf : ch = lf
    · rw [isLf, withLineEnds_lf, kept, List.singleton_append]
    · rw [withLineEnds_other notCr isLf, kept]

theorem withLineEnds_idempotent (data : Bytes) :
    withLineEnds crlf (withLineEnds crlf data) = withLineEnds crlf data := by
  have lineEnd (rest : Bytes) : withLineEnds crlf (crlf ++ rest) = crlf ++ withLineEnds crlf rest :=
    withLineEnds_crlf rest
  induction data using induction_lineEnds with
  | empty => rfl
  | pair rest ih => rw [withLineEnds_crlf, lineEnd, ih]
  | loneCr rest alone ih => rw [withLineEnds_cr alone, lineEnd, ih]
  | loneLf rest ih => rw [withLineEnds_lf, lineEnd, ih]
  | other ch rest notCr notLf ih =>
    rw [withLineEnds_other notCr notLf, withLineEnds_other notCr notLf, ih]

private theorem Paired.tail {ch : Byte} {rest : Bytes} (paired : Paired (ch :: rest))
    (notCr : ch ≠ cr) : Paired rest := by
  constructor
  · intro front back same
    exact paired.1 (ch :: front) back (by rw [same, List.cons_append])
  · intro front back same
    have before := paired.2 (ch :: front) back (by rw [same, List.cons_append])
    cases front with
    | nil => exact absurd (Option.some.inj before) notCr
    | cons first others => simpa using before

private theorem Paired.pair {rest : Bytes} (paired : Paired (cr :: lf :: rest)) : Paired rest := by
  constructor
  · intro front back same
    exact paired.1 (cr :: lf :: front) back (by rw [same]; rfl)
  · intro front back same
    have before := paired.2 (cr :: lf :: front) back (by rw [same]; rfl)
    cases front with
    | nil => exact absurd (Option.some.inj before) (by decide)
    | cons first others => simpa using before

theorem withLineEnds_joinCrlf {wire : Bytes} (paired : Paired wire) :
    withLineEnds crlf (joinCrlf wire) = wire := by
  induction wire using induction_lineEnds with
  | empty => rfl
  | pair rest ih => rw [joinCrlf_crlf, withLineEnds_lf, ih paired.pair]; rfl
  | loneCr rest alone ih => exact absurd (paired.1 [] rest rfl) alone
  | loneLf rest ih => exact absurd (paired.2 [] rest rfl) (by simp)
  | other ch rest notCr notLf ih =>
    rw [joinCrlf_other notCr, withLineEnds_other notCr notLf, ih (paired.tail notCr)]

end RoundTrips

end Ascii

end LibFtp
