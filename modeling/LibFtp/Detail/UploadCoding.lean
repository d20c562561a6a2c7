import LibFtp.Detail.Ascii
import LibFtp.Detail.Script

/-! The ASCII coding of an upload: however the source is cut into chunks, and whatever
sizes are asked for, the stream hands out the encoding of the source piece by piece. -/

namespace LibFtp

open Effect

/-- A source that hands out the given chunks one after the other, and then is at its
end. -/
def handsOut : Monitor boundary (List Bytes) where
  step chunks event after :=
    match event with
    | ⟨.sourceRead _, .ok block⟩ => block.data = chunks.headD [] ∧ after = chunks.tail
    | ⟨.sourceRead _, .error _⟩ => False
    | _ => after = chunks

/-- The monitor hands out chunks in that way; `take` puts what is to come into its ghost
state. -/
def Supplies {Ghost : Type} (monitor : Monitor boundary Ghost) (take : List Bytes → Ghost) : Prop :=
  ∀ chunks maxSize answer after, monitor.step (take chunks) ⟨.sourceRead maxSize, answer⟩ after →
    ∃ block : Block maxSize, answer = .ok block ∧ block.data = chunks.headD [] ∧
      after = take chunks.tail

theorem handsOut_supplies : Supplies handsOut id := by
  intro chunks maxSize answer after step
  cases answer with
  | error error => exact step.elim
  | ok block => exact ⟨block, rfl, step⟩

namespace AsciiIstream

open Ascii

/-- The line feed that did not fit into the last block. -/
def unfinished (stream : AsciiIstream) : Bytes := if stream.needLinefeed then [lf] else []

/-- What the stream has still to hand out when `rest` is to come from its source. -/
def owed (stream : AsciiIstream) (rest : Bytes) : Bytes :=
  stream.unfinished ++ (encoder.feed stream.skipLinefeed (stream.internal ++ rest)).2

theorem owed_new (bufSize : Nat) (data : Bytes) :
    (new bufSize).owed data = withLineEnds crlf data :=
  (feed_encoder data).1

/-- One block in the making: `out` holds `buf` and what was put behind it, but for a line
feed that did not fit. -/
structure Puts (size : Nat) (buf put : Bytes) (after : AsciiIstream) (out : Bytes) : Prop where
  same : out ++ after.unfinished = buf ++ put
  fits : out.length ≤ size
  finished : out.length < size → after.needLinefeed = false

private theorem appendCrlf_puts (stream : AsciiIstream) {buf : Bytes} {size : Nat}
    (room : buf.length < size) (finished : stream.needLinefeed = false) :
    Puts size buf crlf (stream.appendCrlf buf size).1 (stream.appendCrlf buf size).2 := by
  unfold appendCrlf
  by_cases full : (buf ++ [cr]).length ≥ size
  · simp only [if_pos full]
    have length : (buf ++ [cr]).length = size := by
      rw [List.length_append] at full ⊢
      exact Nat.le_antisymm room full
    exact ⟨List.append_assoc .., length.le, fun less => absurd length (Nat.ne_of_lt less)⟩
  · simp only [if_neg full]
    have nothing : stream.unfinished = [] := by simp [unfinished, finished]
    refine ⟨by simp [nothing, crlf], ?_, fun _ => finished⟩
    rw [List.length_append]
    exact Nat.not_le.mp full

/-- One byte through the inner loop is one step of the encoder. -/
theorem convertChar_puts (stream : AsciiIstream) {buf : Bytes} {size : Nat} (ch : Byte)
    (room : buf.length < size) (finished : stream.needLinefeed = false) :
    Puts size buf (encoder.step stream.skipLinefeed ch).2 (stream.convertChar buf size ch).1
        (stream.convertChar buf size ch).2 ∧
      (stream.convertChar buf size ch).1.skipLinefeed =
        (encoder.step stream.skipLinefeed ch).1 := by
  have nothing : stream.unfinished = [] := by simp [unfinished, finished]
  have lineEnd := appendCrlf_puts stream room finished
  by_cases isCr : ch = cr
  · subst ch
    exact ⟨⟨lineEnd.same, lineEnd.fits, lineEnd.finished⟩, rfl⟩
  · by_cases isLf : ch = lf
    · subst ch
      cases skip : stream.skipLinefeed with
      | true =>
        simp only [convertChar, encoder, isCr, skip, if_true, if_false]
        refine ⟨⟨?_, room.le, fun _ => finished⟩, trivial⟩
        simp [unfinished, finished]
      | false =>
        simp only [convertChar, encoder, isCr, skip, if_true, if_false, Bool.false_eq_true]
        exact ⟨⟨lineEnd.same, lineEnd.fits, lineEnd.finished⟩, trivial⟩
    · simp only [convertChar, encoder, isCr, isLf, if_false]
      refine ⟨⟨?_, ?_, fun _ => finished⟩, trivial⟩
      · simp [unfinished, finished]
      · rw [List.length_append]
        exact room

/-- What is left of the internal buffer is still owed. -/
theorem convert_spec (size : Nat) (data rest : Bytes) (stream : AsciiIstream) (buf : Bytes)
    (room : buf.length < size) (finished : stream.needLinefeed = false) :
    let (after, out) := convert size data stream buf
    out ++ after.owed rest = buf ++ (encoder.feed stream.skipLinefeed (data ++ rest)).2 ∧
      out.length ≤ size ∧
      (out.length < size → after.needLinefeed = false ∧ after.internal = []) := by
  induction data generalizing stream buf with
  | nil =>
    simp [convert, owed, unfinished, finished, room.le]
  | cons ch data ih =>
    obtain ⟨puts, skip⟩ := convertChar_puts stream ch room finished
    simp only [convert]
    rw [List.cons_append, Transducer.feed_cons, ← skip, ← List.append_assoc, ← puts.same]
    by_cases full : (stream.convertChar buf size ch).2.length ≥ size
    · simp only [if_pos full]
      refine ⟨?_, puts.fits, fun less => absurd full (Nat.not_le.mpr less)⟩
      simp only [owed, unfinished, List.append_assoc]
    · simp only [if_neg full]
      have short := Nat.not_le.mp full
      have done := puts.finished short
      have next := ih (stream.convertChar buf size ch).1 (stream.convertChar buf size ch).2 short done
      simpa [unfinished, done] using next

/-- Rounds of the outer loop that a block may take. -/
private def rounds (stream : AsciiIstream) (chunks : List Bytes) : Nat :=
  chunks.length + (if stream.internal.isEmpty then 0 else 1)

section Reading
variable {Ghost : Type} {monitor : Monitor boundary Ghost} {take : List Bytes → Ghost}
  (supplies : Supplies monitor take) (broken : Prop) (fuel size : Nat)

include supplies

/-- The block is the next part of what is owed. Where the rounds might not suffice,
`broken` is what holds. -/
private theorem fill_spec (stream : AsciiIstream) (chunks : List Bytes) (buf : Bytes)
    (nonempty : ∀ chunk ∈ chunks, chunk ≠ []) (fits : buf.length ≤ size)
    (finished : buf.length < size → stream.needLinefeed = false) {steps : Nat}
    (positive : ¬ broken → 0 < steps)
    (enough : ¬ broken → buf.length < size → rounds stream chunks < steps) :
    (fill size steps buf).wp monitor fuel
      (fun block after last => ∃ rest, last = take rest ∧ rest <:+ chunks ∧
        block = (buf ++ stream.owed chunks.flatten).take size ∧
        after.owed rest.flatten = (buf ++ stream.owed chunks.flatten).drop size)
      (fun _ _ _ => broken) stream (take chunks) := by
  induction steps generalizing stream chunks buf with
  | zero => exact Classical.byContradiction fun sound => absurd (positive sound) (Nat.lt_irrefl 0)
  | succ steps ih =>
    simp only [fill, Program.wp_bind, Program.wp_get, Program.wp_ite, Program.wp_pure,
      Program.wp_modify]
    by_cases full : buf.length ≥ size
    · have length := Nat.le_antisymm fits full
      simp only [if_pos full]
      exact ⟨chunks, rfl, List.suffix_rfl, (List.take_left' length).symm,
        (List.drop_left' length).symm⟩
    · have room := Nat.not_le.mp full
      have finished := finished room
      -- One round converts `data`, with `rest` still to come from the source.
      have round (data : Bytes) (rest : List Bytes) (behind : rest <:+ chunks)
          (split : data ++ rest.flatten = stream.internal ++ chunks.flatten)
          (left : ¬ broken → rest.length < steps) :
          (fill size steps (convert size data stream buf).2).wp monitor fuel
            (fun block after last => ∃ rest, last = take rest ∧ rest <:+ chunks ∧
              block = (buf ++ stream.owed chunks.flatten).take size ∧
              after.owed rest.flatten = (buf ++ stream.owed chunks.flatten).drop size)
            (fun _ _ _ => broken) (convert size data stream buf).1 (take rest) := by
        obtain ⟨same, fits, done⟩ := convert_spec size data rest.flatten stream buf room finished
        have owes : buf ++ stream.owed chunks.flatten =
            (convert size data stream buf).2 ++
              (convert size data stream buf).1.owed rest.flatten := by
          rw [same, split]
          simp [owed, unfinished, finished]
        rw [owes]
        have filled := ih (convert size data stream buf).1 rest (convert size data stream buf).2
          (fun chunk member => nonempty chunk (behind.subset member)) fits
          (fun room => (done room).1) (fun sound => Nat.zero_lt_of_lt (left sound))
          (fun sound room => by simpa [rounds, (done room).2] using left sound)
        refine Program.wp_mono filled ?_ fun _ _ _ => id
        intro _ _ _ ⟨others, same, further, holds⟩
        exact ⟨others, same, further.trans behind, holds⟩
      rw [if_neg full]
      by_cases empty : stream.internal.isEmpty = true
      · simp only [empty, if_true, readSource, Program.wp_bind, wp_call]
        intro answer after step
        obtain ⟨block, answered, data, next⟩ := supplies _ _ _ _ step
        subst answer after
        have internal : stream.internal = [] := List.isEmpty_iff.mp empty
        cases chunks with
        | nil =>
          have ended : block.data = [] := data
          simp only [Program.wp_pure, ended, List.isEmpty_nil, if_true]
          have nothing : stream.owed [] = [] := by simp [owed, unfinished, finished, internal]
          refine ⟨[], rfl, List.suffix_rfl, ?_, ?_⟩
          · simp [nothing, List.take_of_length_le fits]
          · simp [nothing, List.drop_of_length_le fits]
        | cons chunk rest =>
          have data : block.data = chunk := data
          have some : chunk.isEmpty = false := by
            simpa using nonempty chunk (List.mem_cons_self ..)
          simp only [Program.wp_pure, data, some, Bool.false_eq_true, if_false]
          refine round chunk rest (List.suffix_cons chunk rest) (by simp [internal]) fun sound => ?_
          simpa [rounds, empty] using enough sound room
      · simp only [empty, Bool.false_eq_true, if_false]
        refine round stream.internal chunks List.suffix_rfl rfl fun sound => ?_
        simpa [rounds, empty] using enough sound room

/-- One call hands out the next `size` bytes of what is owed, or all that is left. -/
theorem read_spec (stream : AsciiIstream) (chunks : List Bytes)
    (nonempty : ∀ chunk ∈ chunks, chunk ≠ []) (enough : ¬ broken → chunks.length + 1 < fuel) :
    (read size).wp monitor fuel
      (fun block after last => ∃ rest, last = take rest ∧ rest <:+ chunks ∧
        block = (stream.owed chunks.flatten).take size ∧
        after.owed rest.flatten = (stream.owed chunks.flatten).drop size)
      (fun _ _ _ => broken) stream (take chunks) := by
  have within (sound : ¬ broken) : rounds stream chunks < fuel := by
    have enough := enough sound
    unfold rounds
    split
    · exact Nat.lt_of_succ_lt enough
    · exact enough
  have positive (sound : ¬ broken) : 0 < fuel := Nat.zero_lt_of_lt (within sound)
  simp only [read, Program.wp_bind, Program.wp_get, Program.wp_ite, Program.wp_modify,
    Program.wp_loop]
  split
  · rename_i both
    have filled := fill_spec supplies broken fuel size { stream with needLinefeed := false } chunks
      [lf] nonempty both.1 (fun _ => rfl) positive (fun sound _ => within sound)
    have same : stream.owed chunks.flatten =
        [lf] ++ owed { stream with needLinefeed := false } chunks.flatten := by
      simp [owed, unfinished, both.2]
    rw [same]
    exact filled
  · rename_i neither
    refine fill_spec supplies broken fuel size stream chunks [] nonempty (Nat.zero_le size)
      (fun room => ?_) positive (fun sound _ => within sound)
    simpa using fun need => neither ⟨room, need⟩

end Reading

/-- Call `read` with the given sizes, one after the other, until it returns 0. -/
def drain (sizes : Nat → Nat) : Nat → Nat → Method AsciiIstream (List Bytes)
  | 0, _ => Program.spin
  | fuel + 1, calls => do
    let block ← read (sizes calls)
    if block.isEmpty then return []
    else
      let blocks ← drain sizes fuel (calls + 1)
      return block :: blocks

def readAll (sizes : Nat → Nat) : Method AsciiIstream (List Bytes) :=
  Program.loop fun fuel => drain sizes fuel 0

variable {fuel : Nat}

private theorem drain_spec (broken : Prop) {sizes : Nat → Nat} (positive : ∀ call, 1 ≤ sizes call)
    (call : Nat) (stream : AsciiIstream) (chunks : List Bytes)
    (nonempty : ∀ chunk ∈ chunks, chunk ≠ []) (enough : ¬ broken → chunks.length + 1 < fuel)
    {steps : Nat} (left : ¬ broken → (stream.owed chunks.flatten).length < steps) :
    (drain sizes steps call).wp handsOut fuel
      (fun blocks _ _ => blocks.flatten = stream.owed chunks.flatten ∧
        ∀ n block, getElem? blocks n = some block → block ≠ [] ∧ block.length ≤ sizes (call + n))
      (fun _ _ _ => broken) stream chunks := by
  induction steps generalizing call stream chunks with
  | zero => exact Classical.byContradiction fun sound => absurd (left sound) (Nat.not_lt_zero _)
  | succ steps ih =>
    simp only [drain, Program.wp_bind, Program.wp_ite, Program.wp_pure]
    refine Program.wp_mono (read_spec handsOut_supplies broken fuel (sizes call) stream chunks
      nonempty enough) ?_ fun _ _ _ => id
    intro block after last ⟨rest, same, behind, taken, dropped⟩
    subst last
    have size := positive call
    by_cases last : block.isEmpty = true
    · have ended : stream.owed chunks.flatten = [] := by
        have nothing := taken.symm.trans (List.isEmpty_iff.mp last)
        rcases List.take_eq_nil_iff.mp nothing with zero | ended
        · exact absurd size (by simp [zero])
        · exact ended
      simp [last, ended]
    · have some : block ≠ [] := fun nothing => last (List.isEmpty_iff.mpr nothing)
      simp only [last, Bool.false_eq_true, if_false]
      have fewer (sound : ¬ broken) : (after.owed rest.flatten).length < steps := by
        have left := left sound
        have length := congrArg List.length dropped
        have put := List.length_pos_iff.mpr some
        rw [taken, List.length_take] at put
        rw [List.length_drop] at length
        omega
      have remaining (sound : ¬ broken) : rest.length + 1 < fuel :=
        Nat.lt_of_le_of_lt (Nat.add_le_add_right behind.length_le 1) (enough sound)
      refine Program.wp_mono (ih (call + 1) after rest
        (fun chunk member => nonempty chunk (behind.subset member)) remaining fewer) ?_
        fun _ _ _ => id
      intro blocks _ _ ⟨flat, each⟩
      refine ⟨?_, fun n other found => ?_⟩
      · rw [List.flatten_cons, flat, dropped, taken, List.take_append_drop]
      · cases n with
        | zero =>
          have same : block = other := Option.some.inj found
          rw [← same]
          refine ⟨some, ?_⟩
          rw [taken, List.length_take]
          exact Nat.min_le_left _ _
        | succ n =>
          have later := each n other found
          rwa [Nat.add_right_comm] at later

/-- The blocks are the encoding of the source, cut as the sizes allow. -/
theorem readAll_spec (broken : Prop) {sizes : Nat → Nat} (positive : ∀ call, 1 ≤ sizes call)
    (bufSize : Nat) (chunks : List Bytes) (nonempty : ∀ chunk ∈ chunks, chunk ≠ [])
    (enough : ¬ broken → 2 * chunks.flatten.length + 2 ≤ fuel) :
    (readAll sizes).wp handsOut fuel
      (fun blocks _ _ => blocks.flatten = withLineEnds crlf chunks.flatten ∧
        ∀ call block, getElem? blocks call = some block →
          block ≠ [] ∧ block.length ≤ sizes call)
      (fun _ _ _ => broken) (new bufSize) chunks := by
  have count : chunks.length ≤ chunks.flatten.length := by
    clear enough
    induction chunks with
    | nil => exact Nat.le_refl 0
    | cons chunk rest ih =>
      have some := List.length_pos_iff.mpr (nonempty chunk (List.mem_cons_self ..))
      have others := ih fun other member => nonempty other (List.mem_cons_of_mem chunk member)
      rw [List.flatten_cons, List.length_append, List.length_cons]
      omega
  have few (sound : ¬ broken) : chunks.length + 1 < fuel := by
    have enough := enough sound
    omega
  have left (sound : ¬ broken) : ((new bufSize).owed chunks.flatten).length < fuel := by
    have enough := enough sound
    have length := length_withLineEnds chunks.flatten
    rw [owed_new]
    omega
  refine Program.wp_mono (drain_spec broken positive 0 (new bufSize) chunks nonempty few left) ?_
    fun _ _ _ => id
  intro blocks _ _ ⟨flat, each⟩
  refine ⟨by rw [flat, owed_new], fun call block found => ?_⟩
  have within := each call block found
  rwa [Nat.zero_add] at within

/-- The blocks are all of the encoding of the source before the first call that returns
0, and each block (written from its front) is within the size asked for. -/
theorem readAll_encodes {World : Type} (host : Host boundary World) (world : World)
    (bufSize : Nat) (chunks : List Bytes) (nonempty : ∀ chunk ∈ chunks, chunk ≠ [])
    (sizes : Nat → Nat) (positive : ∀ call, 1 ≤ sizes call)
    (enough : 2 * chunks.flatten.length + 2 ≤ fuel)
    (drives : handsOut.Drives chunks
      ((readAll sizes).run host fuel (new bufSize) world).events last) :
    ∃ blocks, ((readAll sizes).run host fuel (new bufSize) world).value.1 = .ok blocks ∧
      blocks.flatten = withLineEnds crlf chunks.flatten ∧
      ∀ call block, getElem? blocks call = some block → block ≠ [] ∧ block.length ≤ sizes call := by
  have sat := readAll_spec False positive bufSize chunks nonempty fun _ => enough
  rcases Program.wp_run sat host world drives with encoded | ⟨_, _, never⟩
  · exact encoded
  · exact never.elim

theorem readAll_encodes_crlf :
    let chunks := [text "a\r", text "\nb"]
    let run := (readAll fun _ => 1).run Script.host 10 (new 2) ⟨[], [], chunks, [], fun _ => none⟩
    ∃ blocks : List Bytes, run.value.1 = .ok blocks ∧
      blocks.flatten = withLineEnds crlf chunks.flatten ∧
      ∀ (call : Nat) (block : Bytes), getElem? blocks call = some block →
        block ≠ [] ∧ block.length ≤ 1 := by
  intro chunks run
  have drives : handsOut.Drives chunks run.events [] :=
    .cons ⟨rfl, rfl⟩ (.cons ⟨rfl, rfl⟩ (.cons ⟨rfl, rfl⟩ .nil))
  exact readAll_encodes Script.host _ 2 chunks (by decide) (fun _ => 1) (fun _ => Nat.le_refl 1)
    (by decide) drives

end AsciiIstream

end LibFtp
