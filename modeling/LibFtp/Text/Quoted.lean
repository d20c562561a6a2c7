import Mathlib.Data.List.TakeWhile

/-! Blank-separated arguments that may be put in quotation marks: how they are taken from a
stream, and what a text is made of that they are taken from. -/

namespace LibFtp.Text

/-- What separates the arguments, and what a quoted argument is written with. -/
structure Quoting (Char : Type) where
  blank : Char → Bool
  delim : Char
  escape : Char
  solid : blank delim = false
  apart : escape ≠ delim

/-- An argument that has begun in a text. -/
inductive Begun (Char : Type) where
  | complete (value : List Char)
  | unterminated (body : List Char)
  deriving DecidableEq, Repr

namespace Quoting

variable {Char : Type}

section Grammar
variable (quoting : Quoting Char)

/-- What stands between the delimiters of an argument. -/
inductive Body : List Char → List Char → Prop where
  | nil : Body [] []
  | plain (literal : ch ≠ quoting.escape) (other : ch ≠ quoting.delim) (rest : Body body value) :
      Body (ch :: body) (ch :: value)
  | escaped (rest : Body body value) : Body (quoting.escape :: ch :: body) (ch :: value)

/-- What is missing its closing delimiter, whatever came behind it. -/
inductive Unclosed : List Char → Prop where
  | nil : Unclosed []
  | dangling : Unclosed [quoting.escape]
  | plain (literal : ch ≠ quoting.escape) (other : ch ≠ quoting.delim) (rest : Unclosed body) :
      Unclosed (ch :: body)
  | escaped (rest : Unclosed body) : Unclosed (quoting.escape :: ch :: body)

def Gap (gap : List Char) : Prop := ∀ ch ∈ gap, quoting.blank ch = true

/-- An argument, with its value and what may follow it. -/
inductive Argument : List Char → List Char → List Char → Prop where
  | bare (solid : ∀ letter ∈ ch :: letters, quoting.blank letter = false)
      (other : ch ≠ quoting.delim) (ends : ∀ next ∈ rest.head?, quoting.blank next = true) :
      Argument (ch :: letters) (ch :: letters) rest
  | quoted (body : quoting.Body shown value) :
      Argument (quoting.delim :: (shown ++ [quoting.delim])) value rest

/-- The arguments that begin in a text, each behind blanks or behind the one before it. -/
inductive Splits : List Char → List (Begun Char) → Prop where
  | gap (gap : quoting.Gap blanks) : Splits blanks []
  | argument (gap : quoting.Gap blanks) (argument : quoting.Argument shown value rest)
      (others : Splits rest begun) : Splits (blanks ++ (shown ++ rest)) (.complete value :: begun)
  | unterminated (gap : quoting.Gap blanks) (unclosed : quoting.Unclosed body) :
      Splits (blanks ++ quoting.delim :: body) [.unterminated body]

end Grammar

variable [DecidableEq Char]

section Extraction
variable (quoting : Quoting Char)

/-- The next word, and what is behind it. -/
def word (stream : List Char) : Option (List Char × List Char) :=
  match stream.dropWhile quoting.blank with
  | [] => none
  | start => some (start.takeWhile (!quoting.blank ·), start.dropWhile (!quoting.blank ·))

/-- The value of a quoted argument whose first delimiter has been taken. -/
def closing : List Char → Option (List Char × List Char)
  | [] => none
  | ch :: rest =>
    if ch = quoting.escape then
      match rest with
      | [] => none
      | escaped :: rest => (closing rest).map fun (value, rest) => (escaped :: value, rest)
    else if ch = quoting.delim then some ([], rest)
    else (closing rest).map fun (value, rest) => (ch :: value, rest)

/-- The next argument, quoted or not. -/
def extract (stream : List Char) : Option (List Char × List Char) :=
  match stream.dropWhile quoting.blank with
  | [] => none
  | ch :: rest => if ch = quoting.delim then quoting.closing rest else quoting.word (ch :: rest)

/-- What the standard library writes for a quoted argument. -/
def render (value : List Char) : List Char :=
  quoting.delim :: (value.flatMap (fun ch =>
    if ch = quoting.escape ∨ ch = quoting.delim then [quoting.escape, ch] else [ch]) ++ [quoting.delim])

variable {quoting} {value rest stream blanks body : List Char}

theorem closing_delim (rest : List Char) : quoting.closing (quoting.delim :: rest) = some ([], rest) := by
  rw [closing.eq_def]
  simp [quoting.apart.symm]

theorem closing_plain {ch : Char} (literal : ch ≠ quoting.escape) (other : ch ≠ quoting.delim)
    (rest : List Char) : quoting.closing (ch :: rest) =
      (quoting.closing rest).map fun (value, rest) => (ch :: value, rest) := by
  rw [closing.eq_def]
  simp [literal, other]

theorem closing_escaped (ch : Char) (rest : List Char) :
    quoting.closing (quoting.escape :: ch :: rest) =
      (quoting.closing rest).map fun (value, rest) => (ch :: value, rest) := by
  simp [closing]

theorem closing_body (body : quoting.Body shown value) (rest : List Char) :
    quoting.closing (shown ++ quoting.delim :: rest) = some (value, rest) := by
  induction body with
  | nil => exact closing_delim rest
  | plain literal other _ ih => simp [closing_plain literal other, ih]
  | escaped _ ih => simp [closing_escaped, ih]

theorem closing_unclosed (unclosed : quoting.Unclosed body) : quoting.closing body = none := by
  induction unclosed with
  | nil => rfl
  | dangling => simp [closing]
  | plain literal other _ ih => simp [closing_plain literal other, ih]
  | escaped _ ih => simp [closing_escaped, ih]

/-- Every text is closed somewhere, or it is not. -/
theorem closed_or_unclosed (quoting : Quoting Char) (stream : List Char) :
    (∃ shown value rest, quoting.Body shown value ∧ stream = shown ++ quoting.delim :: rest) ∨
      quoting.Unclosed stream := by
  induction stream using closing.induct quoting with
  | case1 => exact .inr .nil
  | case2 => exact .inr .dangling
  | case3 escaped others ih =>
    rcases ih with ⟨shown, value, rest, body, rfl⟩ | unclosed
    · exact .inl ⟨_, _, rest, .escaped body, rfl⟩
    · exact .inr (.escaped unclosed)
  | case4 others literal => exact .inl ⟨[], [], others, .nil, rfl⟩
  | case5 ch others literal other ih =>
    rcases ih with ⟨shown, value, rest, body, rfl⟩ | unclosed
    · exact .inl ⟨_, _, rest, .plain literal other body, rfl⟩
    · exact .inr (.plain literal other unclosed)

omit [DecidableEq Char] in
private theorem dropWhile_gap {ch : Char} (gap : quoting.Gap blanks) (solid : quoting.blank ch = false)
    (stream : List Char) :
    (blanks ++ ch :: stream).dropWhile quoting.blank = ch :: stream := by
  rw [List.dropWhile_append_of_pos gap]
  simp [solid]

omit [DecidableEq Char] in
private theorem dropWhile_blank (gap : quoting.Gap blanks) : blanks.dropWhile quoting.blank = [] := by
  rw [← List.append_nil blanks, List.dropWhile_append_of_pos gap]
  rfl

omit [DecidableEq Char] in
/-- A word ends where a blank follows, or nothing. -/
theorem word_eq {ch : Char} {letters : List Char} (gap : quoting.Gap blanks)
    (solid : ∀ letter ∈ ch :: letters, quoting.blank letter = false)
    (ends : ∀ next ∈ rest.head?, quoting.blank next = true) :
    quoting.word (blanks ++ (ch :: letters ++ rest)) = some (ch :: letters, rest) := by
  have inside : ∀ letter ∈ ch :: letters, (!quoting.blank letter) = true := by simpa using solid
  have behind : rest.takeWhile (!quoting.blank ·) = [] ∧ rest.dropWhile (!quoting.blank ·) = rest := by
    cases rest with
    | nil => exact ⟨rfl, rfl⟩
    | cons next others => simp [ends next rfl]
  have start : (blanks ++ (ch :: letters ++ rest)).dropWhile quoting.blank = ch :: letters ++ rest :=
    dropWhile_gap gap (solid ch List.mem_cons_self) _
  have whole : quoting.word (blanks ++ (ch :: letters ++ rest)) =
      some ((ch :: letters ++ rest).takeWhile (!quoting.blank ·),
        (ch :: letters ++ rest).dropWhile (!quoting.blank ·)) := by
    rw [word, start]
    rfl
  rw [whole, List.takeWhile_append_of_pos inside, List.dropWhile_append_of_pos inside, behind.1,
    behind.2, List.append_nil]

theorem extract_gap (gap : quoting.Gap blanks) : quoting.extract blanks = none := by
  rw [extract, dropWhile_blank gap]

theorem extract_argument (gap : quoting.Gap blanks) (argument : quoting.Argument shown value rest) :
    quoting.extract (blanks ++ (shown ++ rest)) = some (value, rest) := by
  cases argument with
  | @bare ch letters _ solid other ends =>
    have word := word_eq (fun _ member => absurd member List.not_mem_nil) solid ends
    rw [extract, List.cons_append, dropWhile_gap gap (solid ch List.mem_cons_self)]
    exact (if_neg other).trans word
  | @quoted body _ _ holds =>
    have closed := closing_body holds rest
    rw [extract, List.cons_append, dropWhile_gap gap quoting.solid, List.append_assoc]
    exact (if_pos rfl).trans closed

theorem extract_unterminated (gap : quoting.Gap blanks) (unclosed : quoting.Unclosed body) :
    quoting.extract (blanks ++ quoting.delim :: body) = none := by
  rw [extract, dropWhile_gap gap quoting.solid]
  exact (if_pos rfl).trans (closing_unclosed unclosed)

/-- A text is blank, or it begins with an argument, or with one that is never closed. -/
theorem begins (quoting : Quoting Char) (stream : List Char) :
    quoting.Gap stream ∨
      (∃ blanks shown value rest, quoting.Gap blanks ∧ quoting.Argument shown value rest ∧
        stream = blanks ++ (shown ++ rest)) ∨
      ∃ blanks body, quoting.Gap blanks ∧ quoting.Unclosed body ∧
        stream = blanks ++ quoting.delim :: body := by
  have gap : quoting.Gap (stream.takeWhile quoting.blank) := fun ch member =>
    List.mem_takeWhile_imp member
  have whole : stream.takeWhile quoting.blank ++ stream.dropWhile quoting.blank = stream :=
    List.takeWhile_append_dropWhile
  generalize stream.takeWhile quoting.blank = blanks at gap whole
  cases start : stream.dropWhile quoting.blank with
  | nil =>
    rw [start, List.append_nil] at whole
    exact .inl (whole ▸ gap)
  | cons ch rest =>
    rw [start] at whole
    have solid : quoting.blank ch = false := by
      have head := List.head?_dropWhile_not quoting.blank stream
      rw [start] at head
      simpa using head
    by_cases same : ch = quoting.delim
    · subst same
      rcases closed_or_unclosed quoting rest with ⟨shown, value, others, body, rfl⟩ | unclosed
      · refine .inr (.inl ⟨blanks, _, value, others, gap, .quoted body, ?_⟩)
        rw [← whole, List.cons_append, List.append_assoc]
        rfl
      · exact .inr (.inr ⟨blanks, rest, gap, unclosed, whole.symm⟩)
    · have letters : ∀ letter ∈ ch :: rest.takeWhile (!quoting.blank ·), quoting.blank letter = false := by
        intro letter member
        rcases List.mem_cons.mp member with rfl | inside
        · exact solid
        · simpa using List.mem_takeWhile_imp inside
      have ends : ∀ next ∈ (rest.dropWhile (!quoting.blank ·)).head?, quoting.blank next = true := by
        intro next head
        have first := List.head?_dropWhile_not (!quoting.blank ·) rest
        rw [Option.mem_def.mp head] at first
        simpa using first
      refine .inr (.inl ⟨blanks, _, _, _, gap, .bare letters same ends, ?_⟩)
      rw [List.cons_append, List.takeWhile_append_dropWhile, whole]

omit [DecidableEq Char] in
theorem Argument.given (argument : quoting.Argument shown value rest) : shown ≠ [] := by
  cases argument <;> exact List.cons_ne_nil _ _

theorem extract_shorter (found : quoting.extract stream = some (value, rest)) :
    rest.length < stream.length := by
  rcases begins quoting stream with gap | ⟨blanks, shown, word, others, gap, argument, rfl⟩ |
    ⟨blanks, body, gap, unclosed, rfl⟩
  · cases found.symm.trans (extract_gap gap)
  · have same := Option.some.inj (found.symm.trans (extract_argument gap argument))
    obtain ⟨rfl, rfl⟩ := Prod.mk.inj same
    have given := List.length_pos_iff.mpr argument.given
    simp only [List.length_append]
    omega
  · cases found.symm.trans (extract_unterminated gap unclosed)

variable (quoting) in
/-- Arguments as long as they can be taken. -/
def extractAll (stream : List Char) : List (List Char) :=
  match _found : quoting.extract stream with
  | none => []
  | some (value, rest) => value :: extractAll rest
termination_by stream.length
decreasing_by exact extract_shorter (by assumption)

theorem extractAll_none (ended : quoting.extract stream = none) : quoting.extractAll stream = [] := by
  rw [extractAll.eq_def]
  split
  · rfl
  · rename_i found
    cases ended.symm.trans found

theorem extractAll_some (found : quoting.extract stream = some (value, rest)) :
    quoting.extractAll stream = value :: quoting.extractAll rest := by
  rw [extractAll.eq_def]
  split
  · rename_i ended
    cases ended.symm.trans found
  · rename_i found'
    obtain ⟨rfl, rfl⟩ := Prod.mk.inj (Option.some.inj (found.symm.trans found'))
    rfl

end Extraction

section Splitting
variable {quoting : Quoting Char} {stream : List Char} {begun other : List (Begun Char)}

/-- The values of the arguments that are complete. -/
def values (begun : List (Begun Char)) : List (List Char) :=
  begun.filterMap fun
    | .complete value => some value
    | .unterminated _ => none

theorem extractAll_splits (splits : quoting.Splits stream begun) :
    quoting.extractAll stream = values begun := by
  induction splits with
  | gap gap => exact extractAll_none (extract_gap gap)
  | argument gap argument _ ih =>
    rw [extractAll_some (extract_argument gap argument), ih]
    rfl
  | unterminated gap unclosed => exact extractAll_none (extract_unterminated gap unclosed)

theorem splits_exists (quoting : Quoting Char) (stream : List Char) :
    ∃ begun, quoting.Splits stream begun := by
  induction length : stream.length using Nat.strong_induction_on generalizing stream with
  | _ length ih =>
    subst length
    rcases begins quoting stream with gap | ⟨blanks, shown, value, rest, gap, argument, rfl⟩ |
      ⟨blanks, body, gap, unclosed, rfl⟩
    · exact ⟨[], .gap gap⟩
    · have shorter := extract_shorter (extract_argument gap argument)
      obtain ⟨begun, splits⟩ := ih _ shorter rest rfl
      exact ⟨_, .argument gap argument splits⟩
    · exact ⟨_, .unterminated gap unclosed⟩

omit [DecidableEq Char] in
private theorem gap_solid {ch : Char} {blanks rest : List Char} (gap : quoting.Gap (blanks ++ ch :: rest))
    (solid : quoting.blank ch = false) : False := by
  have blank := gap ch (List.mem_append_right _ List.mem_cons_self)
  cases blank.symm.trans solid

theorem splits_unique (splits : quoting.Splits stream begun) (others : quoting.Splits stream other) :
    begun = other := by
  induction splits generalizing other with
  | gap gap =>
    cases others with
    | gap => rfl
    | argument front argument =>
      cases (extract_gap gap).symm.trans (extract_argument front argument)
    | unterminated => exact (gap_solid gap quoting.solid).elim
  | @argument blanks shown value rest _ gap argument _ ih =>
    have found := extract_argument gap argument
    generalize blanks ++ (shown ++ rest) = whole at found others
    cases others with
    | gap gap => cases found.symm.trans (extract_gap gap)
    | argument front argument' splits =>
      have same := Option.some.inj (found.symm.trans (extract_argument front argument'))
      obtain ⟨rfl, rfl⟩ := Prod.mk.inj same
      rw [ih splits]
    | unterminated front unclosed => cases found.symm.trans (extract_unterminated front unclosed)
  | @unterminated blanks body gap unclosed =>
    have ended := extract_unterminated gap unclosed
    have start := dropWhile_gap gap quoting.solid body
    generalize blanks ++ quoting.delim :: body = whole at ended start others
    cases others with
    | gap gap =>
      cases start.symm.trans (dropWhile_blank gap)
    | argument front argument => cases ended.symm.trans (extract_argument front argument)
    | unterminated front =>
      rw [dropWhile_gap front quoting.solid] at start
      cases start
      rfl

omit [DecidableEq Char] in
theorem values_complete (all : List (List Char)) : values (all.map Begun.complete) = all := by
  induction all with
  | nil => rfl
  | cons value rest ih => exact congrArg (value :: ·) ih

omit [DecidableEq Char] in
/-- The values are all there is just where nothing is left open. -/
theorem values_all_iff (begun : List (Begun Char)) :
    begun = (values begun).map Begun.complete ↔ ∀ body, Begun.unterminated body ∉ begun := by
  induction begun with
  | nil => simp [values]
  | cons first rest ih =>
    cases first with
    | complete value => simpa [values] using ih
    | unterminated body =>
      refine iff_of_false (fun same => ?_) fun none => none body List.mem_cons_self
      have member : Begun.unterminated body ∈ (values (.unterminated body :: rest)).map Begun.complete :=
        same ▸ List.mem_cons_self
      obtain ⟨value, _, other⟩ := List.mem_map.mp member
      cases other

private theorem body_render (quoting : Quoting Char) (value : List Char) :
    quoting.Body (value.flatMap fun ch =>
      if ch = quoting.escape ∨ ch = quoting.delim then [quoting.escape, ch] else [ch]) value := by
  induction value with
  | nil => exact .nil
  | cons ch rest ih =>
    rw [List.flatMap_cons]
    split
    · exact .escaped ih
    · rename_i literal
      obtain ⟨notEscape, notDelim⟩ := not_or.mp literal
      exact .plain notEscape notDelim ih

variable (quoting) in
/-- Renderings of some values, each behind some blanks. -/
inductive Spaced : List (List Char) → List Char → Prop where
  | nil (gap : quoting.Gap blanks) : Spaced [] blanks
  | cons (gap : quoting.Gap blanks) (given : blanks ≠ []) (rest : Spaced others shown) :
      Spaced (value :: others) (blanks ++ (quoting.render value ++ shown))

theorem Spaced.splits {all : List (List Char)} (spaced : quoting.Spaced all stream) :
    quoting.Splits stream (all.map Begun.complete) := by
  induction spaced with
  | nil gap => exact .gap gap
  | cons gap _ _ ih => exact .argument gap (.quoted (body_render quoting _)) ih

end Splitting

end Quoting

end LibFtp.Text
