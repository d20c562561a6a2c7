import LibFtp.Client.Negotiation
import LibFtp.Detail.Decimal
import LibFtp.Detail.Search

/-! The reply to EPSV. The delimiters around the port number are skipped unread. -/

namespace LibFtp.Client

/-- `(<d><d><d><tcp-port><d>)`, as the text between the outermost brackets. -/
def Delimited (statusString : Bytes) (port : UInt16) : Prop :=
  ∃ (d : Byte) (number : Bytes), Text.Between 40 41 statusString (d :: d :: d :: (number ++ [d])) ∧
    IsNumeral number ∧ decimal number = port.toNat

/-- A port number between four characters that are not all the same. -/
def Misdelimited (statusString : Bytes) : Prop :=
  ∃ (a b c d : Byte) (number : Bytes),
    Text.Between 40 41 statusString (a :: b :: c :: (number ++ [d])) ∧
      IsNumeral number ∧ decimal number < 2 ^ 16 ∧ ¬ (a = d ∧ b = d ∧ c = d)

/-- The position and the length of the one substring that is taken. -/
def epsvSpan (statusString : Bytes) : Option (Nat × Nat) := do
  let first ← find 40 statusString
  let last ← rfind 41 statusString
  if first ≥ last then none
  let first := first + 4
  let last := last - 1
  if first ≥ last then none
  some (first, last - first)

theorem tryParseEpsvReply_eq (reply : Reply) :
    tryParseEpsvReply reply = (do
      let (first, count) ← epsvSpan reply.statusString
      Utils.tryParseUint16 (substr reply.statusString first count)) := by
  simp only [tryParseEpsvReply, epsvSpan, bind]
  cases find 40 reply.statusString with
  | none => rfl
  | some first =>
    cases rfind 41 reply.statusString with
    | none => rfl
    | some last =>
      simp only [Option.bind_some]
      split
      · rfl
      · split
        · rfl
        · rfl

/-- What is taken lies inside the string. -/
theorem epsvSpan_inside {statusString : Bytes} {first count : Nat}
    (taken : epsvSpan statusString = some (first, count)) : first + count ≤ statusString.length := by
  simp only [epsvSpan, bind] at taken
  cases opens : find 40 statusString with
  | none => simp [opens] at taken
  | some opening =>
    cases closes : rfind 41 statusString with
    | none => simp [opens, closes] at taken
    | some closing =>
      have within : closing < statusString.length := by
        rw [rfind, Option.map_eq_some_iff] at closes
        obtain ⟨fromEnd, found, same⟩ := closes
        have inside : fromEnd < statusString.reverse.length := by
          rw [find, List.findIdx?_eq_some_iff_getElem] at found
          exact found.1
        rw [List.length_reverse] at inside
        omega
      simp only [opens, closes, Option.bind_some] at taken
      split at taken
      · cases taken
      · split at taken
        · cases taken
        · cases taken
          omega

private theorem epsv_between {front body back : Bytes} (opens : 40 ∉ front) (closes : 41 ∉ back)
    {reply : Reply} (same : reply.statusString = front ++ 40 :: (body ++ 41 :: back)) :
    tryParseEpsvReply reply = if 4 < body.length then
      Utils.tryParseUint16 ((body.drop 3).take (body.length - 4)) else none := by
  obtain ⟨first, last⟩ := brackets_found body opens closes
  rw [tryParseEpsvReply_eq, epsvSpan, same]
  simp only [first, last, bind, Option.bind_some]
  rw [if_neg (by omega)]
  by_cases long : 4 < body.length
  · have inner : substr (front ++ 40 :: (body ++ 41 :: back)) (front.length + 4)
        (front.length + 1 + body.length - 1 - (front.length + 4)) =
          (body.drop 3).take (body.length - 4) := by
      have skipped : (front ++ 40 :: (body ++ 41 :: back)).drop (front.length + 4) =
          body.drop 3 ++ 41 :: back := by
        rw [List.drop_append, List.drop_of_length_le (by omega), List.nil_append,
          Nat.add_sub_cancel_left, List.drop_succ_cons, List.drop_append_of_le_length (by omega)]
      rw [substr, skipped, List.take_append_of_le_length (by rw [List.length_drop]; omega)]
      congr 1
      omega
    rw [if_neg (by omega), if_pos long]
    exact congrArg Utils.tryParseUint16 inner
  · rw [if_pos (by omega), if_neg long]
    rfl

private theorem epsv_digits (a b c d : Byte) (number : Bytes) :
    ((a :: b :: c :: (number ++ [d])).drop 3).take ((a :: b :: c :: (number ++ [d])).length - 4) =
      number := by
  have short : (a :: b :: c :: (number ++ [d])).length - 4 = number.length := by simp
  rw [short, List.drop_succ_cons, List.drop_succ_cons, List.drop_succ_cons, List.drop_zero,
    List.take_left]

/-- The parser reads the number, whatever the four characters around it are. -/
theorem tryParseEpsvReply_iff (reply : Reply) (port : UInt16) :
    tryParseEpsvReply reply = some port ↔ ∃ (a b c d : Byte) (number : Bytes),
      Text.Between 40 41 reply.statusString (a :: b :: c :: (number ++ [d])) ∧
        IsNumeral number ∧ decimal number = port.toNat := by
  constructor
  · intro parsed
    by_cases found : ∃ body, Text.Between 40 41 reply.statusString body
    · obtain ⟨body, between⟩ := found
      obtain ⟨front, back, same, opens, closes⟩ := between
      rw [epsv_between opens closes same] at parsed
      split at parsed
      · rename_i long
        obtain ⟨a, b, c, rest, whole⟩ : ∃ a b c rest, body = a :: b :: c :: rest := by
          match body, long with
          | a :: b :: c :: rest, _ => exact ⟨a, b, c, rest, rfl⟩
        obtain ⟨number, d, ends⟩ : ∃ number d, rest = number ++ [d] := by
          rcases List.eq_nil_or_concat rest with none | ⟨number, d, ends⟩
          · rw [whole, none] at long
            exact absurd long (by simp)
          · exact ⟨number, d, ends.trans List.concat_eq_append⟩
        subst ends whole
        rw [epsv_digits] at parsed
        exact ⟨a, b, c, d, number, ⟨front, back, same, opens, closes⟩,
          (Utils.tryParseUint16_iff number port).mp parsed⟩
      · cases parsed
    · rw [tryParseEpsvReply_eq, epsvSpan] at parsed
      rcases bracketed_eq_none fun body between => found ⟨body, between⟩ with
        missing | missing | ⟨first, last, opens, closes, inverted⟩
      · simp [missing] at parsed
      · simp [missing, bind] at parsed
      · simp only [opens, closes, bind, Option.bind_some, if_pos inverted] at parsed
        cases parsed
  · intro ⟨a, b, c, d, number, ⟨front, back, same, opens, closes⟩, numeral, value⟩
    have long : 4 < (a :: b :: c :: (number ++ [d])).length := by
      have given := List.length_pos_iff.mpr numeral.1
      simp only [List.length_cons, List.length_append, List.length_nil]
      omega
    rw [epsv_between opens closes same, if_pos long, epsv_digits]
    exact (Utils.tryParseUint16_iff number port).mpr ⟨numeral, value⟩

/-- Where the delimiters are not mixed, a port that is read stands between equal ones. -/
theorem delimited_of_parsed {reply : Reply} {port : UInt16}
    (uniform : ¬ Misdelimited reply.statusString) (parsed : tryParseEpsvReply reply = some port) :
    Delimited reply.statusString port := by
  obtain ⟨a, b, c, d, number, between, numeral, value⟩ := (tryParseEpsvReply_iff reply port).mp parsed
  by_cases same : a = d ∧ b = d ∧ c = d
  · rw [same.1, same.2.1, same.2.2] at between
    exact ⟨d, number, between, numeral, value⟩
  · have small : decimal number < 2 ^ 16 := value ▸ port.toNat_lt
    exact absurd ⟨a, b, c, d, number, between, numeral, small, same⟩ uniform

/-- The parser is exact on every reply but those with mixed delimiters. What it takes from
the string is always inside. -/
theorem tryParseEpsvReply_exact (reply : Reply) :
    ((∀ port, tryParseEpsvReply reply = some port ↔ Delimited reply.statusString port) ↔
        ¬ Misdelimited reply.statusString) ∧
      tryParseEpsvReply reply = (do
        let (first, count) ← epsvSpan reply.statusString
        Utils.tryParseUint16 (substr reply.statusString first count)) ∧
      ∀ first count, epsvSpan reply.statusString = some (first, count) →
        first + count ≤ reply.statusString.length := by
  refine ⟨⟨?_, ?_⟩, tryParseEpsvReply_eq reply, fun _ _ => epsvSpan_inside⟩
  · intro exact ⟨a, b, c, d, number, between, numeral, small, mixed⟩
    have fits : decimal number = (UInt16.ofNat (decimal number)).toNat :=
      (UInt16.toNat_ofNat_of_lt small).symm
    have parsed := (tryParseEpsvReply_iff reply _).mpr ⟨a, b, c, d, number, between, numeral, fits⟩
    obtain ⟨e, number', between', _, _⟩ := (exact _).mp parsed
    have same := between.unique between'
    simp only [List.cons.injEq] at same
    obtain ⟨first, second, third, rest⟩ := same
    obtain ⟨_, last⟩ := List.append_inj' rest rfl
    obtain ⟨rfl⟩ : d = e := by simpa using last
    exact mixed ⟨first, second, third⟩
  · intro uniform port
    refine ⟨delimited_of_parsed uniform, fun delimited => ?_⟩
    obtain ⟨d, number, between, numeral, value⟩ := delimited
    exact (tryParseEpsvReply_iff reply port).mpr ⟨d, d, d, d, number, between, numeral, value⟩

/-- Four different characters around the number pass for delimiters. -/
theorem tryParseEpsvReply_mixed :
    tryParseEpsvReply ⟨229, text "229 Ok (abc6446x)"⟩ = some 6446 ∧
      ¬ Delimited (text "229 Ok (abc6446x)") 6446 := by
  refine ⟨by decide, fun ⟨d, number, between, _, _⟩ => ?_⟩
  have body : Text.Between 40 41 (text "229 Ok (abc6446x)") (text "abc6446x") :=
    ⟨text "229 Ok ", [], by decide, by decide, by decide⟩
  have same : d :: d :: d :: (number ++ [d]) = text "abc6446x" := between.unique body
  have first : d = 97 := (List.cons.inj same).1
  have second : d = 98 := (List.cons.inj (List.cons.inj same).2).1
  exact absurd (first.symm.trans second) (by decide)

end LibFtp.Client
