import LibFtp.Control.Receive
import LibFtp.Detail.Script

/-! The network as the control connection sees it: a stream of bytes that reads
deliver from the front, in pieces of the network's choosing. -/

namespace LibFtp

open Effect

/-- How one call changes what is still to be delivered: reads take from the
front, and end only when nothing is left. -/
def Delivers (left : Bytes) (event : BoundaryEvent) (after : Bytes) : Prop :=
  match event with
  | ⟨.readSome .control _ _, .ok chunk⟩ => left = chunk.data ++ after
  | ⟨.readSome .control _ maxSize, .error _⟩ => (left = [] ∨ maxSize = 0) ∧ after = left
  | _ => after = left

def deliver : Monitor boundary Bytes := ⟨Delivers⟩

/-- Surroundings that deliver on the control connection what `view` says is
still to come. -/
abbrev Network {World : Type} (host : Host boundary World) (view : World → Bytes) : Prop :=
  host.Follows deliver view

def controlRead : BoundaryEvent → Option Bytes
  | ⟨.readSome .control _ _, .ok chunk⟩ => some chunk.data
  | _ => none

/-- The pieces read from the control connection. -/
def reads (events : List BoundaryEvent) : List Bytes := events.filterMap controlRead

namespace Network

/-- The network that fills every read; whatever else is called succeeds. -/
def full : Host boundary Bytes where
  respond
  | .readSome .control _ maxSize, left =>
    if room : left ≠ [] ∧ 0 < maxSize then
      (.ok ⟨left.take maxSize, by simp [room.1]; omega, List.length_take_le ..⟩, left.drop maxSize)
    else (.error .eof, left)
  | query, left => ((Script.respond query (.ofReplies [])).1, left)

theorem full_network : Network full id where
  step query left := by
    cases query with
    | readSome channel layer maxSize =>
      cases channel with
      | data => rfl
      | control =>
        by_cases room : left ≠ [] ∧ 0 < maxSize
        · simp [full, deliver, Delivers, room]
        · simp only [full, deliver, Delivers, dif_neg room, id]
          refine ⟨?_, True.intro⟩
          by_contra neither
          exact room ⟨fun none => neither (.inl none), by omega⟩
    | _ => rfl

/-- The network that delivers at most so many bytes and one more with a read. -/
def cutting (size : Nat) : Host boundary Bytes where
  respond
  | .readSome .control _ maxSize, left =>
    if room : left ≠ [] ∧ 0 < maxSize then
      (.ok ⟨left.take (min maxSize (size + 1)), by simp [room.1]; omega,
        (List.length_take_le ..).trans (Nat.min_le_left ..)⟩, left.drop (min maxSize (size + 1)))
    else (.error .eof, left)
  | query, left => ((Script.respond query (.ofReplies [])).1, left)

theorem cutting_network (size : Nat) : Network (cutting size) id where
  step query left := by
    cases query with
    | readSome channel layer maxSize =>
      cases channel with
      | data => rfl
      | control =>
        by_cases room : left ≠ [] ∧ 0 < maxSize
        · simp [cutting, deliver, Delivers, room]
        · simp only [cutting, deliver, Delivers, dif_neg room, id]
          refine ⟨?_, True.intro⟩
          by_contra neither
          exact room ⟨fun none => neither (.inl none), by omega⟩
    | _ => rfl

end Network

end LibFtp
