import LibFtp.Client.Footprint
import Mathlib.Logic.Function.Basic

/-! The local files under the program. A path names a directory entry, which may be a symbolic
link: to look for a file and to create one go through the link, to remove acts on the link. -/

namespace LibFtp

open Effect

/-- What a directory entry holds. A link holds the path that it leads to. -/
inductive Node where
  | file (content : Bytes)
  | directory
  | link (path : Bytes)
  deriving DecidableEq, Repr

/-- What the entries hold. -/
abbrev Files := Bytes → Option Node

/-- How the file system reads paths: the entry that a path names, by way of its directories, and
how many links in a row are followed. -/
structure Naming where
  entry : Bytes → Bytes
  limit : Nat

namespace Naming

/-- The entry at the end of the links, unless there are too many of them. -/
def follow (naming : Naming) (files : Files) (links : Nat) (entry : Bytes) : Option Bytes :=
  match files entry with
  | some (.link path) =>
    match links with
    | 0 => none
    | links + 1 => follow naming files links (naming.entry path)
  | _ => some entry

def resolve (naming : Naming) (files : Files) (path : Bytes) : Option Bytes :=
  naming.follow files naming.limit (naming.entry path)

/-- The entry is there, and it is no link that leads nowhere. -/
def Leads (naming : Naming) (files : Files) (entry : Bytes) : Prop :=
  ∃ target, naming.follow files naming.limit entry = some target ∧ files target ≠ none

variable {naming : Naming} {files : Files} {entry target path : Bytes} {links limit : Nat}

theorem follow_other (other : ∀ path, files entry ≠ some (.link path)) (links : Nat) :
    naming.follow files links entry = some entry := by
  unfold follow
  split
  · rename_i link
    exact absurd link (other _)
  · rfl

theorem follow_none (link : files entry = some (.link path)) :
    naming.follow files 0 entry = none := by
  unfold follow
  simp only [link]

theorem follow_link (link : files entry = some (.link path)) (links : Nat) :
    naming.follow files (links + 1) entry = naming.follow files links (naming.entry path) := by
  conv_lhs => unfold follow
  simp only [link]

theorem follow_mono (found : naming.follow files links entry = some target) (more : links ≤ limit) :
    naming.follow files limit entry = some target := by
  induction links generalizing entry limit with
  | zero =>
    have other (path : Bytes) : files entry ≠ some (.link path) := by
      intro link
      rw [follow_none link] at found
      cases found
    rw [follow_other other] at found ⊢
    exact found
  | succ links ih =>
    by_cases link : ∃ path, files entry = some (.link path)
    · obtain ⟨path, link⟩ := link
      obtain ⟨further, rfl⟩ := Nat.exists_eq_add_of_le more
      rw [follow_link link] at found
      rw [Nat.add_right_comm, follow_link link]
      exact ih found (Nat.le_add_right _ _)
    · have other (path : Bytes) : files entry ≠ some (.link path) := fun same => link ⟨path, same⟩
      rw [follow_other other] at found ⊢
      exact found

/-- The links are followed to something else than a link. -/
theorem follow_end (found : naming.follow files links entry = some target) (path : Bytes) :
    files target ≠ some (.link path) := by
  induction links generalizing entry with
  | zero =>
    have other (path : Bytes) : files entry ≠ some (.link path) := by
      intro link
      rw [follow_none link] at found
      cases found
    rw [follow_other other] at found
    cases found
    exact other path
  | succ links ih =>
    by_cases link : ∃ path, files entry = some (.link path)
    · obtain ⟨path, link⟩ := link
      rw [follow_link link] at found
      exact ih found
    · have other (path : Bytes) : files entry ≠ some (.link path) := fun same => link ⟨path, same⟩
      rw [follow_other other] at found
      cases found
      exact other path

/-- What is not a link leads to itself. -/
theorem leads_other (held : files entry ≠ none) (other : ∀ path, files entry ≠ some (.link path)) :
    naming.Leads files entry :=
  ⟨entry, follow_other other _, held⟩

theorem Leads.present (leads : naming.Leads files entry) : files entry ≠ none := by
  intro absent
  obtain ⟨target, found, held⟩ := leads
  rw [follow_other (by simp [absent])] at found
  cases found
  exact held absent

/-- A name that leads somewhere leads there as long as what leads somewhere is kept. -/
theorem follow_kept {others : Files}
    (kept : ∀ entry, naming.Leads files entry → others entry = files entry)
    (found : naming.follow files links entry = some target) (held : files target ≠ none)
    (within : links ≤ naming.limit) : naming.follow others links entry = some target := by
  have same : others entry = files entry := kept entry ⟨target, follow_mono found within, held⟩
  induction links generalizing entry with
  | zero =>
    have other (path : Bytes) : files entry ≠ some (.link path) := by
      intro link
      rw [follow_none link] at found
      cases found
    rw [follow_other other] at found
    rw [follow_other fun path => same.symm ▸ other path]
    exact found
  | succ links ih =>
    by_cases link : ∃ path, files entry = some (.link path)
    · obtain ⟨path, link⟩ := link
      rw [follow_link link] at found
      rw [follow_link (same.trans link)]
      have further : naming.follow files naming.limit (naming.entry path) = some target :=
        follow_mono found (Nat.le_of_succ_le within)
      exact ih found (Nat.le_of_succ_le within) (kept _ ⟨target, further, held⟩)
    · have other (path : Bytes) : files entry ≠ some (.link path) := fun same => link ⟨path, same⟩
      rw [follow_other other] at found
      rw [follow_other fun path => same.symm ▸ other path]
      exact found

/-- While what leads somewhere is kept, a name that leads nowhere has led nowhere before. -/
theorem leads_kept {others : Files}
    (kept : ∀ entry, naming.Leads files entry → others entry = files entry)
    (found : naming.follow others naming.limit entry = some target) (absent : others target = none) :
    ¬ naming.Leads files entry := by
  rintro ⟨goal, led, held⟩
  have again := follow_kept kept led held le_rfl
  obtain rfl : target = goal := Option.some.inj (found.symm.trans again)
  have same := kept target (leads_other held (follow_end led))
  exact held (same.symm.trans absent)

end Naming

/-- The local files, and the one of them that is written to. -/
structure Disk where
  files : Files
  target : Option Bytes

namespace Disk

def append (disk : Disk) (data : Bytes) : Disk :=
  match disk.target with
  | none => disk
  | some entry =>
    match disk.files entry with
    | some (.file content) =>
      { disk with files := Function.update disk.files entry (some (.file (content ++ data))) }
    | _ => disk

/-- The calls of the program are all that happens to the files. A write that fails may have
written something. -/
def monitor (naming : Naming) : Monitor boundary Disk where
  step before event after :=
    match event with
    | ⟨.fileExists path, .ok found⟩ =>
      (∃ entry, naming.resolve before.files path = some entry ∧
        found = (before.files entry).isSome) ∧ after = before
    | ⟨.fileCreate path, true⟩ =>
      ∃ entry, naming.resolve before.files path = some entry ∧
        after = ⟨Function.update before.files entry (some (.file [])), some entry⟩
    | ⟨.fileRemove path, none⟩ =>
      after = { before with files := Function.update before.files (naming.entry path) none }
    | ⟨.sinkWrite data, none⟩ => after = before.append data
    | ⟨.sinkWrite _, some _⟩ | ⟨.sinkFlush, some _⟩ => ∃ data, after = before.append data
    | _ => after = before

/-- A question that neither makes nor removes a file. -/
def Unfiled (query : Boundary.Query) : Prop :=
  ∀ path, query ≠ .fileCreate path ∧ query ≠ .fileRemove path

variable {naming : Naming}

/-- Such questions add to what is written to, at most. -/
theorem unfiled_step {event : BoundaryEvent} {before after : Disk} (unfiled : Unfiled event.query)
    (step : (monitor naming).step before event after) :
    after = before ∨ ∃ data, after = before.append data := by
  obtain ⟨query, answer⟩ := event
  cases query with
  | fileCreate created => exact absurd rfl (unfiled created).1
  | fileRemove removed => exact absurd rfl (unfiled removed).2
  | fileExists asked =>
    cases answer with
    | error ec => exact .inl step
    | ok found => exact .inl step.2
  | sinkWrite data =>
    cases answer with
    | none => exact .inr ⟨data, step⟩
    | some error => exact .inr step
  | sinkFlush =>
    cases answer with
    | none => exact .inl step
    | some error => exact .inr step
  | _ => exact .inl step

/-- A file stands beside what there was. -/
structure Beside (files : Files) (entry : Bytes) (disk : Disk) : Prop where
  target : disk.target = some entry
  found : ∃ content, disk.files entry = some (.file content)
  others : ∀ other, other ≠ entry → disk.files other = files other

variable {files : Files} {entry : Bytes} {disk : Disk}

theorem Beside.append (beside : Beside files entry disk) (data : Bytes) :
    Beside files entry (disk.append data) := by
  obtain ⟨contents, target⟩ := disk
  obtain ⟨rfl, ⟨content, found⟩, others⟩ := beside
  have found : contents entry = some (.file content) := found
  simp only [Disk.append, found]
  constructor
  · rfl
  · exact ⟨content ++ data, Function.update_self _ _ _⟩
  · intro other different
    exact (Function.update_of_ne different _ _).trans (others other different)

theorem Beside.changed (beside : Beside files entry disk) (absent : files entry = none) :
    disk.files ≠ files := by
  intro same
  obtain ⟨content, found⟩ := beside.found
  rw [same, absent] at found
  cases found

theorem beside_undisturbed {event : BoundaryEvent} {after : Disk} (unfiled : Unfiled event.query)
    (beside : Beside files entry disk) (step : (monitor naming).step disk event after) :
    Beside files entry after := by
  rcases unfiled_step unfiled step with rfl | ⟨data, rfl⟩
  · exact beside
  · exact beside.append data

private theorem unfiled_negotiating : Client.Negotiating Unfiled where
  link := by
    intro layer query link path
    constructor
    · rintro rfl
      cases link with
      | closing closing => cases closing
    · rintro rfl
      cases link with
      | closing closing => cases closing
  written _ _ _ := ⟨nofun, nofun⟩
  missed _ _ _ := ⟨nofun, nofun⟩
  requested _ _ _ := ⟨nofun, nofun⟩
  heard _ _ _ := ⟨nofun, nofun⟩
  plumbing := by
    intro query plumbing path
    cases plumbing <;> exact ⟨nofun, nofun⟩
  dialled _ _ := ⟨nofun, nofun⟩
  accepts _ := ⟨nofun, nofun⟩
  localEndpoint _ := ⟨nofun, nofun⟩
  remoteEndpoint _ := ⟨nofun, nofun⟩

variable (naming files entry) in
/-- No operation of the client makes a file or removes one. -/
theorem beside_carries : Client.Carries (monitor naming) (fun _ => Beside files entry)
    (fun _ => Beside files entry) (fun _ => True) where
  stops _ _ beside := beside
  quiet query answer state ghost after quiet beside step := by
    have unfiled : Unfiled query := by
      intro path
      cases quiet <;> exact ⟨nofun, nofun⟩
    exact beside_undisturbed unfiled beside step
  exchange command _ :=
    (unfiled_negotiating.processCommand command).keeps fun _ _ _ => beside_undisturbed
  receive := unfiled_negotiating.recv.keeps fun _ _ _ => beside_undisturbed

end Disk

end LibFtp
