import DashboardExport.Proofs.Fallible
import DashboardExport.Storage.FileStore

/-!
# Files that were written

Writing a file puts it where its path leads to, which was no directory: empty when it is
opened, and then with all of its contents or, if the writing is broken off, with a part of
them (`fill_eq_iff`).  Whatever it holds afterwards, it was put there (`Puts`).  A path is
walked through directories, so every path that was resolved before leads to the same place
as long as these stay (`resolve_of_directoriesStay`): the file that was put is read back
(`Puts.read`), and a file somewhere else is what it was (`Puts.read_of_ne`).

The files of a directory are entries of the place that the directory's path leads to
(`eq_concat_of_resolve_child`), so they are in different places when their names are
different (`ne_of_resolve_child`), as long as no name leads out of the directory again.
-/

set_option autoImplicit false

namespace DashboardExport.Storage

namespace FileStore

variable {store after : FileStore} {location : Location} {contents : List UInt8} {path : Path}

theorem enter_eq_ok_iff :
    store.enter location = .ok () ↔ store.find? location = some .directory := by
  rw [enter]
  cases store.find? location with
  | none => simp
  | some stored => cases stored <;> simp

theorem fromSystem_of_enter {fault : SystemFault} (refused : store.enter location = .error fault) :
    fault.fromSystem = true := by
  rw [enter] at refused
  split at refused
  · cases refused
  · cases refused
    rfl
  · cases refused
    rfl

theorem fromSystem_of_permitted {fault : SystemFault}
    (refused : store.permitted location = .error fault) : fault.fromSystem = true := by
  rw [permitted] at refused
  split at refused
  · cases refused
    rfl
  · cases refused

/-- A file can be written where there is no directory. -/
theorem find?_ne_of_writable (writable : store.writable location = .ok ()) :
    store.find? location ≠ some .directory := by
  intro directory
  rw [FileStore.writable, directory] at writable
  cases writable

theorem read_eq_ok_iff :
    store.read path = .ok contents ↔
      ∃ location, store.resolve path = .ok location ∧
        store.find? location = some (.file contents) := by
  rw [read]
  cases store.resolve path with
  | error fault => simp
  | ok location =>
      cases found : store.find? location with
      | none => simp [found]
      | some stored => cases stored <;> simp [found]

/-! ## Walks -/

/-- A part is walked from a directory: up, or down to the entry of that name. -/
theorem walk_cons_eq_ok_iff {start target : Location} {part : String} {rest : List String} :
    store.walk start (part :: rest) = .ok target ↔
      store.find? start = some .directory ∧
        if part = ".." then store.walk start.dropLast rest = .ok target
        else part.utf8ByteSize ≤ nameLimit ∧ store.walk (start ++ [part]) rest = .ok target := by
  rw [walk, ← enter_eq_ok_iff]
  cases store.enter start with
  | error fault => simp
  | ok done =>
      by_cases up : part = ".."
      · simp [up]
      · simp only [beq_iff_eq, up, if_false, true_and, ← Nat.not_lt]
        split_ifs with long
        · simp [long]
        · simp [long]

theorem walk_append_eq_ok_iff {start target : Location} {parts more : List String} :
    store.walk start (parts ++ more) = .ok target ↔
      ∃ middle, store.walk start parts = .ok middle ∧ store.walk middle more = .ok target := by
  induction parts generalizing start with
  | nil => simp [walk]
  | cons part rest ih =>
      rw [List.cons_append, walk_cons_eq_ok_iff]
      simp only [walk_cons_eq_ok_iff]
      split_ifs with up
      · rw [ih]
        simp only [and_assoc, exists_and_left]
      · rw [ih]
        simp only [and_assoc, exists_and_left]

/-- The last part that is walked ends the location, unless it leads upwards. -/
theorem eq_concat_of_walk_concat {name : String} (down : name ≠ "..") {start target : Location}
    {parts : List String} (walked : store.walk start (parts ++ [name]) = .ok target) :
    ∃ middle, store.walk start parts = .ok middle ∧ target = middle ++ [name] := by
  obtain ⟨middle, first, last⟩ := walk_append_eq_ok_iff.1 walked
  obtain ⟨_, last⟩ := walk_cons_eq_ok_iff.1 last
  rw [if_neg down] at last
  exact ⟨middle, first, (Except.ok.inj last.2).symm⟩

/-- The location that the parts of a path are walked from. -/
def origin (store : FileStore) : Anchor → Location
  | .workingDirectory => store.workingDirectory
  | .root => []
  | .doubleRoot => []

/-- A path that the system takes: it can be encoded, it is not too long, and it is without the
character that ends texts in the system. -/
structure Lookable (path : Path) : Prop where
  encodable : ∀ c ∈ path.text.toList, Text.isUnnameable c = false
  noNul : (path.parts.any fun part => part.toList.contains (Char.ofNat 0)) = false
  short : ¬ pathLimit < path.text.utf8ByteSize

theorem resolve_eq_ok_iff :
    store.resolve path = .ok location ↔
      Lookable path ∧ store.walk (store.origin path.anchor) path.parts = .ok location := by
  obtain ⟨anchor, parts⟩ := path
  rw [resolve]
  cases unencodable : Text.unencodable? Text.isUnnameable (⟨anchor, parts⟩ : Path).text.toList with
  | some fault =>
      refine iff_of_false (by simp) fun resolved => ?_
      rw [Text.unencodable?_eq_none_iff.2 resolved.1.encodable] at unencodable
      cases unencodable
  | none =>
      dsimp only
      split_ifs with nul long
      · refine iff_of_false (by simp) fun resolved => ?_
        rw [resolved.1.noNul] at nul
        cases nul
      · exact iff_of_false (by simp) fun resolved => resolved.1.short long
      · rw [and_iff_right
          ⟨Text.unencodable?_eq_none_iff.1 unencodable, by simpa using nul, long⟩]
        cases anchor with
        | workingDirectory => exact Iff.rfl
        | root => exact Iff.rfl
        | doubleRoot => exact Iff.rfl

/-! ## Paths after a change -/

/-- The later store has every directory of the earlier one, and paths start from the same place. -/
structure DirectoriesStay (before after : FileStore) : Prop where
  workingDirectory : after.workingDirectory = before.workingDirectory
  stay : ∀ location : Location,
    before.find? location = some .directory → after.find? location = some .directory

theorem DirectoriesStay.refl (store : FileStore) : DirectoriesStay store store :=
  ⟨rfl, fun _ directory => directory⟩

theorem DirectoriesStay.trans {first second third : FileStore}
    (earlier : DirectoriesStay first second) (later : DirectoriesStay second third) :
    DirectoriesStay first third where
  workingDirectory := later.workingDirectory.trans earlier.workingDirectory
  stay := fun location directory => later.stay location (earlier.stay location directory)

/-- What is put where no directory is hides no directory. -/
theorem directoriesStay_put (noDirectory : store.find? location ≠ some .directory)
    (stored : Stored) : DirectoriesStay store (store.put location stored) where
  workingDirectory := rfl
  stay := by
    intro other directory
    have below : location ≠ [] := by
      rintro rfl
      exact noDirectory rfl
    have elsewhere : other ≠ location := by
      rintro rfl
      exact noDirectory directory
    rw [find?_put store below, if_neg elsewhere]
    exact directory

theorem walk_of_directoriesStay (stay : DirectoriesStay store after) {start target : Location}
    {parts : List String} (walked : store.walk start parts = .ok target) :
    after.walk start parts = .ok target := by
  induction parts generalizing start with
  | nil => exact walked
  | cons part rest ih =>
      rw [walk_cons_eq_ok_iff] at walked ⊢
      refine ⟨stay.stay start walked.1, ?_⟩
      split_ifs with up
      · rw [if_pos up] at walked
        exact ih walked.2
      · rw [if_neg up] at walked
        exact ⟨walked.2.1, ih walked.2.2⟩

/-- **A path leads to the same place as long as directories stay.** -/
theorem resolve_of_directoriesStay (stay : DirectoriesStay store after) {target : Location}
    (resolved : store.resolve path = .ok target) : after.resolve path = .ok target := by
  rw [resolve_eq_ok_iff] at resolved ⊢
  refine ⟨resolved.1, ?_⟩
  have same : after.origin path.anchor = store.origin path.anchor := by
    cases path.anchor with
    | workingDirectory => exact stay.workingDirectory
    | root => rfl
    | doubleRoot => rfl
  rw [same]
  exact walk_of_directoriesStay stay resolved.2

/-! ## Writing -/

theorem openFile_eq_ok_iff {opened : FileStore} :
    store.openFile path = .ok (opened, location) ↔
      store.resolve path = .ok location ∧ store.writable location = .ok () ∧
        opened = store.put location (.file []) := by
  rw [openFile]
  cases store.resolve path with
  | error fault => simp
  | ok place =>
      simp only [Except.ok.injEq]
      constructor
      · intro ready
        split at ready
        · cases ready
        · rename_i writable
          cases ready
          exact ⟨rfl, writable, rfl⟩
      · rintro ⟨rfl, writable, rfl⟩
        rw [writable]

/-- Contents get into a file as a whole or, if the writing is broken off, in part. -/
theorem fill_eq_iff {fault? : Option DeviceFault} :
    store.fill location contents = (after, fault?) ↔
      (store.breakOff? location = none ∧ fault? = none ∧
        after = store.put location (.file contents)) ∨
      ∃ fault kept, store.breakOff? location = some (fault, kept) ∧ fault? = some fault ∧
        after = store.put location (.file (contents.take kept)) := by
  rw [fill]
  rcases store.breakOff? location with _ | ⟨fault, kept⟩
  · simp [eq_comm, and_comm]
  · simp only [Prod.mk.injEq, reduceCtorEq, false_and, false_or, Option.some.injEq]
    constructor
    · rintro ⟨rfl, rfl⟩
      exact ⟨fault, kept, ⟨rfl, rfl⟩, rfl, rfl⟩
    · rintro ⟨_, _, ⟨rfl, rfl⟩, rfl, rfl⟩
      exact ⟨rfl, rfl⟩

/-- What is put twice in one place is what is put there last. -/
theorem put_put (store : FileStore) (location : Location) (first second : Stored) :
    (store.put location first).put location second = store.put location second := by
  have entries (others : List (Location × Stored)) :
      putEntry location second (putEntry location first others) =
        putEntry location second others := by
    induction others with
    | nil => simp [putEntry]
    | cons head rest ih =>
        obtain ⟨here, old⟩ := head
        by_cases same : here = location
        · simp [putEntry, same]
        · simp [putEntry, same, ih]
  rw [put, put, put, entries]

/-- The later store holds other contents where a path leads to a file that can be opened, and is
otherwise the earlier one. -/
def Puts (store : FileStore) (path : Path) (contents : List UInt8) (after : FileStore) : Prop :=
  ∃ location, store.resolve path = .ok location ∧ store.writable location = .ok () ∧
    after = store.put location (.file contents)

/-- A file that is opened and then filled holds what is kept of its contents. -/
theorem puts_of_fill {opened : FileStore} {fault? : Option DeviceFault}
    (ready : store.openFile path = .ok (opened, location))
    (filled : opened.fill location contents = (after, fault?)) :
    ∃ kept, kept <+: contents ∧ (fault? = none → kept = contents) ∧
      store.Puts path kept after := by
  obtain ⟨resolved, writable, rfl⟩ := openFile_eq_ok_iff.1 ready
  rcases fill_eq_iff.1 filled with ⟨_, _, rfl⟩ | ⟨fault, count, _, rfl, rfl⟩
  · exact ⟨contents, List.prefix_refl _, fun _ => rfl, location, resolved, writable,
      put_put _ _ _ _⟩
  · exact ⟨contents.take count, List.take_prefix _ _, nofun, location, resolved, writable,
      put_put _ _ _ _⟩

namespace Puts

/-- A path leads to the same place after a write. -/
theorem directoriesStay (written : store.Puts path contents after) :
    DirectoriesStay store after := by
  obtain ⟨location, _, writable, rfl⟩ := written
  exact directoriesStay_put (find?_ne_of_writable writable) _

/-- **A write changes the place that its path leads to, and no other.** -/
theorem find? (written : store.Puts path contents after) {location : Location}
    (resolved : store.resolve path = .ok location) (other : Location) :
    after.find? other = if other = location then some (.file contents) else store.find? other := by
  obtain ⟨place, found, writable, rfl⟩ := written
  cases found.symm.trans resolved
  have below : location ≠ [] := by
    rintro rfl
    exact find?_ne_of_writable writable rfl
  exact find?_put store below other _

/-- **A file that was written is read back.** -/
theorem read (written : store.Puts path contents after) : after.read path = .ok contents := by
  obtain ⟨location, resolved, _⟩ := id written
  have still := resolve_of_directoriesStay written.directoriesStay resolved
  refine read_eq_ok_iff.2 ⟨location, still, ?_⟩
  rw [written.find? resolved, if_pos rfl]

/-- **A write leaves the files in other places as they are.** -/
theorem read_of_ne (written : store.Puts path contents after) {other : Path}
    {old : List UInt8} (stored : store.read other = .ok old)
    (elsewhere : store.resolve other ≠ store.resolve path) : after.read other = .ok old := by
  obtain ⟨location, resolved, _⟩ := id written
  obtain ⟨place, found, held⟩ := read_eq_ok_iff.1 stored
  have differ : place ≠ location := by
    rintro rfl
    exact elsewhere (found.trans resolved.symm)
  have still := resolve_of_directoriesStay written.directoriesStay found
  refine read_eq_ok_iff.2 ⟨place, still, ?_⟩
  rw [written.find? resolved, if_neg differ]
  exact held

end Puts

/-! ## Faults -/

/-- Only a path that is no path gives a fault that the system does not report. -/
theorem fromSystem_of_walk {start : Location} {parts : List String} {fault : SystemFault}
    (refused : store.walk start parts = .error fault) : fault.fromSystem = true := by
  induction parts generalizing start with
  | nil => cases refused
  | cons part rest ih =>
      rw [walk] at refused
      cases entered : store.enter start with
      | error other =>
          rw [entered] at refused
          cases refused
          exact fromSystem_of_enter entered
      | ok done =>
          rw [entered] at refused
          dsimp only at refused
          split_ifs at refused with up long
          · exact ih refused
          · cases refused
            rfl
          · exact ih refused

theorem fromSystem_of_resolve (encodable : ∀ c ∈ path.text.toList, Text.isUnnameable c = false)
    (noNul : (path.parts.any fun part => part.toList.contains (Char.ofNat 0)) = false)
    {fault : SystemFault} (refused : store.resolve path = .error fault) :
    fault.fromSystem = true := by
  rw [resolve, Text.unencodable?_eq_none_iff.2 encodable, noNul] at refused
  dsimp only at refused
  rw [if_neg Bool.false_ne_true] at refused
  split_ifs at refused with long
  · cases refused
    rfl
  · cases anchor : path.anchor with
    | _ =>
        rw [anchor] at refused
        exact fromSystem_of_walk refused

theorem fromSystem_of_writable {fault : SystemFault}
    (refused : store.writable location = .error fault) : fault.fromSystem = true := by
  rw [writable] at refused
  split at refused
  · cases refused
    rfl
  · exact fromSystem_of_permitted refused
  · split at refused
    · rename_i entered
      cases refused
      exact fromSystem_of_enter entered
    · exact fromSystem_of_permitted refused

/-- **The system reports why a file cannot be opened**, if its path is one. -/
theorem fromSystem_of_openFile (encodable : ∀ c ∈ path.text.toList, Text.isUnnameable c = false)
    (noNul : (path.parts.any fun part => part.toList.contains (Char.ofNat 0)) = false)
    {error : SystemError} (refused : store.openFile path = .error error) :
    error.fault.fromSystem = true := by
  rw [openFile] at refused
  split at refused
  · rename_i unresolved
    cases refused
    exact fromSystem_of_resolve encodable noNul unresolved
  · split at refused
    · rename_i unwritable
      cases refused
      exact fromSystem_of_writable unwritable
    · cases refused

/-! ## Files of one directory -/

/-- **A child of a directory is an entry of the place that the directory's path leads to.** -/
theorem eq_concat_of_resolve_child {directory : Path} {name : String} (down : name ≠ "..")
    {base target : Location} (found : store.resolve directory = .ok base)
    (resolved : store.resolve (directory.child name) = .ok target) : target = base ++ [name] := by
  obtain ⟨middle, walked, rfl⟩ :=
    eq_concat_of_walk_concat down (resolve_eq_ok_iff.1 resolved).2
  cases walked.symm.trans (resolve_eq_ok_iff.1 found).2
  rfl

theorem getLast?_of_resolve_child {directory : Path} {name : String} (down : name ≠ "..")
    {target : Location} (resolved : store.resolve (directory.child name) = .ok target) :
    target.getLast? = some name := by
  obtain ⟨middle, _, rfl⟩ := eq_concat_of_walk_concat down (resolve_eq_ok_iff.1 resolved).2
  exact List.getLast?_concat

/-- **Files with different names are in different places of a directory.** -/
theorem ne_of_resolve_child {directory : Path} {name other : String} (down : name ≠ "..")
    (down' : other ≠ "..") (differ : name ≠ other) {target : Location}
    (resolved : store.resolve (directory.child name) = .ok target) :
    store.resolve (directory.child name) ≠ store.resolve (directory.child other) := by
  intro same
  rw [resolved] at same
  have last := getLast?_of_resolve_child down resolved
  rw [getLast?_of_resolve_child down' same.symm] at last
  exact differ (Option.some.inj last).symm

end FileStore

end DashboardExport.Storage
