import DashboardExport.Proofs.Storage.FileStore

/-!
# Directories that were made

Making a directory with the directories above it adds directories where nothing stood, and
only on the way to its path, whether it succeeds or not.  When it succeeds the path leads to
a directory (`ensured_ensureDirectories`), and otherwise there is no directory
(`ensureDirectories_isSome_iff`).

A way that never goes upwards passes no entry of the directory that it leads to, so all of
these are what they were before (`DirectoriesMade.find?_child`).
-/

set_option autoImplicit false

namespace DashboardExport.Storage.FileStore

variable {store made : FileStore} {path : Path} {location : Location}

/-! ## One directory -/

theorem makeDirectory_eq_ok_iff :
    store.makeDirectory path = .ok made ↔
      ∃ location, store.resolve path = .ok location ∧ store.find? location = none ∧
        store.enter location.dropLast = .ok () ∧ store.permitted location = .ok () ∧
        made = store.put location .directory := by
  rw [makeDirectory]
  cases store.resolve path with
  | error fault => simp
  | ok location =>
      cases found : store.find? location with
      | some stored => simp [found]
      | none =>
          cases entered : store.enter location.dropLast with
          | error fault => simp [found, entered]
          | ok done =>
              cases permitted : store.permitted location with
              | error fault => simp [found, entered, permitted]
              | ok done => simp [found, entered, permitted, eq_comm]

theorem isDirectory_iff :
    store.isDirectory path = true ↔
      ∃ location, store.resolve path = .ok location ∧
        store.find? location = some .directory := by
  rw [isDirectory, at?]
  cases store.resolve path with
  | error fault => simp
  | ok location =>
      cases found : store.find? location with
      | none => simp [found]
      | some stored => cases stored <;> simp [found]

/-! ## Directories on the way to a path -/

/-- The later store is the earlier one with directories where nothing stood, on the way to a
path. -/
structure DirectoriesMade (path : Path) (before after : FileStore) : Prop where
  stay : DirectoriesStay before after
  entries : ∀ location : Location, after.find? location = before.find? location ∨
    before.find? location = none ∧ after.find? location = some .directory ∧
      ∃ parts, parts <+: path.parts ∧ after.resolve ⟨path.anchor, parts⟩ = .ok location

/-- A later store has at a location what an earlier one had, or a directory where nothing stood. -/
def KeptAt (before after : FileStore) (location : Location) : Prop :=
  after.find? location = before.find? location ∨
    before.find? location = none ∧ after.find? location = some .directory

namespace DirectoriesMade

theorem keptAt (way : DirectoriesMade path store made) (location : Location) :
    store.KeptAt made location := by
  rcases way.entries location with same | ⟨absent, directory, _⟩
  · exact .inl same
  · exact .inr ⟨absent, directory⟩

theorem refl (path : Path) (store : FileStore) : DirectoriesMade path store store :=
  ⟨.refl store, fun _ => .inl rfl⟩

/-- First the directories above a directory are made, then the directory itself. -/
theorem trans {anchor : Anchor} {parts above : List String} {first second third : FileStore}
    (earlier : DirectoriesMade ⟨anchor, above⟩ first second)
    (later : DirectoriesMade ⟨anchor, parts⟩ second third) (within : above <+: parts) :
    DirectoriesMade ⟨anchor, parts⟩ first third where
  stay := earlier.stay.trans later.stay
  entries := by
    intro location
    rcases earlier.entries location with same | ⟨absent, directory, way, partly, leads⟩
    · rw [← same]
      exact later.entries location
    · refine .inr ⟨absent, later.stay.stay location directory, way, partly.trans within, ?_⟩
      exact resolve_of_directoriesStay later.stay leads

end DirectoriesMade

/-- A directory that is made stands where its path leads to. -/
theorem directory_of_makeDirectory (done : store.makeDirectory path = .ok made) :
    DirectoriesMade path store made ∧ made.isDirectory path = true := by
  obtain ⟨place, resolved, absent, _, _, rfl⟩ := makeDirectory_eq_ok_iff.1 done
  have below : place ≠ [] := by
    rintro rfl
    cases absent
  have stay : DirectoriesStay store (store.put place .directory) :=
    directoriesStay_put (by rw [absent]; exact fun same => by cases same) _
  have leads := resolve_of_directoriesStay stay resolved
  have stands : (store.put place .directory).find? place = some .directory := by
    rw [find?_put store below, if_pos rfl]
  refine ⟨⟨stay, fun location => ?_⟩, isDirectory_iff.2 ⟨place, leads, stands⟩⟩
  by_cases here : location = place
  · subst here
    exact .inr ⟨absent, stands, path.parts, List.prefix_refl _, leads⟩
  · rw [find?_put store below, if_neg here]
    exact .inl rfl

/-- What ensuring a directory ends in: it only makes directories on the way, and the directory is
there unless there is an error. -/
structure Ensured (path : Path) (store : FileStore) (ended : FileStore × Option SystemError) :
    Prop where
  way : DirectoriesMade path store ended.1
  directory : ended.2 = none → ended.1.isDirectory path = true

theorem ensured_ensureDirectory (store : FileStore) (path : Path) :
    Ensured path store (store.ensureDirectory path) := by
  rw [ensureDirectory]
  cases done : store.makeDirectory path with
  | ok made =>
      obtain ⟨way, directory⟩ := directory_of_makeDirectory done
      exact ⟨way, fun _ => directory⟩
  | error error =>
      dsimp only
      split_ifs with directory
      · exact ⟨.refl path store, fun _ => directory⟩
      · exact ⟨.refl path store, fun none => by cases none⟩

/-- The directories above a directory are ensured first. -/
theorem ensured_ensureAll (store : FileStore) (anchor : Anchor) (reversed : List String) :
    Ensured ⟨anchor, reversed.reverse⟩ store (store.ensureAll anchor reversed) := by
  induction reversed with
  | nil => exact ensured_ensureDirectory store ⟨anchor, []⟩
  | cons part above ih =>
      have within : above.reverse <+: (part :: above).reverse := by
        rw [List.reverse_cons]
        exact List.prefix_append _ _
      rw [ensureAll]
      cases done : store.makeDirectory ⟨anchor, (part :: above).reverse⟩ with
      | ok made =>
          obtain ⟨way, directory⟩ := directory_of_makeDirectory done
          exact ⟨way, fun _ => directory⟩
      | error error =>
          dsimp only
          split_ifs with missing directory
          · rcases ended : store.ensureAll anchor above with ⟨made, _ | refused⟩
            · rw [ended] at ih
              have last := ensured_ensureDirectory made ⟨anchor, (part :: above).reverse⟩
              exact ⟨ih.way.trans last.way within, last.directory⟩
            · rw [ended] at ih
              exact ⟨ih.way.trans (.refl _ _) within, fun none => by cases none⟩
          · exact ⟨.refl _ store, fun _ => directory⟩
          · exact ⟨.refl _ store, fun none => by cases none⟩

/-- **Ensuring a directory with those above it adds directories on the way to it**, and nothing
else, even when there is an error. -/
theorem ensured_ensureDirectories (store : FileStore) (path : Path) :
    Ensured path store (store.ensureDirectories path) := by
  have ensured := ensured_ensureAll store path.anchor path.parts.reverse
  rw [List.reverse_reverse] at ensured
  exact ensured

/-! ## Directories that cannot be made -/

theorem text_of_ne_nil {anchor : Anchor} {parts : List String} (some : parts ≠ []) :
    (⟨anchor, parts⟩ : Path).text = Path.Anchor.text anchor ++ "/".intercalate parts := by
  rw [Path.text]
  simp [some]

/-- The text of a path that is not empty begins with the text of what is above it. -/
theorem text_concat {anchor : Anchor} {above : List String} {part : String} (some : above ≠ []) :
    (⟨anchor, above ++ [part]⟩ : Path).text =
      (⟨anchor, above⟩ : Path).text ++ ("/" ++ part) := by
  rw [text_of_ne_nil (by simp), text_of_ne_nil some,
    String.intercalate_append_of_ne_nil some (List.cons_ne_nil part []), String.append_assoc,
    String.append_assoc]
  rfl

/-- The text of a path has the characters of what is above it, a slash, and those of its last part.
-/
theorem mem_text_concat {anchor : Anchor} {above : List String} {part : String} {c : Char}
    (member : c ∈ (⟨anchor, above ++ [part]⟩ : Path).text.toList) :
    c ∈ (⟨anchor, above⟩ : Path).text.toList ∨ c = '/' ∨ c ∈ part.toList := by
  by_cases top : above = []
  · subst top
    rw [List.nil_append, text_of_ne_nil (List.cons_ne_nil part []), String.intercalate_singleton,
      String.toList_append, List.mem_append] at member
    refine .inr (member.imp (fun inAnchor => ?_) id)
    cases anchor with
    | workingDirectory => exact absurd inAnchor List.not_mem_nil
    | root => exact List.mem_singleton.1 inAnchor
    | doubleRoot => exact List.eq_of_mem_replicate (n := 2) inAnchor
  · rw [text_concat top, String.toList_append, String.toList_append, List.mem_append,
      List.mem_append] at member
    exact member.imp id (.imp List.mem_singleton.1 id)

/-- What is above a path that the system takes is one as well. -/
theorem Lookable.above {anchor : Anchor} {above : List String} {part : String}
    (lookable : Lookable ⟨anchor, above ++ [part]⟩) : Lookable ⟨anchor, above⟩ where
  encodable := by
    by_cases top : above = []
    · subst top
      refine Text.unencodable?_eq_none_iff.1 ?_
      cases anchor <;> decide
    · intro c member
      have encodable := lookable.encodable
      rw [text_concat top, String.toList_append] at encodable
      exact encodable c (List.mem_append_left _ member)
  noNul := by
    have noNul := lookable.noNul
    rw [List.any_append, Bool.or_eq_false_iff] at noNul
    exact noNul.1
  short := by
    by_cases top : above = []
    · subst top
      cases anchor <;> decide
    · have short := lookable.short
      rw [text_concat top] at short
      simp only [String.utf8ByteSize_append] at short
      omega

/-- A directory stands in a directory. -/
theorem isDirectory_above {anchor : Anchor} {above : List String} {part : String}
    (directory : store.isDirectory ⟨anchor, above ++ [part]⟩ = true) :
    store.isDirectory ⟨anchor, above⟩ = true := by
  obtain ⟨location, resolved, _⟩ := isDirectory_iff.1 directory
  obtain ⟨lookable, walked⟩ := resolve_eq_ok_iff.1 resolved
  obtain ⟨middle, first, last⟩ := walk_append_eq_ok_iff.1 walked
  exact isDirectory_iff.2 ⟨middle, resolve_eq_ok_iff.2 ⟨lookable.above, first⟩,
    (walk_cons_eq_ok_iff.1 last).1⟩

theorem isDirectory_of_ensureDirectory {error : SystemError}
    (refused : store.ensureDirectory path = (made, some error)) :
    made.isDirectory path = false := by
  rw [ensureDirectory] at refused
  split at refused
  · cases refused
  · split_ifs at refused with directory
    · cases refused
    · cases refused
      exact Bool.eq_false_iff.2 directory

theorem isDirectory_of_ensureAll {anchor : Anchor} {reversed : List String} {error : SystemError}
    (refused : store.ensureAll anchor reversed = (made, some error)) :
    made.isDirectory ⟨anchor, reversed.reverse⟩ = false := by
  induction reversed generalizing made with
  | nil => exact isDirectory_of_ensureDirectory refused
  | cons part above ih =>
      rw [ensureAll] at refused
      cases done : store.makeDirectory ⟨anchor, (part :: above).reverse⟩ with
      | ok last =>
          rw [done] at refused
          cases refused
      | error other =>
          rw [done] at refused
          dsimp only at refused
          split_ifs at refused with missing directory
          · rcases ended : store.ensureAll anchor above with ⟨middle, _ | stopped⟩
            · rw [ended] at refused
              exact isDirectory_of_ensureDirectory refused
            · rw [ended] at refused
              cases refused
              rw [Bool.eq_false_iff]
              intro directory
              rw [List.reverse_cons] at directory
              exact Bool.eq_false_iff.1 (ih ended) (isDirectory_above directory)
          · cases refused
          · cases refused
            exact Bool.eq_false_iff.2 directory

/-- **Ensuring a directory fails exactly when it is not there afterwards.** -/
theorem ensureDirectories_isSome_iff :
    (store.ensureDirectories path).2.isSome = true ↔
      (store.ensureDirectories path).1.isDirectory path = false := by
  rcases ended : store.ensureDirectories path with ⟨made, _ | error⟩
  · have ensured := ensured_ensureDirectories store path
    rw [ended] at ensured
    simp [ensured.directory rfl]
  · have missing := isDirectory_of_ensureAll ended
    rw [List.reverse_reverse] at missing
    simp [missing]

/-! ## Ways that do not go upwards -/

theorem eq_append_of_walk {parts : List String} (noUp : ".." ∉ parts) {start target : Location}
    (walked : store.walk start parts = .ok target) : target = start ++ parts := by
  induction parts generalizing start with
  | nil =>
      cases walked
      rw [List.append_nil]
  | cons part rest ih =>
      obtain ⟨_, walked⟩ := walk_cons_eq_ok_iff.1 walked
      have down : part ≠ ".." := fun up => noUp (up ▸ List.mem_cons_self)
      rw [if_neg down] at walked
      rw [ih (fun member => noUp (List.mem_cons_of_mem part member)) walked.2,
        List.append_assoc, List.singleton_append]

/-- **The entries of a directory that was made are what they were**, if the way to it does not go
upwards. -/
theorem DirectoriesMade.find?_child (way : DirectoriesMade path store made)
    (noUp : ".." ∉ path.parts) {base : Location} (leads : made.resolve path = .ok base)
    (name : String) : made.find? (base ++ [name]) = store.find? (base ++ [name]) := by
  rcases way.entries (base ++ [name]) with same | ⟨_, _, parts, within, partly⟩
  · exact same
  · have whole := eq_append_of_walk noUp (resolve_eq_ok_iff.1 leads).2
    have part := eq_append_of_walk (fun up => noUp (within.subset up))
      (resolve_eq_ok_iff.1 partly).2
    -- The entry would be a place on the way, but it lies further than the end of the way.
    have lengths := congrArg List.length part
    have bound := within.length_le
    simp only [whole, List.length_append, List.length_singleton] at lengths
    omega

end DashboardExport.Storage.FileStore
