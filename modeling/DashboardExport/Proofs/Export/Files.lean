import DashboardExport.Output
import DashboardExport.Proofs.Naming
import DashboardExport.Proofs.Session
import DashboardExport.Proofs.Storage.FileStore
import DashboardExport.Proofs.Text.Utf8

/-!
# Files that a run leaves

When everything is written, the paths are those of the outputs in order, each text was
rendered, and the files hold the texts (`gives_writeEach`), as long as no two outputs have
one file name: a file that is written later then leaves the earlier ones alone.

The name of a file tells the kind of its object and the resource name
(`fileName_eq_fileName_iff`), so the paths of a kind are those of the outputs of that kind
(`filter_isFileOf_paths`).
-/

set_option autoImplicit false

namespace DashboardExport.Output

open Storage

/-! ## File names -/

/-- Whether a path is named as the file of an object of a kind. -/
def isFileOf (kind : RemoteKind) (path : Path) : Bool :=
  path.parts.getLast?.any fun name => (kind.noun ++ "_").toList.isPrefixOf name.toList

/-- A file name begins with the word for the kind, and with no other. -/
theorem isPrefixOf_fileName (kind other : RemoteKind) (resourceName : String) :
    (kind.noun ++ "_").toList.isPrefixOf (fileName other resourceName).toList =
      (other == kind) := by
  rw [fileName, String.append_assoc, @String.toList_append (other.noun ++ "_")]
  by_cases same : other = kind
  · subst same
    rw [beq_self_eq_true, List.isPrefixOf_iff_prefix]
    exact List.prefix_append _ _
  · rw [beq_eq_false_iff_ne.2 same]
    -- The two words differ in their first characters.
    cases kind with
    | dashboard =>
        cases other with
        | dashboard => exact absurd rfl same
        | query => rfl
    | query =>
        cases other with
        | dashboard => rfl
        | query => exact absurd rfl same

theorem isFileOf_path (kind : RemoteKind) (directory : Path) (output : Output) :
    isFileOf kind (output.path directory) = (output.kind == kind) := by
  rw [isFileOf, path, Path.child, List.getLast?_concat, Option.any_some, isPrefixOf_fileName]

/-- **A file name tells what it is named after.** -/
theorem fileName_eq_fileName_iff {kind other : RemoteKind} {name otherName : String} :
    fileName kind name = fileName other otherName ↔ kind = other ∧ name = otherName := by
  constructor
  · intro same
    have kinds := isPrefixOf_fileName kind other otherName
    rw [← same, isPrefixOf_fileName, beq_self_eq_true, eq_comm, beq_iff_eq] at kinds
    subst kinds
    rw [fileName, fileName, String.append_left_inj, String.append_right_inj] at same
    exact ⟨rfl, same⟩
  · rintro ⟨rfl, rfl⟩
    rfl

/-- No file name leads upwards. -/
theorem fileName_ne_up (kind : RemoteKind) (name : String) : fileName kind name ≠ ".." := by
  intro same
  have kinds := isPrefixOf_fileName kind kind name
  rw [same, beq_self_eq_true] at kinds
  cases kind <;> exact absurd kinds (by decide)

/-! ## Writing -/

variable {directory : Path} {output : Output} {outputs : List Output} {files after : FileStore}

theorem gives_fill_iff {path : Path} {location : Location} {contents : List UInt8}
    {value : Unit} :
    (fill path location contents).Gives files after value ↔
      files.fill location contents = (after, none) := by
  rw [Session.gives_iff, fill, Session.state_bind]
  rcases files.fill location contents with ⟨filled, _ | fault⟩
  · simp [Session.change_bind, Session.done]
  · simp [Session.change_bind, Session.fail]

/-- A text gets into the file at a path: the file can be opened, the text can be encoded, and the
writing is not broken off. -/
def Saves (path : Path) (text : String) (files after : FileStore) : Prop :=
  ∃ opened location, files.openFile path = .ok (opened, location) ∧
    Text.encodeUtf8 text = .ok text.toUTF8.toList ∧
    opened.fill location text.toUTF8.toList = (after, none)

/-- A text that got into a file is there as a whole. -/
theorem Saves.puts {path : Path} {text : String} (saved : Saves path text files after) :
    files.Puts path text.toUTF8.toList after := by
  obtain ⟨opened, location, ready, _, filled⟩ := saved
  obtain ⟨kept, _, whole, puts⟩ := FileStore.puts_of_fill ready filled
  rw [← whole rfl]
  exact puts

theorem gives_save_iff {path : Path} {text : String} {value : Unit} :
    (save path text).Gives files after value ↔ Saves path text files after := by
  rw [save, Session.gives_iff, Session.state_bind, ← Session.gives_iff]
  simp only [Session.gives_bind_iff, Session.gives_ofExcept_iff, Session.gives_change_iff,
    Session.gives_tell_iff, gives_fill_iff, except_mapError_eq_ok_iff]
  constructor
  · rintro ⟨_, ⟨opened, location⟩, ⟨rfl, ready⟩, _, _, rfl, _, contents, ⟨rfl, encoded⟩, _, _,
      filled, rfl⟩
    obtain ⟨_, rfl⟩ := Text.encodeUtf8_eq_ok_iff.1 encoded
    exact ⟨_, location, ready, encoded, filled⟩
  · rintro ⟨opened, location, ready, encoded, filled⟩
    exact ⟨files, (opened, location), ⟨rfl, ready⟩, opened, (), rfl, opened, _, ⟨rfl, encoded⟩,
      after, (), filled, rfl⟩

/-- An output is written when it is rendered and its text gets into its file. -/
theorem gives_write_iff {written : Path} :
    (output.write directory).Gives files after written ↔
      ∃ text, output.text = .ok text ∧ Saves (output.path directory) text files after ∧
        written = output.path directory := by
  simp only [write, Session.gives_bind_iff, Session.gives_tell_iff, Session.gives_ofExcept_iff,
    gives_save_iff, Session.gives_done_iff]
  constructor
  · rintro ⟨_, _, rfl, _, text, ⟨rfl, rendered⟩, _, _, saved, rfl, rfl⟩
    exact ⟨text, rendered, saved, rfl⟩
  · rintro ⟨text, rendered, saved, rfl⟩
    exact ⟨files, (), rfl, files, text, ⟨rfl, rendered⟩, after, (), saved, rfl, rfl⟩

theorem gives_writeEach_cons_iff {paths : List Path} :
    (writeEach directory (output :: outputs)).Gives files after paths ↔
      ∃ text middle rest, output.text = .ok text ∧
        Saves (output.path directory) text files middle ∧
        (writeEach directory outputs).Gives middle after rest ∧
        paths = output.path directory :: rest := by
  simp only [writeEach, Session.gives_bind_iff, gives_write_iff, Session.gives_done_iff]
  constructor
  · rintro ⟨middle, _, ⟨text, rendered, written, rfl⟩, _, rest, others, rfl, rfl⟩
    exact ⟨text, middle, rest, rendered, written, others, rfl⟩
  · rintro ⟨text, middle, rest, rendered, written, others, rfl⟩
    exact ⟨middle, _, ⟨text, rendered, written, rfl⟩, after, rest, others, rfl, rfl⟩

/-- The file of an output holds a text. -/
def Holds (directory : Path) (files : FileStore) (output : Output) : Prop :=
  ∃ text, output.text = .ok text ∧ files.read (output.path directory) = .ok text.toUTF8.toList

/-- Two outputs whose files have different names. -/
def Apart (output other : Output) : Prop :=
  fileName output.kind output.resourceName ≠ fileName other.kind other.resourceName

/-- Writing an output leaves the file of another one as it is. -/
theorem Holds.of_puts {other : Output} {contents : List UInt8} (apart : Apart output other)
    (written : files.Puts (other.path directory) contents after)
    (holds : Holds directory files output) : Holds directory after output := by
  obtain ⟨text, rendered, stored⟩ := holds
  obtain ⟨place, resolved, _⟩ := FileStore.read_eq_ok_iff.1 stored
  refine ⟨text, rendered, written.read_of_ne stored ?_⟩
  exact FileStore.ne_of_resolve_child (fileName_ne_up _ _) (fileName_ne_up _ _) apart resolved

/-- Files stay as they are while outputs with other file names are written. -/
theorem Holds.of_writeEach {paths : List Path} (apart : ∀ other ∈ outputs, Apart output other)
    (written : (writeEach directory outputs).Gives files after paths)
    (holds : Holds directory files output) : Holds directory after output := by
  induction outputs generalizing files paths with
  | nil =>
      obtain ⟨rfl, _⟩ := Session.gives_done_iff.1 written
      exact holds
  | cons other rest ih =>
      obtain ⟨text, middle, restPaths, _, saved, others, _⟩ := gives_writeEach_cons_iff.1 written
      refine ih (fun next member => apart next (List.mem_cons_of_mem other member)) others ?_
      exact holds.of_puts (apart other List.mem_cons_self) saved.puts

/-- **What a run has written.**  The paths are those of the outputs, and their files hold their
texts. -/
theorem gives_writeEach {paths : List Path} (apart : outputs.Pairwise Apart)
    (written : (writeEach directory outputs).Gives files after paths) :
    paths = outputs.map (path directory) ∧ ∀ output ∈ outputs, Holds directory after output := by
  induction outputs generalizing files paths with
  | nil =>
      obtain ⟨rfl, rfl⟩ := Session.gives_done_iff.1 written
      exact ⟨rfl, fun _ member => absurd member List.not_mem_nil⟩
  | cons output rest ih =>
      obtain ⟨text, middle, restPaths, rendered, saved, others, rfl⟩ :=
        gives_writeEach_cons_iff.1 written
      obtain ⟨first, later⟩ := List.pairwise_cons.1 apart
      obtain ⟨rfl, hold⟩ := ih later others
      refine ⟨rfl, fun next member => ?_⟩
      rcases List.mem_cons.1 member with rfl | inRest
      · have here : Holds directory middle next :=
          ⟨text, rendered, saved.puts.read⟩
        exact here.of_writeEach first others
      · exact hold next inRest

/-- The paths of a kind are those of the outputs of that kind. -/
theorem filter_isFileOf_paths (kind : RemoteKind) (directory : Path) (outputs : List Output) :
    (outputs.map (path directory)).filter (isFileOf kind) =
      (outputs.filter fun output => output.kind == kind).map (path directory) := by
  rw [List.filter_map]
  refine congrArg (List.map _) (List.filter_congr ?_)
  intro output _
  exact isFileOf_path kind directory output

end DashboardExport.Output
