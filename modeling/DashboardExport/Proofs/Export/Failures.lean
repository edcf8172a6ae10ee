import DashboardExport.Proofs.Export.Placement

/-!
# What a failed run leaves

A run that fails before everything is loaded leaves the files as they were.  One that fails
while outputs are written stops at one of them (`Output.Stops`).  The files of the outputs
before it are there, each with its whole text, and the places of the files behind it are
untouched (`StoppedAt`).  Between the two only the output directory is made, and a run that
fails there has changed no file.

What becomes of the file of the output that stops the run depends on how far it got.  If it
cannot be rendered, or its file cannot be opened, its place is untouched.  But once the file
is open it is there, and what it held is gone: it stays behind empty if the text cannot be
encoded, and with a part of the text if the writing is broken off.

There is no other way in which a run fails (`failed_run`).
-/

set_option autoImplicit false

namespace DashboardExport

open Service Storage

/-! ## Outputs that stop a run -/

namespace Output

/-- Why a text is not saved, what its file holds then if it was opened, and the files that are
left. -/
inductive Unsaved (path : Path) (text : String) (files : FileStore) :
    Failure → Option (List UInt8) → FileStore → Prop where
  /-- The file cannot be opened. -/
  | unopened {error : SystemError} (refused : files.openFile path = .error error) :
      Unsaved path text files (.write error) none files
  /-- The text cannot be encoded, and its file is open. -/
  | unencodable {opened : FileStore} {location : Location}
      (ready : files.openFile path = .ok (opened, location)) {fault : Text.Unencodable}
      (refused : Text.encodeUtf8 text = .error fault) :
      Unsaved path text files (.unencodable fault) (some []) opened
  /-- The device breaks off the writing. -/
  | brokenOff {opened : FileStore} {location : Location}
      (ready : files.openFile path = .ok (opened, location))
      (encoded : Text.encodeUtf8 text = .ok text.toUTF8.toList) {fault : DeviceFault} {count : Nat}
      (broken : opened.breakOff? location = some (fault, count)) :
      Unsaved path text files (.brokenOff path fault) (some (text.toUTF8.toList.take count))
        (opened.put location (.file (text.toUTF8.toList.take count)))

/-- Why an output stops a run: it has no text, or its text is not saved. -/
inductive Stops (directory : Path) (files : FileStore) (output : Output) :
    Failure → Option (List UInt8) → FileStore → Prop where
  | unrendered {failure : Failure} (failed : output.text = .error failure) :
      Stops directory files output failure none files
  | unsaved {text : String} (rendered : output.text = .ok text) {failure : Failure}
      {kept? : Option (List UInt8)} {after : FileStore}
      (failed : Unsaved (output.path directory) text files failure kept? after) :
      Stops directory files output failure kept? after

variable {directory path : Path} {text : String} {output : Output} {outputs : List Output}
  {files after : FileStore} {failure : Failure} {kept? : Option (List UInt8)}

/-- A file that was opened holds what got into it, which is not always its whole text. -/
theorem Unsaved.puts {kept : List UInt8}
    (unsaved : Unsaved path text files failure (some kept) after) :
    files.Puts path kept after ∧ kept <+: text.toUTF8.toList := by
  cases unsaved with
  | unencodable ready refused =>
      obtain ⟨resolved, writable, rfl⟩ := FileStore.openFile_eq_ok_iff.1 ready
      exact ⟨⟨_, resolved, writable, rfl⟩, List.nil_prefix⟩
  | brokenOff ready encoded broken =>
      obtain ⟨resolved, writable, rfl⟩ := FileStore.openFile_eq_ok_iff.1 ready
      exact ⟨⟨_, resolved, writable, FileStore.put_put _ _ _ _⟩, List.take_prefix _ _⟩

/-- As long as its file is not opened, an output changes nothing. -/
theorem Stops.eq_of_none (stops : output.Stops directory files failure none after) :
    after = files := by
  cases stops with
  | unrendered failed => rfl
  | unsaved rendered failed =>
      cases failed
      rfl

theorem Stops.puts {kept : List UInt8}
    (stops : output.Stops directory files failure (some kept) after) :
    files.Puts (output.path directory) kept after := by
  cases stops with
  | unsaved rendered failed => exact failed.puts.1

theorem fails_fill_iff {location : Location} {contents : List UInt8} :
    (fill path location contents).Fails files after failure ↔
      ∃ fault count, files.breakOff? location = some (fault, count) ∧
        after = files.put location (.file (contents.take count)) ∧
        failure = .brokenOff path fault := by
  rw [Session.Fails, fill, Session.state_bind, FileStore.fill]
  rcases files.breakOff? location with _ | ⟨fault, count⟩
  · simp [Session.change_bind, Session.done]
  · simp [Session.change_bind, Session.fail, eq_comm]

theorem fails_save_iff :
    (save path text).Fails files after failure ↔
      ∃ kept?, Unsaved path text files failure kept? after := by
  rw [save, Session.Fails, Session.state_bind, ← Session.Fails]
  simp only [Session.fails_bind_iff, Session.fails_ofExcept_iff, Session.gives_ofExcept_iff,
    Session.not_fails_change, Session.gives_change_iff, Session.not_fails_tell, fails_fill_iff,
    except_mapError_eq_error_iff, except_mapError_eq_ok_iff, false_or, and_false, exists_false,
    or_false]
  constructor
  · rintro (⟨rfl, error, refused, rfl⟩ | ⟨_, ⟨opened, location⟩, ⟨rfl, ready⟩, _, _, rfl, inFile⟩)
    · exact ⟨none, .unopened refused⟩
    · rcases inFile with ⟨rfl, fault, refused, rfl⟩ | ⟨_, contents, ⟨rfl, encoded⟩, broken⟩
      · exact ⟨some [], .unencodable ready refused⟩
      · obtain ⟨fault, count, broken, rfl, rfl⟩ := broken
        obtain ⟨_, rfl⟩ := Text.encodeUtf8_eq_ok_iff.1 encoded
        exact ⟨some _, .brokenOff ready encoded broken⟩
  · rintro ⟨_, unsaved⟩
    cases unsaved with
    | unopened refused => exact .inl ⟨rfl, _, refused, rfl⟩
    | @unencodable opened location ready fault refused =>
        exact .inr ⟨files, (after, location), ⟨rfl, ready⟩, after, (), rfl,
          .inl ⟨rfl, fault, refused, rfl⟩⟩
    | @brokenOff opened location ready encoded fault count broken =>
        exact .inr ⟨files, (opened, location), ⟨rfl, ready⟩, opened, (), rfl,
          .inr ⟨opened, _, ⟨rfl, encoded⟩, fault, count, broken, rfl, rfl⟩⟩

/-- **An output is not written exactly when it stops.** -/
theorem fails_write_iff :
    (output.write directory).Fails files after failure ↔
      ∃ kept?, output.Stops directory files failure kept? after := by
  simp only [write, Session.fails_bind_iff, Session.not_fails_tell, false_or,
    Session.gives_tell_iff, Session.fails_ofExcept_iff, Session.gives_ofExcept_iff,
    fails_save_iff, Session.not_fails_done, and_false, exists_false, or_false]
  constructor
  · rintro ⟨_, _, rfl, ⟨rfl, failed⟩ | ⟨_, text, ⟨rfl, rendered⟩, kept?, failed⟩⟩
    · exact ⟨none, .unrendered failed⟩
    · exact ⟨kept?, .unsaved rendered failed⟩
  · rintro ⟨kept?, stops⟩
    cases stops with
    | unrendered failed => exact ⟨_, (), rfl, .inl ⟨rfl, failed⟩⟩
    | unsaved rendered failed => exact ⟨files, (), rfl, .inr ⟨files, _, ⟨rfl, rendered⟩, _, failed⟩⟩

/-- **Writing outputs fails at one of them, when those before it are written.** -/
theorem fails_writeEach_iff :
    (writeEach directory outputs).Fails files after failure ↔
      ∃ earlier output later reached paths kept?, outputs = earlier ++ output :: later ∧
        (writeEach directory earlier).Gives files reached paths ∧
        output.Stops directory reached failure kept? after := by
  induction outputs generalizing files with
  | nil => simp [writeEach, Session.not_fails_done]
  | cons output rest ih =>
      simp only [writeEach, Session.fails_bind_iff, Session.not_fails_done, and_false,
        exists_false, or_false, fails_write_iff, ih]
      constructor
      · rintro (⟨kept?, stops⟩ | ⟨middle, path, written, earlier, stopping, later, reached, paths,
          kept?, rfl, done, stops⟩)
        · exact ⟨[], output, rest, files, [], kept?, rfl, Session.gives_done_iff.2 ⟨rfl, rfl⟩,
            stops⟩
        · obtain ⟨text, rendered, saved, rfl⟩ := gives_write_iff.1 written
          exact ⟨output :: earlier, stopping, later, reached, _, kept?, rfl,
            gives_writeEach_cons_iff.2 ⟨text, middle, paths, rendered, saved, done, rfl⟩, stops⟩
      · rintro ⟨earlier, stopping, later, reached, paths, kept?, listed, done, stops⟩
        cases earlier with
        | nil =>
            obtain ⟨rfl, rfl⟩ := List.cons.inj listed
            obtain ⟨rfl, rfl⟩ := Session.gives_done_iff.1 done
            exact .inl ⟨kept?, stops⟩
        | cons first earlier =>
            obtain ⟨rfl, rfl⟩ := List.cons.inj listed
            obtain ⟨text, middle, others, rendered, saved, rest, rfl⟩ :=
              gives_writeEach_cons_iff.1 done
            exact .inr ⟨middle, _, gives_write_iff.2 ⟨text, rendered, saved, rfl⟩, earlier,
              stopping, later, reached, others, kept?, rfl, rest, stops⟩

theorem fails_prepare_iff :
    (prepare directory).Fails files after failure ↔
      ∃ error, files.ensureDirectories directory = (after, some error) ∧
        failure = .directory error := by
  rw [Session.Fails, prepare]
  rcases files.ensureDirectories directory with ⟨made, _ | error⟩
  · simp
  · simp [eq_comm]

/-- An output that stops a run leaves directories where they are. -/
theorem Stops.directoriesStay (stops : output.Stops directory files failure kept? after) :
    FileStore.DirectoriesStay files after := by
  cases kept? with
  | none =>
      obtain rfl := stops.eq_of_none
      exact .refl _
  | some kept => exact stops.puts.directoriesStay

/-- It changes nothing but its own file, and that only if it was opened. -/
theorem Stops.find? (stops : output.Stops directory files failure kept? after) {base : Location}
    (leads : files.resolve directory = .ok base) {place : Location}
    (elsewhere : ∀ kept, kept? = some kept → place ≠ output.location base) :
    after.find? place = files.find? place := by
  cases kept? with
  | none => rw [stops.eq_of_none]
  | some kept =>
      obtain ⟨own, resolved, _⟩ := id stops.puts
      rw [stops.puts.find? resolved, if_neg]
      rw [eq_location_of_resolve leads resolved]
      exact elsewhere kept rfl

theorem Holds.of_stops {other : Output} (apart : Apart other output)
    (stops : output.Stops directory files failure kept? after)
    (holds : Holds directory files other) : Holds directory after other := by
  cases kept? with
  | none => rwa [stops.eq_of_none]
  | some kept => exact holds.of_puts apart stops.puts

/-- The outputs whose files are not opened when a run stops: those behind the output that stops it,
and this one as well if nothing got as far as into its file. -/
def unopened (output : Output) (later : List Output) : Option (List UInt8) → List Output
  | none => output :: later
  | some _ => later

/-- What a run leaves that stops at an output, where `base` is the place of the output directory. -/
structure StoppedAt (directory : Path) (base : Location) (before after : FileStore)
    (earlier : List Output) (output : Output) (kept? : Option (List UInt8))
    (later : List Output) : Prop where
  leads : after.resolve directory = .ok base
  /-- The files before are there, each with its whole text. -/
  written : ∀ other ∈ earlier,
    after.resolve (other.path directory) = .ok (other.location base) ∧
      Holds directory after other
  /-- The file of the output itself, if it was opened, holds what got into it. -/
  opened : ∀ kept, kept? = some kept →
    after.resolve (output.path directory) = .ok (output.location base) ∧
      after.read (output.path directory) = .ok kept
  /-- The other files are not written: at their places is what was there before, or, where nothing
  was, at most a directory that was made on the way to the output directory. -/
  untouched : ∀ other ∈ unopened output later kept?, before.KeptAt after (other.location base)
  /-- Only a way that goes upwards again makes a directory at one of these places; otherwise they
  are exactly what they were. -/
  unchanged : ".." ∉ directory.parts → ∀ other ∈ unopened output later kept?,
    after.find? (other.location base) = before.find? (other.location base)
  /-- Apart from these files, nothing is new but the directories on the way to the output directory,
  and nothing has changed. -/
  others : ∀ place, (∀ other ∈ earlier, place ≠ other.location base) →
    (∀ kept, kept? = some kept → place ≠ output.location base) → before.KeptAt after place

/-- The place of an output whose file is not opened is none of those of the other files. -/
theorem elsewhere_of_unopened {base : Location} {earlier later : List Output} {other : Output}
    (apart : (earlier ++ output :: later).Pairwise Apart)
    (member : other ∈ unopened output later kept?) :
    (∀ first ∈ earlier, other.location base ≠ first.location base) ∧
      ∀ kept, kept? = some kept → other.location base ≠ output.location base := by
  obtain ⟨_, behind, across⟩ := List.pairwise_append.1 apart
  have listed : other ∈ output :: later := by
    cases kept? with
    | none => exact member
    | some kept => exact List.mem_cons_of_mem output member
  refine ⟨fun first before same => ?_, ?_⟩
  · exact across first before other listed (location_eq_location_iff.1 same).symm
  · rintro kept rfl same
    exact (List.pairwise_cons.1 behind).1 other member (location_eq_location_iff.1 same).symm

/-- **The outputs that are written before a run stops leave the places of the others alone**, and so
does the output that stops it. -/
theorem exists_stoppedAt {before made reached : FileStore} {earlier later : List Output}
    {paths : List Path} (ready : before.ensureDirectories directory = (made, none))
    (written : (writeEach directory earlier).Gives made reached paths)
    (stops : output.Stops directory reached failure kept? after)
    (apart : (earlier ++ output :: later).Pairwise Apart) :
    ∃ base, StoppedAt directory base before after earlier output kept? later := by
  have ensured := FileStore.ensured_ensureDirectories before directory
  rw [ready] at ensured
  obtain ⟨base, leads, _⟩ := FileStore.isDirectory_iff.1 (ensured.directory rfl)
  obtain ⟨first, _, across⟩ := List.pairwise_append.1 apart
  have placed := writtenAt_of_writeEach first leads written
  have still {path : Path} {place : Location} (resolved : reached.resolve path = .ok place) :
      after.resolve path = .ok place :=
    FileStore.resolve_of_directoriesStay stops.directoriesStay resolved
  have same {place : Location} (away : ∀ other ∈ earlier, place ≠ other.location base)
      (elsewhere : ∀ kept, kept? = some kept → place ≠ output.location base) :
      after.find? place = made.find? place :=
    (stops.find? placed.leads elsewhere).trans (placed.others place away)
  have kept (place : Location) (away : ∀ other ∈ earlier, place ≠ other.location base)
      (elsewhere : ∀ kept, kept? = some kept → place ≠ output.location base) :
      before.KeptAt after place := by
    rw [FileStore.KeptAt, same away elsewhere]
    exact ensured.way.keptAt place
  refine
    ⟨base, still placed.leads, fun other member => ?_, ?_, fun other member => ?_, ?_, kept⟩
  · exact ⟨still (placed.files other member),
      (placed.holds other member).of_stops (across other member output List.mem_cons_self) stops⟩
  · rintro contents rfl
    obtain ⟨own, resolved, _⟩ := id stops.puts
    cases eq_location_of_resolve placed.leads resolved
    exact ⟨still resolved, stops.puts.read⟩
  · obtain ⟨away, elsewhere⟩ := elsewhere_of_unopened apart member
    exact kept _ away elsewhere
  · intro noUp other member
    obtain ⟨away, elsewhere⟩ := elsewhere_of_unopened apart member
    rw [same away elsewhere]
    exact ensured.way.find?_child noUp leads _

end Output

/-! ## Runs -/

namespace Export

/-- The ways in which a run fails, with the files that it leaves and the events that it tells. -/
inductive FailedRun (source : Source) (configuration : Configuration) (mode : String)
    (ids : List String) (before : FileStore) : FileStore → List Event → Failure → Prop where
  /-- The mode names no kind.  Nothing is asked for, and no file changes. -/
  | unknownMode (unknown : RemoteKind.ofMode? mode = none) :
      FailedRun source configuration mode ids before before [] (.unknownMode mode)
  /-- No client can be opened, and no file changes. -/
  | unconnected {kind : RemoteKind} (named : kindOfMode mode = .ok kind) {failure : Failure}
      (refused : source.fetcher? configuration = .error failure) (events : List Event) :
      FailedRun source configuration mode ids before before events failure
  /-- Not everything can be loaded, and no file changes. -/
  | unloaded {kind : RemoteKind} (named : kindOfMode mode = .ok kind) {fetcher : Fetcher}
      (connected : source.fetcher? configuration = .ok fetcher) {failure : Failure}
      (failed : (Inventory.loadAll fetcher kind ids Inventory.empty).result = .error failure)
      (events : List Event) :
      FailedRun source configuration mode ids before before events failure
  /-- The output directory cannot be made, and no file changes. -/
  | unprepared {kind : RemoteKind} (named : kindOfMode mode = .ok kind) {fetcher : Fetcher}
      (connected : source.fetcher? configuration = .ok fetcher) {inventory : Inventory}
      (loaded : (Inventory.loadAll fetcher kind ids).Gives Inventory.empty inventory ())
      {after : FileStore} {error : SystemError}
      (refused : before.ensureDirectories configuration.outputDirectory = (after, some error))
      (kept : ∀ place, before.KeptAt after place) (events : List Event) :
      FailedRun source configuration mode ids before after events (.directory error)
  /-- An output stops the run, when those before it are written. -/
  | stopped {kind : RemoteKind} (named : kindOfMode mode = .ok kind) {fetcher : Fetcher}
      (connected : source.fetcher? configuration = .ok fetcher) {inventory : Inventory}
      (loaded : (Inventory.loadAll fetcher kind ids).Gives Inventory.empty inventory ())
      {earlier later : List Output} {output : Output}
      (listed : Output.ofInventory configuration.skipTableDefaults inventory =
        earlier ++ output :: later)
      {reached after : FileStore} {failure : Failure} {kept? : Option (List UInt8)}
      (stops : output.Stops configuration.outputDirectory reached failure kept? after)
      {base : Location}
      (left : Output.StoppedAt configuration.outputDirectory base before after earlier output kept?
        later)
      (events : List Event) :
      FailedRun source configuration mode ids before after events failure

section Runs

variable {source : Source} {configuration : Configuration} {mode : String} {ids : List String}
  {before after : FileStore} {events : List Event} {failure : Failure}

theorem Source.fails_connect_iff :
    (source.connect configuration).Fails before after failure ↔
      after = before ∧ source.fetcher? configuration = .error failure := by
  obtain ⟨told, ended⟩ := Source.connect_ends source configuration before
  simp [Session.Fails, ended, eq_comm]

/-- **What a failed run leaves behind.** -/
theorem failed_run
    (failed : source.run configuration mode ids before = ⟨after, events, .error failure⟩) :
    FailedRun source configuration mode ids before after events failure := by
  cases known : RemoteKind.ofMode? mode with
  | none =>
      have ended : (Session.ofExcept (kindOfMode mode) : Session FileStore RemoteKind) before =
          ⟨before, [], .error (.unknownMode mode)⟩ := by
        rw [kindOfMode, known]
        rfl
      rw [Source.run_eq, Session.bind_of_error ended] at failed
      cases failed
      exact .unknownMode known
  | some kind =>
      have named : kindOfMode mode = .ok kind := by rw [kindOfMode, known]
      have fails : (source.run configuration mode ids).Fails before after failure :=
        ⟨events, failed⟩
      simp only [Source.run_eq, named, exportFrom, Output.writeAll, Session.fails_bind_iff,
        Session.gives_ofExcept_iff, Session.fails_ofExcept_iff, Source.fails_connect_iff,
        Source.gives_connect_iff, Session.fails_within_iff, Session.gives_within_iff,
        Output.fails_prepare_iff, Output.gives_prepare_iff, reduceCtorEq, and_false, false_or,
        Except.ok.injEq, and_assoc, exists_and_left, exists_eq_left, exists_eq_left'] at fails
      rcases fails with ⟨rfl, refused⟩ | ⟨fetcher, connected, inExport⟩
      · exact .unconnected named refused events
      rcases inExport with ⟨rfl, unloaded⟩ | ⟨⟨inventory, _⟩, loaded, inOutput⟩
      · exact .unloaded named connected unloaded events
      rcases inOutput with ⟨error, refused, rfl⟩ | ⟨made, ready, _, inWriting⟩
      · have ensured := FileStore.ensured_ensureDirectories before configuration.outputDirectory
        rw [refused] at ensured
        exact .unprepared named connected loaded refused ensured.way.keptAt events
      obtain ⟨earlier, output, later, reached, paths, kept?, listed, written, stops⟩ :=
        Output.fails_writeEach_iff.1 inWriting
      have apart := Output.apart_ofInventory configuration.skipTableDefaults
        (Inventory.callsFor fetcher kind ids)
      rw [← Inventory.eq_reached_of_gives (Inventory.gives_loadAll_iff.1 loaded), listed] at apart
      obtain ⟨base, left⟩ := Output.exists_stoppedAt ready written stops apart
      exact .stopped named connected loaded listed stops left events

end Runs

/-- A widget that shows nothing and sets a parameter to a number, which cannot be written. -/
def unsettablePayload : Json :=
  .obj [("id", .int 12), ("options", .obj [("parameterMappings", .obj [("p", .obj
    [("name", .str "p"), ("type", .str "dashboard-level"), ("value", .int 1)])])])]

/-- Two dashboards; the second one cannot be rendered. -/
def halfDashboards : List Dashboard :=
  [{ id := "a", name := "KPIs", tags := [], widgets := [showingPayload 11 "q"] },
    { id := "b", name := "Costs", tags := [], widgets := [unsettablePayload] },
    { id := "c", name := "Staff", tags := [], widgets := [] }]

/-- An export of all three into a directory in which there is a file that would be replaced. -/
def halfRun : Session FileStore (List Path) :=
  (Source.atHand (servingFetcher halfDashboards sharedQueries)).run twinConfiguration
    "dashboard" ["a", "b", "c"]

/-- The files before it. -/
def halfFiles : FileStore where
  entries := [(["out"], .directory), (["out", "dashboard_costs.tf"], .file [1])]
  workingDirectory := []

theorem failed_run_half :
    ∃ after events failure,
      halfRun halfFiles = ⟨after, events, .error failure⟩ ∧
      failure = .rendering (.unsupportedValue "p" "costs_0" "int") ∧
      (after.find? ["out", "query_q.tf"]).isSome ∧
      (after.find? ["out", "dashboard_kpis.tf"]).isSome ∧
      after.find? ["out", "dashboard_costs.tf"] = some (.file [1]) ∧
      after.find? ["out", "dashboard_staff.tf"] = none ∧
      FailedRun (.atHand (servingFetcher halfDashboards sharedQueries)) twinConfiguration
        "dashboard" ["a", "b", "c"] halfFiles after events failure := by
  have stopped : (halfRun halfFiles).result =
      .error (.rendering (.unsupportedValue "p" "costs_0" "int")) := by decide +kernel
  have ended := Session.eq_of_result stopped
  exact ⟨_, _, _, ended, rfl, by decide +kernel, by decide +kernel, by decide +kernel,
    by decide +kernel, failed_run ended⟩

/-- A query with a chart. -/
def chartQuery (options : Json) : Query where
  id := "q"
  dataSourceId := ""
  name := "q"
  description := none
  text := ""
  schedule := none
  options := ⟨[]⟩
  tags := []
  visualizations := [.obj [("id", .int 1), ("type", .str "chart"), ("options", options)]]

/-- Options in which there is a lone surrogate. -/
def surrogateOptions : Json := .obj [("a", .str (String.singleton (Text.charOfCode 0xD800)))]

/-- An export of the query with these options. -/
def chartRun (options : Json) : Session FileStore (List Path) :=
  (Source.atHand (servingFetcher [] [chartQuery options])).run twinConfiguration "query" ["q"]

/-- A store with a file in the place of the one that the export writes, on a device that may do
something to it. -/
def replacedFiles (hindrances : List (Location × Hindrance)) : FileStore where
  entries := [(["out"], .directory), (["out", "query_q.tf"], .file [1])]
  workingDirectory := []
  hindrances := hindrances

/-- **The file of the output that stops a run is not always left alone.**  It is emptied when the
text cannot be encoded, and it is overwritten with a part of the text when the device gets full. -/
theorem stopped_run_overwrites :
    (chartRun surrogateOptions (replacedFiles [])).result =
        .error (.unencodable ⟨0xD800, 264, 264⟩) ∧
      (chartRun surrogateOptions (replacedFiles [])).state.find? ["out", "query_q.tf"] =
        some (.file []) ∧
      (chartRun (.obj []) (replacedFiles
        [(["out", "query_q.tf"], .brokenOff .noSpace 4)])).result =
          .error (.brokenOff (twinConfiguration.outputDirectory.child "query_q.tf") .noSpace) ∧
      (chartRun (.obj []) (replacedFiles
        [(["out", "query_q.tf"], .brokenOff .noSpace 4)])).state.find? ["out", "query_q.tf"] =
          some (.file [114, 101, 115, 111]) := by
  refine ⟨?_, ?_, ?_, ?_⟩ <;> decide +kernel

end Export

end DashboardExport
