import DashboardExport.Proofs.Export.Failures
import DashboardExport.Proofs.Rendering.Failures

/-!
# When writing ends the program

Writing a reached inventory succeeds or fails in good order, with three exceptions
(`Output.Escapes`).  The output directory is not there and cannot be made; or every query
before one is written, and that one has a number that is not finite; or every output before
one is written, and the text of that one holds a lone surrogate.  In the model these are the
only ways in which writing ends the program, whatever the directory and the files are, and
whatever the device does (`writeAll_escapes_iff`).

In particular every other part is safe: dashboards, options of visualizations, files that
cannot be opened and writing that is broken off.  A file cannot be opened for a reason that
the system reports, because the directory is there and the name of a file is made from a
token.

What would end the program from outside is not modelled: a signal, no more memory, and a
payload nested so deep that the interpreter gives up.
-/

set_option autoImplicit false

namespace DashboardExport

open Rendering Service Storage

namespace Output

/-- The output of a query. -/
def ofQuery (skipDefaults : Bool) (inventory : Inventory) (entry : Entry Query) : Output :=
  ⟨.query, entry.resourceName, renderQuery skipDefaults inventory entry⟩

/-- The ways in which writing an inventory ends the program. -/
inductive Escapes (directory : Path) (skipDefaults : Bool) (inventory : Inventory)
    (files : FileStore) : Failure → Prop where
  | directory {made : FileStore} {error : SystemError}
      (refused : files.ensureDirectories directory = (made, some error))
      (missing : made.isDirectory directory = false) :
      Escapes directory skipDefaults inventory files (.directory error)
  | number {made reached : FileStore} {earlier later : List (Entry Query)} {entry : Entry Query}
      {paths : List Path} {x : Binary64}
      (ready : files.ensureDirectories directory = (made, none))
      (listed : inventory.queries = earlier ++ entry :: later)
      (written : (writeEach directory (earlier.map (ofQuery skipDefaults inventory))).Gives made
        reached paths)
      (notFinite : entry.object.nonFinite? = some x) :
      Escapes directory skipDefaults inventory files (.rendering (.ofNonFinite x))
  | surrogate {made reached opened : FileStore} {earlier later : List Output} {output : Output}
      {paths : List Path} {text : String} {location : Location} {fault : Text.Unencodable}
      (ready : files.ensureDirectories directory = (made, none))
      (listed : ofInventory skipDefaults inventory = earlier ++ output :: later)
      (written : (writeEach directory earlier).Gives made reached paths)
      (rendered : output.text = .ok text)
      (inFile : reached.openFile (output.path directory) = .ok (opened, location))
      (refused : Text.encodeUtf8 text = .error fault) :
      Escapes directory skipDefaults inventory files (.unencodable fault)

variable {directory : Path} {skipDefaults : Bool} {inventory : Inventory} {output : Output}
  {earlier later : List Output} {files made after : FileStore} {failure : Failure}

/-! ## Files that cannot be opened -/

/-- The name of a file is made of characters of tokens and a dot. -/
theorem plain_of_mem_fileName {kind : RemoteKind} {resourceName : String}
    (token : Naming.IsToken resourceName) {c : Char}
    (member : c ∈ (fileName kind resourceName).toList) :
    Naming.isTokenChar c = true ∨ c = '.' := by
  have noun : (kind.noun ++ "_").toList.all Naming.isTokenChar = true := by
    cases kind <;> decide
  have ending : (".tf".toList.all fun c => Naming.isTokenChar c || c == '.') = true := by decide
  rw [List.all_eq_true] at noun ending
  rw [fileName, String.toList_append, List.mem_append, String.toList_append, List.mem_append]
    at member
  rcases member with (inNoun | inName) | atEnd
  · exact .inl (noun c inNoun)
  · exact .inl (token c inName)
  · exact (Bool.or_eq_true_iff.1 (ending c atEnd)).imp_right beq_iff_eq.1

/-- **A file in a directory that is there has a path that the system takes**, unless it is too
long. -/
theorem lookable_path (ready : made.isDirectory directory = true)
    (token : Naming.IsToken output.resourceName) :
    (∀ c ∈ (output.path directory).text.toList, Text.isUnnameable c = false) ∧
      ((output.path directory).parts.any fun part => part.toList.contains (Char.ofNat 0)) =
        false := by
  obtain ⟨base, leads, _⟩ := FileStore.isDirectory_iff.1 ready
  have above := (FileStore.resolve_eq_ok_iff.1 leads).1
  constructor
  · intro c member
    rcases FileStore.mem_text_concat member with inDirectory | rfl | inName
    · exact above.encodable c inDirectory
    · decide
    · have ascii : c.toNat < 128 := by
        rcases plain_of_mem_fileName token inName with inToken | rfl
        · exact Naming.ascii_of_isTokenChar inToken
        · decide
      rw [Text.isUnnameable, Text.isStandIn_of_lt (Nat.lt_trans ascii (by decide))]
      rfl
  · rw [path, Path.child, List.any_append, above.noNul, List.any_cons, List.any_nil,
      Bool.or_false, Bool.false_or, List.contains_eq_mem, decide_eq_false_iff_not]
    intro member
    rcases plain_of_mem_fileName token member with inToken | dot
    · exact absurd inToken (by decide)
    · exact absurd dot (by decide)

/-- **A file that cannot be opened ends an export in good order.** -/
theorem reported_of_unopened (ready : made.isDirectory directory = true)
    (token : Naming.IsToken output.resourceName) {error : SystemError}
    (refused : after.openFile (output.path directory) = .error error) :
    (Failure.write error).reported = true := by
  obtain ⟨encodable, noNul⟩ := lookable_path ready token
  exact FileStore.fromSystem_of_openFile encodable noNul refused

/-! ## Outputs -/

theorem exists_ofInventory_eq (skipDefaults : Bool) {first last : List (Entry Query)}
    {entry : Entry Query} (listed : inventory.queries = first ++ entry :: last) :
    ∃ later, ofInventory skipDefaults inventory =
      first.map (ofQuery skipDefaults inventory) ++
        ofQuery skipDefaults inventory entry :: later := by
  rw [ofInventory, listed, List.map_append, List.append_assoc]
  exact ⟨_, rfl⟩

/-- An output that ends the program is the output of a query. -/
theorem exists_query_of_unreported
    (listed : ofInventory skipDefaults inventory = earlier ++ output :: later)
    (failed : output.text = .error failure) (unreported : failure.reported = false) :
    ∃ first entry last, inventory.queries = first ++ entry :: last ∧
      earlier = first.map (ofQuery skipDefaults inventory) ∧
      output = ofQuery skipDefaults inventory entry := by
  have noDashboard : ∀ entry ∈ inventory.dashboards,
      output ≠ ⟨.dashboard, entry.resourceName, renderDashboard inventory entry⟩ := by
    rintro entry - rfl
    rw [reported_of_renderDashboard failed] at unreported
    cases unreported
  -- The output stands among those of the queries, since it is none of the dashboards'.
  rcases List.append_eq_append_iff.1 listed with ⟨between, _, dashboards⟩ | ⟨rest, queries, behind⟩
  · obtain ⟨entry, member, same⟩ := List.mem_map.1
      (dashboards ▸ List.mem_append_right between List.mem_cons_self)
    exact absurd same.symm (noDashboard entry member)
  · cases rest with
    | nil =>
        obtain ⟨entry, member, same⟩ := List.mem_map.1 (behind ▸ List.mem_cons_self)
        exact absurd same.symm (noDashboard entry member)
    | cons next rest =>
        obtain ⟨rfl, _⟩ := List.cons.inj behind
        obtain ⟨first, others, parts, rfl, stopped⟩ := List.map_eq_append_iff.1 queries
        obtain ⟨entry, last, rfl, rfl, _⟩ := List.map_eq_cons_iff.1 stopped
        exact ⟨first, entry, last, parts, rfl, rfl⟩

/-- A failure that is not reported is one of the three. -/
theorem escapes_of_fails {calls : List LoadCall}
    (fails : (writeAll directory skipDefaults (Inventory.reached calls)).Fails files after failure)
    (unreported : failure.reported = false) :
    Escapes directory skipDefaults (Inventory.reached calls) files failure := by
  rcases Session.fails_bind_iff.1 fails with unprepared | ⟨made, _, prepared, inWriting⟩
  · obtain ⟨error, refused, rfl⟩ := fails_prepare_iff.1 unprepared
    refine .directory refused ?_
    have missing := FileStore.ensureDirectories_isSome_iff.1 (congrArg (·.2.isSome) refused)
    rwa [refused] at missing
  · have ready := gives_prepare_iff.1 prepared
    obtain ⟨earlier, output, later, reached, paths, kept?, listed, written, stops⟩ :=
      fails_writeEach_iff.1 inWriting
    cases stops with
    | unrendered failed =>
        obtain ⟨first, entry, last, queries, rfl, rfl⟩ :=
          exists_query_of_unreported listed failed unreported
        obtain ⟨x, notFinite, rfl⟩ := renderQuery_unreported_iff.1 ⟨failed, unreported⟩
        exact .number ready queries written notFinite
    | unsaved rendered failed =>
        cases failed with
        | unopened refused =>
            have ensured := FileStore.ensured_ensureDirectories files directory
            rw [ready] at ensured
            have token := token_of_mem_ofInventory
              (listed ▸ List.mem_append_right earlier List.mem_cons_self)
            rw [reported_of_unopened (ensured.directory rfl) token refused] at unreported
            cases unreported
        | unencodable opened refused =>
            exact .surrogate ready listed written rendered opened refused
        | brokenOff opened encoded broken => cases unreported

/-- An output behind others that are written ends the writing when it stops. -/
theorem fails_writeAll_of_stops {reached : FileStore} {paths : List Path}
    {kept? : Option (List UInt8)} (ready : files.ensureDirectories directory = (made, none))
    (listed : ofInventory skipDefaults inventory = earlier ++ output :: later)
    (written : (writeEach directory earlier).Gives made reached paths)
    (stops : output.Stops directory reached failure kept? after) :
    (writeAll directory skipDefaults inventory).Fails files after failure :=
  Session.fails_bind_iff.2 (.inr ⟨made, (), gives_prepare_iff.2 ready, fails_writeEach_iff.2
    ⟨earlier, output, later, reached, paths, kept?, listed, written, stops⟩⟩)

/-- All of them do happen, and none is reported. -/
theorem fails_of_escapes (escapes : Escapes directory skipDefaults inventory files failure) :
    (∃ after, (writeAll directory skipDefaults inventory).Fails files after failure) ∧
      failure.reported = false := by
  cases escapes with
  | directory refused missing =>
      exact ⟨⟨_, Session.fails_bind_iff.2 (.inl (fails_prepare_iff.2 ⟨_, refused, rfl⟩))⟩, rfl⟩
  | @number made reached earlier later entry paths x ready listed written notFinite =>
      have failed : (ofQuery skipDefaults inventory entry).text =
          .error (.rendering (.ofNonFinite x)) :=
        (renderQuery_unreported_iff.2 ⟨x, notFinite, rfl⟩).1
      obtain ⟨others, outputs⟩ := exists_ofInventory_eq skipDefaults listed
      exact ⟨⟨reached, fails_writeAll_of_stops ready outputs written (.unrendered failed)⟩,
        Problem.reported_ofNonFinite x⟩
  | surrogate ready listed written rendered opened refused =>
      exact ⟨⟨_, fails_writeAll_of_stops ready listed written
        (.unsaved rendered (.unencodable opened refused))⟩, rfl⟩

/-- **How writing ends the program.**  Writing what load calls have reached fails without being
reported in exactly these ways: the output directory is neither there nor can it be made; a number
of a query is not finite, when the queries before it are written; or the text of an output holds a
lone surrogate, when the outputs before it are written and its file is open. -/
theorem writeAll_escapes_iff (calls : List LoadCall) (skipDefaults : Bool) (directory : Path)
    (files : FileStore) (failure : Failure) :
    ((writeAll directory skipDefaults (Inventory.reached calls) files).result = .error failure ∧
        failure.reported = false) ↔
      Escapes directory skipDefaults (Inventory.reached calls) files failure := by
  constructor
  · rintro ⟨failed, unreported⟩
    exact escapes_of_fails ⟨_, Session.eq_of_result failed⟩ unreported
  · intro escapes
    obtain ⟨⟨_, events, ended⟩, unreported⟩ := fails_of_escapes escapes
    exact ⟨congrArg Ending.result ended, unreported⟩

/-- A query with a parameter that is a number and yet not a number. -/
def numberlessQuery : Query where
  id := "q"
  dataSourceId := ""
  name := "Numberless"
  description := none
  text := ""
  schedule := none
  options := ⟨[{ name := "p", title := none, value := .number (some .nan) }]⟩
  tags := []
  visualizations := []

/-- Writing an inventory ends the program where a file stands in place of the output directory; and
where nothing stands in its way, it ends the program when the number cannot be written, and when a
chart has a lone surrogate in its options. -/
theorem writeAll_escapes :
    ∃ calls calls',
      (Inventory.reached calls).queries.map Entry.object = [numberlessQuery] ∧
      (Inventory.reached calls').queries.map Entry.object = [Export.chartQuery
        Export.surrogateOptions] ∧
      (writeAll (Path.ofText "out") true (Inventory.reached calls)
        { entries := [(["out"], .file [])], workingDirectory := [] }).result =
          .error (.directory ⟨.exists, Path.ofText "out"⟩) ∧
      (writeAll (Path.ofText "out") true (Inventory.reached calls) Export.noFiles).result =
        .error (.rendering .notANumber) ∧
      (writeAll (Path.ofText "out") true (Inventory.reached calls') Export.noFiles).result =
        .error (.unencodable ⟨0xD800, 264, 264⟩) ∧
      (Failure.directory ⟨.exists, Path.ofText "out"⟩).reported = false ∧
      (Failure.rendering .notANumber).reported = false ∧
      (Failure.unencodable ⟨0xD800, 264, 264⟩).reported = false :=
  ⟨[⟨servingFetcher [] [numberlessQuery], .query, "q"⟩],
    [⟨servingFetcher [] [Export.chartQuery Export.surrogateOptions], .query, "q"⟩],
    by decide +kernel, by decide +kernel, by decide +kernel, by decide +kernel, by decide +kernel,
    rfl, rfl, rfl⟩

end Output

end DashboardExport
