import DashboardExport.Proofs.Rendering.Options
import DashboardExport.Proofs.Rendering.Settings

/-!
# References between resources

A resource refers to another one by a configuration line that sets a key to the id of that
resource.  The other configuration lines of a resource, those of its header and of its
settings and those that open its here documents, never end as such a line does
(`Refers`).  So the references of a resource are those that its items were given
(`ResourceLines`), as long as every here document ends where it was meant to and every name
is part of a line.

The configuration lines of a file are those of its resources (`configurationLines_file`).
In the file of a query, the visualizations refer to the query, which comes first
(`queryRefers_of_renderQuery`).
-/

set_option autoImplicit false

namespace DashboardExport.Rendering

open Hcl (Item Writer)
open Text (Uncut)

/-! ## Reference lines -/

/-- The line that sets a key to the id of a resource. -/
def referenceLine (key type name : String) : String :=
  key ++ " = " ++ (type ++ "." ++ name ++ ".id")

/-- Whether a line, without the blanks before it, sets a key to the id of a resource. -/
def IsReference (key type name line : String) : Prop :=
  line.toList.dropWhile Text.isBlank = (referenceLine key type name).toList

instance (key type name line : String) : Decidable (IsReference key type name line) :=
  inferInstanceAs (Decidable (line.toList.dropWhile Text.isBlank = _))

/-- Among lines there is one that sets a key to the id of a resource. -/
def RefersTo (lines : List String) (key type name : String) : Prop :=
  ∃ line ∈ lines, IsReference key type name line

theorem referenceLine_inj {key type name other : String} :
    referenceLine key type name = referenceLine key type other ↔ name = other := by
  refine ⟨fun same => ?_, congrArg (referenceLine key type)⟩
  rw [referenceLine, referenceLine, String.append_right_inj, String.append_left_inj,
    String.append_right_inj] at same
  exact same

theorem getLast?_toList_append (left : String) {right : String} {c : Char}
    (last : right.toList.getLast? = some c) : (left ++ right).toList.getLast? = some c := by
  rw [String.toList_append, List.getLast?_append, last, Option.some_or]

theorem getLast?_referenceLine (key type name : String) :
    (referenceLine key type name).toList.getLast? = some 'd' :=
  getLast?_toList_append _ (getLast?_toList_append _ rfl)

/-- **A line that ends otherwise is no reference.** -/
theorem not_isReference {line : String} (last : line.toList.getLast? ≠ some 'd')
    (key type name : String) : ¬ IsReference key type name line := by
  intro same
  obtain ⟨before, whole⟩ := List.dropWhile_suffix Text.isBlank (l := line.toList)
  rw [same] at whole
  rw [← whole, List.getLast?_append, getLast?_referenceLine, Option.some_or] at last
  exact last rfl

/-- References that set keys with different first letters differ. -/
theorem referenceLine_ne {key other : String} {c d : Char} (first : key.toList.head? = some c)
    (second : other.toList.head? = some d) (apart : c ≠ d)
    (type name otherType otherName : String) :
    referenceLine key type name ≠ referenceLine other otherType otherName := by
  have head {key : String} {c : Char} (first : key.toList.head? = some c) (type name : String) :
      (referenceLine key type name).toList.head? = some c := by
    rw [referenceLine, String.toList_append, String.toList_append, List.append_assoc,
      List.head?_append, first, Option.some_or]
  intro same
  have heads := congrArg (fun line => line.toList.head?) same
  rw [head first, head second] at heads
  exact apart (Option.some.inj heads)

/-- A reference is indented, since it is not empty. -/
theorem lineEntry_referenceLine (depth : Nat) (key type name : String) :
    Writer.lineEntry depth (referenceLine key type name) =
      Writer.indentation depth ++ referenceLine key type name := by
  refine Writer.lineEntry_of_ne_empty (fun empty => ?_) depth
  have last := getLast?_referenceLine key type name
  rw [empty] at last
  cases last

/-- The indentation of a reference does not count. -/
theorem isReference_lineEntry_iff {key type name : String} (depth : Nat)
    (starts : (key.toList.head?.any fun c => !Text.isBlank c) = true)
    {otherKey otherType otherName : String} :
    IsReference otherKey otherType otherName
        (Writer.lineEntry depth (referenceLine key type name)) ↔
      referenceLine otherKey otherType otherName = referenceLine key type name := by
  have blanks : ∀ c ∈ (Writer.indentation depth).toList, Text.isBlank c = true := by
    intro c member
    rw [Writer.indentation, String.toList_ofList] at member
    rw [List.eq_of_mem_replicate member]
    decide
  have kept : (referenceLine key type name).toList.dropWhile Text.isBlank =
      (referenceLine key type name).toList := by
    obtain ⟨c, first, ink⟩ := (Option.any_eq_true _ _).1 starts
    obtain ⟨others, same⟩ := List.head?_eq_some_iff.1 first
    rw [referenceLine, String.toList_append, String.toList_append, same]
    exact List.dropWhile_cons_of_neg (by simpa using ink)
  rw [IsReference, lineEntry_referenceLine, String.toList_append,
    List.dropWhile_append_of_pos blanks, kept, String.toList_inj, eq_comm]

/-! ## Entries with references -/

/-- Entries that are read as lines with certain references among them, and no others. -/
def Refers (entries references : List String) : Prop := ∃ lines, Reads entries lines ∧
  ∀ key type name, RefersTo lines key type name ↔ referenceLine key type name ∈ references

theorem refersTo_append_iff {left right : List String} {key type name : String} :
    RefersTo (left ++ right) key type name ↔
      RefersTo left key type name ∨ RefersTo right key type name := by
  simp only [RefersTo, List.mem_append, or_and_right, exists_or]

theorem refersTo_singleton_iff {line key type name : String} :
    RefersTo [line] key type name ↔ IsReference key type name line := by
  simp only [RefersTo, List.mem_singleton, exists_eq_left]

theorem Refers.append {first second earlier later : List String} (refers : Refers first earlier)
    (further : Refers second later) : Refers (first ++ second) (earlier ++ later) := by
  obtain ⟨firstLines, firstReads, firstRefers⟩ := refers
  obtain ⟨secondLines, secondReads, secondRefers⟩ := further
  refine ⟨_, firstReads.append secondReads, fun key type name => ?_⟩
  rw [refersTo_append_iff, firstRefers, secondRefers, List.mem_append]

/-- Entries that are read as lines which end otherwise refer to nothing. -/
theorem refers_nothing {entries lines : List String} (reads : Reads entries lines)
    (ends : ∀ line ∈ lines, line.toList.getLast? ≠ some 'd') : Refers entries [] := by
  refine ⟨lines, reads, fun key type name => ?_⟩
  refine iff_of_false ?_ List.not_mem_nil
  rintro ⟨line, member, same⟩
  exact not_isReference (ends line member) key type name same

/-- The line of a setting does not end as a reference does. -/
theorem SettingLine.getLast?_ne {line : String} (setting : SettingLine line) :
    line.toList.getLast? ≠ some 'd' := by
  intro last
  have ends := setting.last
  rw [last] at ends
  cases ends

/-- **Settings refer to nothing.** -/
theorem refers_settings {items : List Item} (settings : Settings items) (depth : Nat) :
    Refers (Item.added depth items) [] :=
  refers_nothing (settings.reads depth) fun _ member =>
    (settingLine_of_mem_added settings member).getLast?_ne

/-- **A reference refers to the resource that it names.** -/
theorem refers_reference {key type name : String} (depth : Nat)
    (starts : (key.toList.head?.any fun c => !Text.isBlank c) = true)
    (keyed : Uncut (· == '\n') key.toList) (typed : Uncut (· == '\n') type.toList)
    (whole : '\n' ∉ name.toList) :
    Refers (Item.added depth [reference key type name]) [referenceLine key type name] := by
  have entry : Item.added depth [reference key type name] =
      [Writer.indentation depth ++ referenceLine key type name] :=
    congrArg ([·]) (lineEntry_referenceLine depth key type name)
  have bounded : Bounded (Writer.indentation depth ++ referenceLine key type name) :=
    (((by decide : Bounded ".id").append (type ++ "." ++ name)).append (key ++ " = ")).append _
  have inLine : Uncut (· == '\n') name.toList := fun c member =>
    beq_false_of_ne fun same => whole (same ▸ member)
  have line : linesOf (Writer.indentation depth ++ referenceLine key type name) =
      [Writer.indentation depth ++ referenceLine key type name] := by
    refine linesOf_of_uncut ?_
    simp only [referenceLine, String.toList_append, Text.uncut_append]
    exact ⟨uncut_indentation depth, ⟨keyed, by decide⟩, ⟨⟨typed, by decide⟩, inLine⟩, by decide⟩
  rw [entry]
  refine ⟨_, reads_line line (opened?_eq_none bounded), fun otherKey otherType otherName => ?_⟩
  rw [refersTo_singleton_iff, List.mem_singleton, ← lineEntry_referenceLine,
    isReference_lineEntry_iff depth starts]

/-- A line that opens the here document of a marker, and is no reference. -/
structure OpensDocument (opener marker : String) : Prop where
  opens : opened? opener = some marker
  whole : linesOf opener = [opener]
  last : opener.toList.getLast? ≠ some 'd'
  marks : linesOf marker = [marker]
  ends : closes marker marker = true

/-- **A here document refers to nothing**, when no line of its body is its marker. -/
theorem refers_document {depth : Nat} {key marker : String} {body : Option String}
    (opening : OpensDocument (Writer.lineEntry depth (key ++ " = <<" ++ marker)) marker)
    (goesOn : ∀ line ∈ bodyLines body, closes marker line = false) :
    Refers (Item.added depth [.heredoc key marker body]) [] := by
  rw [Item.added_heredoc]
  have reads := reads_document opening.opens opening.whole opening.marks opening.ends goesOn
  exact refers_nothing reads (List.forall_mem_singleton.2 opening.last)

/-! ## Resources -/

/-- The first line of a resource of a type under a name. -/
def headerLine (type name : String) : String :=
  "resource \"" ++ type ++ "\" \"" ++ name ++ "\"" ++ " \x7b"

/-- The configuration lines of a resource: its first line, and exactly the given references among
them. -/
structure ResourceLines (type name : String) (references lines : List String) : Prop where
  header : lines.head? = some (headerLine type name)
  references : ∀ key otherType otherName, RefersTo lines key otherType otherName ↔
    referenceLine key otherType otherName ∈ references

/-- **A resource refers to what the items in it refer to.** -/
theorem exists_lines_resource {type name : String} {items : List Item} {references : List String}
    (typed : Uncut (· == '\n') type.toList) (whole : '\n' ∉ name.toList)
    (refers : Refers (Item.added 1 items) references) :
    ∃ lines, Reads (Item.added 0 [resource type name items]) lines ∧
      ResourceLines type name references lines := by
  obtain ⟨inside, reads, among⟩ := refers
  have header : SettingLine (headerLine type name) :=
    settingLine_header (uncut_header type whole typed)
  have closing : SettingLine "\x7d" := ⟨by decide, by decide, by decide⟩
  have entries : Item.added 0 [resource type name items] =
      [headerLine type name] ++ (Item.added 1 items ++ ["\x7d"]) := by
    rw [resource, Item.added_block]
    exact congrArg (fun line => [line] ++ (Item.added 1 items ++ ["\x7d"]))
      (Writer.lineEntry_zero (headerLine type name))
  have noReference {line : String} (setting : SettingLine line) (key otherType otherName : String) :
      ¬ RefersTo [line] key otherType otherName := by
    rw [refersTo_singleton_iff]
    exact not_isReference setting.getLast?_ne key otherType otherName
  refine ⟨[headerLine type name] ++ (inside ++ ["\x7d"]), ?_, rfl,
    fun key otherType otherName => ?_⟩
  · rw [entries]
    exact header.reads.append (reads.append closing.reads)
  · rw [refersTo_append_iff, refersTo_append_iff, among,
      or_iff_right (noReference header key otherType otherName),
      or_iff_left (noReference closing key otherType otherName)]

/-- **The resource of a query refers to nothing.** -/
theorem exists_lines_queryItem {entry : Entry Query} {item : Item}
    (made : queryItem entry = .ok item) (whole : '\n' ∉ entry.resourceName.toList)
    (goesOn : ∀ line ∈ linesOf entry.object.text, closes "SQL" line = false) :
    ∃ lines, Reads (Item.added 0 [item]) lines ∧
      ResourceLines queryResource entry.resourceName [] lines := by
  obtain ⟨parameters, parametersMade, rfl⟩ := queryItem_eq_ok_iff.1 made
  refine exists_lines_resource (by decide) whole ?_
  rw [← bodyLines_some] at goesOn
  rw [Item.added_append]
  have opening : OpensDocument (Writer.lineEntry 1 ("query" ++ " = <<" ++ "SQL")) "SQL" := by
    constructor <;> decide
  exact (refers_settings (settings_querySettings parametersMade) 1).append
    (refers_document opening goesOn)

/-- **The resource of a visualization refers to its query**, and to nothing else. -/
theorem exists_lines_visualizationItem {skipDefaults : Bool} {query : Entry Query}
    {entry : Entry Visualization} {item : Item}
    (made : visualizationItem skipDefaults query entry = .ok item)
    (queryWhole : '\n' ∉ query.resourceName.toList) (whole : '\n' ∉ entry.resourceName.toList) :
    ∃ lines, Reads (Item.added 0 [item]) lines ∧
      ResourceLines visualizationResource entry.resourceName
        [referenceLine "query_id" queryResource query.resourceName] lines := by
  obtain ⟨options, written, rfl⟩ := visualizationItem_eq_ok_iff.1 made
  obtain ⟨value, _, rfl⟩ := except_map_eq_ok_iff.1 written
  have goesOn : ∀ line ∈ bodyLines (some value.pretty), closes "JSON" line = false := by
    rw [bodyLines_some]
    exact fun line member => closes_eq_false member
  have opening : OpensDocument (Writer.lineEntry 1 ("options" ++ " = <<" ++ "JSON")) "JSON" := by
    constructor <;> decide
  have link : Refers (Item.added 1 [reference "query_id" queryResource query.resourceName])
      [referenceLine "query_id" queryResource query.resourceName] :=
    refers_reference 1 (by decide) (by decide) (by decide) queryWhole
  have front := link.append (refers_settings (settings_visualization entry.object) 1)
  rw [← Item.added_append] at front
  refine exists_lines_resource (by decide) whole ?_
  rw [Item.added_append]
  exact front.append (refers_document opening goesOn)

/-- **The resource of a dashboard refers to nothing.** -/
theorem exists_lines_dashboardItem {entry : Entry Dashboard}
    (whole : '\n' ∉ entry.resourceName.toList) :
    ∃ lines, Reads (Item.added 0 [dashboardItem entry]) lines ∧
      ResourceLines dashboardResource entry.resourceName [] lines := by
  refine exists_lines_resource (by decide) whole (refers_settings ?_ 1)
  exact settings_cons (settings_assignment (by decide) _)
    (settings_cons settings_gap (settings_strings (by decide) _))

/-- The visualization that a widget shows. -/
def shownBy (inventory : Inventory) (widget : Entry Widget) : Option (Entry Visualization) :=
  widget.object.visualizationId.bind inventory.findVisualization

/-- What a widget shows stays where it is written: no line of its text closes the here document of
the text, and the name of its visualization has no line end. -/
structure ContainedWidget (inventory : Inventory) (widget : Entry Widget) : Prop where
  text : widget.object.visualizationId = none →
    ∀ line ∈ bodyLines widget.object.text, closes "EOT" line = false
  name : ∀ shown ∈ shownBy inventory widget, '\n' ∉ shown.resourceName.toList

/-- The references of a widget to what it shows. -/
def contentReferences (inventory : Inventory) (widget : Entry Widget) : List String :=
  (shownBy inventory widget).toList.map fun shown =>
    referenceLine "visualization_id" visualizationResource shown.resourceName

theorem refers_content {inventory : Inventory} {widget : Entry Widget} {content : Item}
    (made : contentItem inventory widget = .ok content)
    (contained : ContainedWidget inventory widget) :
    Refers (Item.added 1 [content]) (contentReferences inventory widget) := by
  rcases contentItem_eq_ok_iff.1 made with ⟨noLink, rfl⟩ | ⟨id, shown, link, found, rfl⟩
  · have opening : OpensDocument (Writer.lineEntry 1 ("text" ++ " = <<" ++ "EOT")) "EOT" := by
      constructor <;> decide
    rw [contentReferences, shownBy, noLink]
    exact refers_document opening (contained.text noLink)
  · have here : shownBy inventory widget = some shown := by
      rw [shownBy, link, Option.bind_some, found]
    rw [contentReferences, here]
    exact refers_reference 1 (by decide) (by decide) (by decide) (contained.name shown here)

/-- **The resource of a widget refers to its dashboard and to the visualization that it shows**,
and to nothing else. -/
theorem exists_lines_widgetItem {inventory : Inventory} {dashboard : Entry Dashboard}
    {widget : Entry Widget} {item : Item}
    (made : widgetItem inventory dashboard widget = .ok item)
    (dashboardWhole : '\n' ∉ dashboard.resourceName.toList)
    (whole : '\n' ∉ widget.resourceName.toList) (contained : ContainedWidget inventory widget) :
    ∃ lines, Reads (Item.added 0 [item]) lines ∧
      ResourceLines widgetResource widget.resourceName
        (referenceLine "dashboard_id" dashboardResource dashboard.resourceName ::
          contentReferences inventory widget) lines := by
  obtain ⟨content, mappings, shows, done, rfl⟩ := widgetItem_eq_ok_iff.1 made
  have link : Refers
      (Item.added 1 [reference "dashboard_id" dashboardResource dashboard.resourceName])
      [referenceLine "dashboard_id" dashboardResource dashboard.resourceName] :=
    refers_reference 1 (by decide) (by decide) (by decide) dashboardWhole
  have rest := (refers_content shows contained).append
    (refers_settings (settings_placement done) 1)
  rw [List.append_nil, ← Item.added_cons] at rest
  refine exists_lines_resource (by decide) whole ?_
  rw [Item.added_append]
  exact link.append rest

/-! ## Files -/

/-- The configuration lines of a file: those of its first resource, and behind it those of the
others, each behind an empty line. -/
def fileLines (first : List String) (others : List (List String)) : List String :=
  first ++ (others.flatMap fun lines => "" :: lines) ++ [""]

theorem reads_apart {items : List Item} {parts : List (List String)}
    (each : List.Forall₂ (fun item lines => Reads (Item.added 0 [item]) lines) items parts) :
    Reads (Item.added 0 (apart items)) (parts.flatMap fun lines => "" :: lines) := by
  have gap : Reads (Item.added 0 [Item.gap]) [""] := settings_gap.reads 0
  induction each with
  | nil => exact reads_nil
  | cons here _ ih =>
      rw [apart, List.flatMap_cons, Item.added_append, Item.added_cons]
      exact (gap.append here).append ih

theorem added_resource_ne_nil (type name : String) (contents rest : List Item) :
    Item.added 0 (resource type name contents :: rest) ≠ [] := by
  rw [Item.added_cons, resource, Item.added_block]
  exact List.cons_ne_nil _ _

/-- **The configuration lines of a file are those of its resources.** -/
theorem configurationLines_file {type name : String} {contents groups : List Item}
    {first : List String} {parts : List (List String)}
    (head : Reads (Item.added 0 [resource type name contents]) first)
    (each : List.Forall₂ (fun item lines => Reads (Item.added 0 [item]) lines) groups parts) :
    configurationLines none
        (linesOf (Item.render (resource type name contents :: apart groups))) =
      fileLines first parts := by
  refine configurationLines_render (added_resource_ne_nil type name contents _) ?_
  rw [Item.added_cons]
  exact head.append (reads_apart each)

/-! ## The file of a query -/

/-- What a query shows stays where it is written: no line of its text closes the here document of
the text, and the names of its visualizations have no line end. -/
structure ContainedQuery (inventory : Inventory) (query : Entry Query) : Prop where
  text : ∀ line ∈ linesOf query.object.text, closes "SQL" line = false
  names : ∀ entry ∈ inventory.visualizationsFor query, '\n' ∉ entry.resourceName.toList

/-- The configuration lines of a query's file: the query's resource comes first and refers to
nothing, and each of its visualizations refers to it. -/
def QueryRefers (inventory : Inventory) (query : Entry Query) (lines : List String) : Prop :=
  ∃ first visualizations, lines = fileLines first visualizations ∧
    ResourceLines queryResource query.resourceName [] first ∧
    List.Forall₂
      (fun entry => ResourceLines visualizationResource entry.resourceName
        [referenceLine "query_id" queryResource query.resourceName])
      (inventory.visualizationsFor query) visualizations

/-- **In the file of a query, visualizations refer to the query.** -/
theorem queryRefers_of_renderQuery {skipDefaults : Bool} {inventory : Inventory}
    {query : Entry Query} {file : String}
    (rendered : renderQuery skipDefaults inventory query = .ok file)
    (whole : '\n' ∉ query.resourceName.toList) (contained : ContainedQuery inventory query) :
    QueryRefers inventory query (configurationLines none (linesOf file)) := by
  obtain ⟨item, items, itemMade, made, rfl⟩ := renderQuery_eq_ok_iff.1 rendered
  obtain ⟨first, head, own⟩ := exists_lines_queryItem itemMade whole contained.text
  obtain ⟨parts, reads, refers⟩ := exists_forall₂_of_forall₂ (mapM_eq_ok_iff.1 made)
    fun entry inside item entryMade =>
      exists_lines_visualizationItem entryMade whole (contained.names entry inside)
  obtain ⟨_, _, rfl⟩ := queryItem_eq_ok_iff.1 itemMade
  exact ⟨first, parts, configurationLines_file head reads, own, refers⟩

/-- A visualization has its header among the configuration lines of its query's file. -/
theorem QueryRefers.headerLine_mem {inventory : Inventory} {query : Entry Query}
    {lines : List String} (refers : QueryRefers inventory query lines)
    {entry : Entry Visualization} (member : entry ∈ inventory.visualizationsFor query) :
    headerLine visualizationResource entry.resourceName ∈ lines := by
  obtain ⟨first, parts, rfl, _, each⟩ := refers
  obtain ⟨part, inside, resource⟩ := exists_mem_of_forall₂ each.flip member
  obtain ⟨others, rfl⟩ := List.head?_eq_some_iff.1 resource.header
  refine List.mem_append_left _ (List.mem_append_right _ (List.mem_flatMap.2 ⟨_, inside, ?_⟩))
  exact List.mem_cons_of_mem _ List.mem_cons_self

end DashboardExport.Rendering
