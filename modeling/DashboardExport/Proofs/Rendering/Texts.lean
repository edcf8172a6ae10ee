import DashboardExport.Proofs.Rendering.Heredoc
import DashboardExport.Proofs.Rendering.Settings

/-!
# Texts of queries and widgets

The text of a query and the text of a widget are written as they are, in a here document.
Everything else in the file stays the same whatever the text is, and the document is read
as the text exactly when no line of the text is the marker once its leading blanks are
dropped (`texts_carried`).  A text with such a line ends its document early: what stands
behind the line is read as configuration (`texts_not_escaped`).
-/

set_option autoImplicit false

namespace DashboardExport

/-- The query with another text. -/
def Entry.withText (entry : Entry Query) (text : String) : Entry Query :=
  { entry with object := { entry.object with text } }

/-- The widget with another text. -/
def Entry.showing (entry : Entry Widget) (text : Option String) : Entry Widget :=
  { entry with object := { entry.object with text } }

namespace Rendering

open Hcl (Item Writer)
open Text (Uncut)

/-! ## Documents -/

/-- A file carries a text in a here document, whatever the text is: the lines before the one that
opens the document and those behind its marker stay the same.  The document is read as the text
exactly when no line of the text closes it. -/
def Carries {α : Type} (body : α → Option String) (file : α → Except Failure String)
    (opener marker : String) (before after : List String) : Prop :=
  ∀ text : α,
    (∃ written, file text = .ok written ∧
      linesOf written = before ++ opener :: (bodyLines (body text) ++ marker :: after)) ∧
    (readBody marker (bodyLines (body text) ++ marker :: after) =
        some (bodyLines (body text), after) ↔
      ∀ line ∈ bodyLines (body text), closes marker line = false)

/-- The lines of a file before a here document that stands in a block. -/
def linesBefore (earlier : List Item) (header : String) (settings : List Item) : List String :=
  (Item.added 0 earlier ++ (Item.added 0 [.line (header ++ " \x7b")] ++
    Item.added 1 settings)).flatMap linesOf

/-- The lines of a file behind a here document that stands in a block. -/
def linesBehind (later rest : List Item) : List String :=
  (Item.added 1 later ++ Item.added 0 [.line "\x7d"] ++ Item.added 0 rest).flatMap linesOf ++ [""]

/-- The lines of a file with a block that holds a here document. -/
theorem linesOf_render_block {earlier settings later rest : List Item} {header key marker : String}
    {body : Option String} {opener : String}
    (opening : Writer.lineEntry 1 (key ++ " = <<" ++ marker) = opener)
    (opens : linesOf opener = [opener]) (marks : linesOf marker = [marker]) :
    linesOf (Item.render
        (earlier ++ .block header (settings ++ .heredoc key marker body :: later) :: rest)) =
      linesBefore earlier header settings ++
        opener :: (bodyLines body ++ marker :: linesBehind later rest) := by
  refine linesOf_render ?_ opens marks
  have line : Item.added 1 [.line (key ++ " = <<" ++ marker)] = [opener] :=
    congrArg (fun entry => [entry]) opening
  rw [Item.added_append, Item.added_cons, Item.added_heredoc_block, line]
  simp only [List.append_assoc, List.cons_append, List.nil_append]

/-- **A file with a block that holds a here document carries the text of the document.** -/
theorem carries_of_render {α : Type} {body : α → Option String} {file : α → Except Failure String}
    {earlier settings later rest : List Item} {header key marker : String}
    (made : ∀ text, file text = .ok (Item.render
      (earlier ++ .block header (settings ++ .heredoc key marker (body text) :: later) :: rest)))
    {opener : String} (opening : Writer.lineEntry 1 (key ++ " = <<" ++ marker) = opener)
    (opens : linesOf opener = [opener]) (marks : linesOf marker = [marker])
    (ends : closes marker marker = true) :
    Carries body file opener marker (linesBefore earlier header settings)
      (linesBehind later rest) := by
  intro text
  exact ⟨⟨_, made text, linesOf_render_block opening opens marks⟩, readBody_append_iff ends⟩

/-! ## The text of a query -/

/-- A line behind which a query's text stands is no line before it. -/
theorem opener_not_mem_linesBefore {header : String} (whole : Uncut (· == '\n') header.toList)
    {settings : List Item} (plain : Settings settings) {opener : String}
    (opens : opener.toList.getLast?.all endsSetting = false) :
    opener ∉ linesBefore [] header settings := by
  have headed : SettingLine (header ++ " \x7b") := settingLine_header whole
  intro member
  obtain ⟨entry, inside, line⟩ := List.mem_flatMap.1 member
  have setting : SettingLine entry := by
    rcases List.mem_append.1 inside with first | other
    · exact absurd first List.not_mem_nil
    · rcases List.mem_append.1 other with here | later
      · exact settingLine_of_mem_added (settings_line headed) here
      · exact settingLine_of_mem_added plain later
  rw [setting.linesOf_eq, List.mem_singleton] at line
  rw [line, setting.last] at opens
  cases opens

/-- **The file of a query carries its text**, and no line before the document is like the one that
opens it. -/
theorem exists_carries_query {skipDefaults : Bool} {inventory : Inventory} {entry : Entry Query}
    {file : String} (rendered : renderQuery skipDefaults inventory entry = .ok file) :
    ∃ before after, ('\n' ∉ entry.resourceName.toList → "  query = <<SQL" ∉ before) ∧
      Carries some (fun text => renderQuery skipDefaults inventory (entry.withText text))
        "  query = <<SQL" "SQL" before after := by
  obtain ⟨_, visualizations, first, others, rfl⟩ := renderQuery_eq_ok_iff.1 rendered
  obtain ⟨parameters, made, rfl⟩ := queryItem_eq_ok_iff.1 first
  have fileMade (text : String) : renderQuery skipDefaults inventory (entry.withText text) =
      .ok (Item.render ([] ++ resource queryResource entry.resourceName
        (querySettings entry.object parameters ++ .heredoc "query" "SQL" (some text) :: []) ::
          apart visualizations)) :=
    renderQuery_eq_ok_iff.2
      ⟨_, visualizations, queryItem_eq_ok_iff.2 ⟨parameters, made, rfl⟩, others, rfl⟩
  refine ⟨_, _, fun whole => ?_, carries_of_render fileMade (by decide) (by decide) (by decide)
    (by decide)⟩
  exact opener_not_mem_linesBefore (uncut_header queryResource whole (by decide))
    (settings_querySettings made) (by decide)

/-! ## The text of a widget -/

/-- **The file of a dashboard carries the text of every widget that shows one.** -/
theorem exists_carries_widget {inventory : Inventory} {dashboard : Entry Dashboard}
    {left right : List (Entry Widget)} {widget : Entry Widget}
    (listed : inventory.widgets = left ++ widget :: right)
    (own : widget.object.dashboardId = dashboard.remoteId)
    (noLink : widget.object.visualizationId = none) {file : String}
    (rendered : renderDashboard inventory dashboard = .ok file) :
    ∃ before after, Carries id
      (fun text => renderDashboard
        { inventory with widgets := left ++ widget.showing text :: right } dashboard)
      "  text = <<EOT" "EOT" before after := by
  have same : inventory = { inventory with widgets := left ++ widget :: right } := by
    rw [← listed]
  rw [same] at rendered
  obtain ⟨first, _, last, firstMade, itemMade, lastMade, rfl⟩ :=
    (renderDashboard_append_cons_eq_ok_iff own).1 rendered
  obtain ⟨_, mappings, _, done, rfl⟩ := widgetItem_eq_ok_iff.1 itemMade
  have fileMade (text : Option String) : renderDashboard
      { inventory with widgets := left ++ widget.showing text :: right } dashboard =
      .ok (Item.render ((dashboardItem dashboard :: (apart first ++ [Item.gap])) ++
        resource widgetResource widget.resourceName
          ([reference "dashboard_id" dashboardResource dashboard.resourceName] ++
            .heredoc "text" "EOT" text :: placement widget.object.options mappings) ::
          apart last)) := by
    refine (renderDashboard_append_cons_eq_ok_iff ?_).2 ⟨first, _, last, firstMade,
      widgetItem_eq_ok_iff.2 ⟨_, mappings, contentItem_eq_ok_iff.2 (.inl ⟨?_, rfl⟩), done, rfl⟩,
      lastMade, rfl⟩
    · exact own
    · exact noLink
  exact ⟨_, _, carries_of_render fileMade (by decide) (by decide) (by decide) (by decide)⟩

/-! ## Main results -/

/-- **Texts are written as they are, and change nothing around them.**  For every query and every
text of it, and for every widget and every text of it: the lines before and behind the here
document do not depend on the text, and the document is read as exactly the text, up to the marker
that was written behind it, if and only if no line of the text closes the document. -/
theorem texts_carried (skipDefaults : Bool) (inventory : Inventory) :
    (∀ (entry : Entry Query) (file : String),
      renderQuery skipDefaults inventory entry = .ok file →
        ∃ before after, ('\n' ∉ entry.resourceName.toList → "  query = <<SQL" ∉ before) ∧
          Carries some (fun text => renderQuery skipDefaults inventory (entry.withText text))
            "  query = <<SQL" "SQL" before after) ∧
    ∀ (dashboard : Entry Dashboard) (left : List (Entry Widget)) (widget : Entry Widget)
      (right : List (Entry Widget)) (file : String),
      inventory.widgets = left ++ widget :: right →
      widget.object.dashboardId = dashboard.remoteId →
      widget.object.visualizationId = none →
      renderDashboard inventory dashboard = .ok file →
        ∃ before after, Carries id
          (fun text => renderDashboard
            { inventory with widgets := left ++ widget.showing text :: right } dashboard)
          "  text = <<EOT" "EOT" before after := by
  constructor
  · intro entry file rendered
    exact exists_carries_query rendered
  · intro dashboard left widget right file listed own noLink rendered
    exact exists_carries_widget listed own noLink rendered

/-- A query with a line in its text that is the marker of its here document. -/
def closingQuery : Entry Query where
  remoteId := "1"
  resourceName := "sales"
  object :=
    { id := "1", dataSourceId := "2", name := "Sales", description := none,
      text := "SELECT 1\nSQL\n\x7d", schedule := none, options := ⟨[]⟩, tags := [],
      visualizations := [] }

/-- A dashboard of a single widget. -/
def welcomeDashboard : Entry Dashboard where
  remoteId := "3"
  resourceName := "welcome"
  object := { id := "3", name := "Welcome", tags := [], widgets := [] }

/-- The widget, which shows a text. -/
def welcomeWidget : Entry Widget where
  remoteId := "4"
  resourceName := "welcome_0"
  object :=
    { id := "4", dashboardId := "3", text := some "# Welcome", visualization := none,
      visualizationId := none, options := ⟨none, []⟩ }

theorem texts_carried_welcome :
    (∃ file before after,
      renderQuery true Inventory.empty (closingQuery.withText "SELECT 1\n -- SQL") = .ok file ∧
        linesOf file = before ++ "  query = <<SQL" :: "SELECT 1" :: " -- SQL" :: "SQL" :: after ∧
        readBody "SQL" ("SELECT 1" :: " -- SQL" :: "SQL" :: after) =
          some (["SELECT 1", " -- SQL"], after)) ∧
    ∃ file before after,
      renderDashboard { Inventory.empty with widgets := [welcomeWidget.showing (some "EOT.")] }
          welcomeDashboard = .ok file ∧
        linesOf file = before ++ "  text = <<EOT" :: "EOT." :: "EOT" :: after ∧
        readBody "EOT" ("EOT." :: "EOT" :: after) = some (["EOT."], after) := by
  constructor
  · obtain ⟨before, after, _, query⟩ := (texts_carried true Inventory.empty).1 closingQuery _ rfl
    obtain ⟨⟨file, rendered, lines⟩, read⟩ := query "SELECT 1\n -- SQL"
    exact ⟨file, before, after, rendered, lines, read.2 (by decide +kernel)⟩
  · obtain ⟨before, after, widget⟩ :=
      (texts_carried true { Inventory.empty with widgets := [welcomeWidget] }).2
        welcomeDashboard [] welcomeWidget [] _ rfl rfl rfl rfl
    obtain ⟨⟨file, rendered, lines⟩, read⟩ := widget (some "EOT.")
    exact ⟨file, before, after, rendered, lines, read.2 (by decide +kernel)⟩

/-- **A text with the marker on a line of its own ends its here document early.**  What stands
behind that line in the text is read as configuration. -/
theorem texts_not_escaped :
    ∃ file before, renderQuery true Inventory.empty closingQuery = .ok file ∧
      linesOf file = before ++ "  query = <<SQL" ::
        (linesOf closingQuery.object.text ++ "SQL" :: ["\x7d", ""]) ∧
      "  query = <<SQL" ∉ before ∧
      linesOf closingQuery.object.text = ["SELECT 1", "SQL", "\x7d"] ∧
      readBody "SQL" (linesOf closingQuery.object.text ++ "SQL" :: ["\x7d", ""]) =
        some (["SELECT 1"], ["\x7d", "SQL", "\x7d", ""]) := by
  refine ⟨_, ["resource \"databricks_sql_query\" \"sales\" \x7b", "  data_source_id = \"2\"",
    "  name = \"Sales\"", "", "  tags = [", "  ]", ""], rfl, ?_⟩
  decide +kernel

end Rendering

end DashboardExport
