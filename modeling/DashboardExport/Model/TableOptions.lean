import DashboardExport.Decoding.Field
import DashboardExport.Json.Printer

/-!
# Options of table visualizations

The options of a table are its columns and the number of rows on a page.  The
service fills every column with all its settings; `toJson` can leave out those
that equal the setting in `TableColumn.filledIn`, which the service fills in
again.  A column's `order` is left out as well then, since the position in the
list carries it.  A payload that leaves settings out is decoded with those of
`TableColumn.default`.
-/

set_option autoImplicit false

namespace DashboardExport

open Decoding

/-- A column of a table. -/
structure TableColumn where
  name : String
  type : String
  title : String
  displayAs : String
  allowSearch : Bool
  numberFormat : String
  booleanValues : List String
  imageUrlTemplate : String
  imageTitleTemplate : String
  imageWidth : String
  imageHeight : String
  linkUrlTemplate : String
  linkTextTemplate : String
  linkTitleTemplate : String
  linkOpenInNewTab : Bool
  visible : Bool
  order : Int
  alignContent : String
  allowHtml : Bool
  highlightLinks : Bool
  deriving DecidableEq

/-- The options of a table. -/
structure TableOptions where
  itemsPerPage : Int
  columns : List TableColumn
  deriving DecidableEq

namespace TableColumn

def nameField : FieldName := .same "name"
def typeField : FieldName := .same "type"
def titleField : FieldName := .same "title"
def displayAsField : FieldName := ⟨"displayAs", "display_as"⟩
def allowSearchField : FieldName := ⟨"allowSearch", "allow_search"⟩
def numberFormatField : FieldName := ⟨"numberFormat", "number_format"⟩
def booleanValuesField : FieldName := ⟨"booleanValues", "boolean_values"⟩
def imageUrlTemplateField : FieldName := ⟨"imageUrlTemplate", "image_url_template"⟩
def imageTitleTemplateField : FieldName := ⟨"imageTitleTemplate", "image_title_template"⟩
def imageWidthField : FieldName := ⟨"imageWidth", "image_width"⟩
def imageHeightField : FieldName := ⟨"imageHeight", "image_height"⟩
def linkUrlTemplateField : FieldName := ⟨"linkUrlTemplate", "link_url_template"⟩
def linkTextTemplateField : FieldName := ⟨"linkTextTemplate", "link_text_template"⟩
def linkTitleTemplateField : FieldName := ⟨"linkTitleTemplate", "link_title_template"⟩
def linkOpenInNewTabField : FieldName := ⟨"linkOpenInNewTab", "link_open_in_new_tab"⟩
def visibleField : FieldName := .same "visible"
def orderField : FieldName := .same "order"
def alignContentField : FieldName := ⟨"alignContent", "align_content"⟩
def allowHtmlField : FieldName := ⟨"allowHTML", "allow_html"⟩
def highlightLinksField : FieldName := ⟨"highlightLinks", "highlight_links"⟩

/-- The template that stands for the cell's own value. -/
def cellTemplate : String := "\x7b\x7b @ \x7d\x7d"

/-- The column that a payload without settings stands for. -/
def default : TableColumn where
  name := ""
  type := ""
  title := ""
  displayAs := ""
  allowSearch := false
  numberFormat := ""
  booleanValues := ["false", "true"]
  imageUrlTemplate := cellTemplate
  imageTitleTemplate := cellTemplate
  imageWidth := ""
  imageHeight := ""
  linkUrlTemplate := cellTemplate
  linkTextTemplate := cellTemplate
  linkTitleTemplate := cellTemplate
  linkOpenInNewTab := true
  visible := true
  order := 0
  alignContent := "left"
  allowHtml := true
  highlightLinks := false

def decode : Json → Outcome TableColumn :=
  object fun members =>
    TableColumn.mk <$> nameField.optional default.name string members
      <*> typeField.optional default.type string members
      <*> titleField.optional default.title string members
      <*> displayAsField.optional default.displayAs string members
      <*> allowSearchField.optional default.allowSearch boolean members
      <*> numberFormatField.optional default.numberFormat string members
      <*> booleanValuesField.optional default.booleanValues (list string) members
      <*> imageUrlTemplateField.optional default.imageUrlTemplate string members
      <*> imageTitleTemplateField.optional default.imageTitleTemplate string members
      <*> imageWidthField.optional default.imageWidth string members
      <*> imageHeightField.optional default.imageHeight string members
      <*> linkUrlTemplateField.optional default.linkUrlTemplate string members
      <*> linkTextTemplateField.optional default.linkTextTemplate string members
      <*> linkTitleTemplateField.optional default.linkTitleTemplate string members
      <*> linkOpenInNewTabField.optional default.linkOpenInNewTab boolean members
      <*> visibleField.optional default.visible boolean members
      <*> orderField.optional default.order integer members
      <*> alignContentField.optional default.alignContent string members
      <*> allowHtmlField.optional default.allowHtml boolean members
      <*> highlightLinksField.optional default.highlightLinks boolean members

/-- All settings of a column, in the order of its fields. -/
def members (naming : Naming) (c : TableColumn) : Members :=
  [(nameField.under naming, .str c.name),
    (typeField.under naming, .str c.type),
    (titleField.under naming, .str c.title),
    (displayAsField.under naming, .str c.displayAs),
    (allowSearchField.under naming, .bool c.allowSearch),
    (numberFormatField.under naming, .str c.numberFormat),
    (booleanValuesField.under naming, .arr (c.booleanValues.map .str)),
    (imageUrlTemplateField.under naming, .str c.imageUrlTemplate),
    (imageTitleTemplateField.under naming, .str c.imageTitleTemplate),
    (imageWidthField.under naming, .str c.imageWidth),
    (imageHeightField.under naming, .str c.imageHeight),
    (linkUrlTemplateField.under naming, .str c.linkUrlTemplate),
    (linkTextTemplateField.under naming, .str c.linkTextTemplate),
    (linkTitleTemplateField.under naming, .str c.linkTitleTemplate),
    (linkOpenInNewTabField.under naming, .bool c.linkOpenInNewTab),
    (visibleField.under naming, .bool c.visible),
    (orderField.under naming, .int c.order),
    (alignContentField.under naming, .str c.alignContent),
    (allowHtmlField.under naming, .bool c.allowHtml),
    (highlightLinksField.under naming, .bool c.highlightLinks)]

def dump (naming : Naming) (c : TableColumn) : Json := .obj (c.members naming)

/-- The settings the service fills in, under its names for them. -/
def filledIn : Members :=
  [("name", .str ""),
    ("type", .str ""),
    ("title", .str ""),
    ("displayAs", .str ""),
    ("allowSearch", .bool false),
    ("numberFormat", .str ""),
    ("booleanValues", .arr [.str "false", .str "true"]),
    ("imageUrlTemplate", .str cellTemplate),
    ("imageTitleTemplate", .str cellTemplate),
    ("imageWidth", .str ""),
    ("imageHeight", .str ""),
    ("linkUrlTemplate", .str cellTemplate),
    ("linkTextTemplate", .str cellTemplate),
    ("linkTitleTemplate", .str cellTemplate),
    ("linkOpenInNewTab", .bool true),
    ("visible", .bool true),
    ("order", .int 0),
    ("alignContent", .str "left"),
    ("allowHTML", .bool true),
    ("highlightLinks", .bool false)]

/-- Whether a setting is the one the service fills in. -/
def isFilledIn (setting : String × Json) : Bool :=
  filledIn.lookup setting.1 == some setting.2

/-- A column with the service's names.  Without defaults, the settings that the service fills in
and the order are left out and the others sorted; with them, only an order of zero is left out. -/
def toJson (skipDefaults : Bool) (c : TableColumn) : Json :=
  let settings := c.members .service
  if skipDefaults then
    .obj ((settings.filter fun setting =>
      setting.1 != orderField.service && !isFilledIn setting).foldr Json.insertMember [])
  else if c.order == 0 then .obj (settings.filter fun setting => setting.1 != orderField.service)
  else .obj settings

end TableColumn

namespace TableOptions

def itemsPerPageField : FieldName := ⟨"itemsPerPage", "items_per_page"⟩
def columnsField : FieldName := .same "columns"

def decode : Json → Outcome TableOptions :=
  object fun members =>
    TableOptions.mk <$> itemsPerPageField.optional 0 integer members
      <*> columnsField.optional [] (listOrNull TableColumn.decode) members

def dump (naming : Naming) (o : TableOptions) : Json :=
  .obj [(itemsPerPageField.under naming, .int o.itemsPerPage),
    (columnsField.under naming, .arr (o.columns.map (TableColumn.dump naming)))]

/-- Table options with the service's names; a page size of zero and an empty list of columns are
left out. -/
def toJson (skipDefaults : Bool) (o : TableOptions) : Json :=
  .obj ((if o.itemsPerPage == 0 then []
      else [(itemsPerPageField.service, .int o.itemsPerPage)]) ++
    (if o.columns.isEmpty then []
      else [(columnsField.service, .arr (o.columns.map (TableColumn.toJson skipDefaults)))]))

end TableOptions

end DashboardExport
