import DashboardExport.Proofs.Rendering.ClosedReferences

/-!
# Names that stand without quotation

The name of a resource is written as it is: between quotation marks in the header of the
resource, and between dots in the references to it.  A token can stand there
(`unquoted_iff`).  The header and the references are lines then, and the marks in them are
those that were written around the name.

Whatever was loaded, and whether the loads failed or not, the names of dashboards, widgets
and queries are tokens.  A visualization has the type that the service gave it at the end
of its name, so its name is a token when that type, once it is lowered, is one, and
otherwise it holds what the type holds: blanks, dots, quotation marks or line ends
(`unquoted_reached`).
-/

set_option autoImplicit false

namespace DashboardExport.Rendering

open Hcl (Item Writer)
open Naming (IsToken isTokenChar)
open Text (Uncut splitAtEvery)

/-! ## Plain characters -/

/-- A character that neither ends a line or a word nor looks like a mark around a name. -/
structure Plain (c : Char) : Prop where
  noQuote : c ≠ '"'
  noDot : c ≠ '.'
  noLineEnd : c ≠ '\n'
  noBlank : Text.isBlank c = false

theorem printed_of_isTokenChar {c : Char} (inToken : isTokenChar c = true) :
    0x21 ≤ c.toNat ∧ c.toNat ≤ 0x7E := by
  have between {first last : UInt32} (low : decide (c.val ≥ first) = true)
      (high : decide (c.val ≤ last) = true) (least : 0x21 ≤ first.toNat)
      (greatest : last.toNat ≤ 0x7E) : 0x21 ≤ c.toNat ∧ c.toNat ≤ 0x7E :=
    ⟨least.trans (UInt32.le_iff_toNat_le.1 (of_decide_eq_true low)),
      (UInt32.le_iff_toNat_le.1 (of_decide_eq_true high)).trans greatest⟩
  rcases Bool.or_eq_true_iff.1 inToken with alphanumeric | underscore
  · rcases Bool.or_eq_true_iff.1 alphanumeric with lower | digit
    · obtain ⟨low, high⟩ := Bool.and_eq_true_iff.1 lower
      exact between low high (by decide) (by decide)
    · obtain ⟨low, high⟩ := Bool.and_eq_true_iff.1 digit
      exact between low high (by decide) (by decide)
  · rw [beq_iff_eq.1 underscore]
    decide

/-- **The characters of tokens are plain.** -/
theorem plain_of_isTokenChar {c : Char} (inToken : isTokenChar c = true) : Plain c := by
  have differs {mark : Char} (other : isTokenChar mark = false) : c ≠ mark := by
    rintro rfl
    exact Bool.false_ne_true (other.symm.trans inToken)
  obtain ⟨low, high⟩ := printed_of_isTokenChar inToken
  exact ⟨differs rfl, differs rfl, differs rfl, Text.isBlank_of_printed low high⟩

/-! ## Headers and references -/

/-- A line that has parts between marks: the parts can be read off it. -/
structure Marked (mark : Char) (parts : List String) (line : String) : Prop where
  whole : linesOf line = [line]
  parts : (splitAtEvery (· == mark) line.toList).map String.ofList = parts

/-- A name that can stand without quotation in the header of a resource of a type and in the
references to it: each of these is one line, and the type and the name are read off it. -/
structure Unquoted (type name : String) : Prop where
  token : IsToken name
  plain : ∀ c ∈ name.toList, Plain c
  header : ∀ items, ∃ line, (Item.added 0 [resource type name items]).head? = some line ∧
    Marked '"' ["resource ", type, " ", name, " \x7b"] line
  references : ∀ key, IsToken key → ∃ line, Item.added 1 [reference key type name] = [line] ∧
    Marked '.' ["  " ++ key ++ " = " ++ type, name, "id"] line

/-- Words without a mark that stand between marks in a line are parts of it. -/
theorem marked_of_uncut {mark : Char} {words : List String} {line : String}
    (whole : Uncut (· == '\n') line.toList) (each : ∀ word ∈ words, Uncut (· == mark) word.toList)
    (something : words ≠ [])
    (same : line.toList = List.intercalate [mark] (words.map String.toList)) :
    Marked mark words line := by
  refine ⟨linesOf_of_uncut whole, ?_⟩
  rw [same, Text.splitAtEvery_intercalate (by simp) (List.forall_mem_map.2 each)
    (by simpa using something), List.map_map]
  exact List.map_id'' (fun _ => String.ofList_toList) words

/-- Tokens have no mark in them that is not plain. -/
theorem uncut_of_isToken {word : String} (token : IsToken word) {mark : Char}
    (differs : ∀ {c}, Plain c → c ≠ mark) : Uncut (· == mark) word.toList := fun c member =>
  beq_false_of_ne (differs (plain_of_isTokenChar (token c member)))

section Tokens

variable {type name : String} (typed : IsToken type) (token : IsToken name)
include typed token

/-- The header of a resource, at the depth at which resources stand. -/
theorem marked_header : Marked '"' ["resource ", type, " ", name, " \x7b"]
    ("resource \"" ++ type ++ "\" \"" ++ name ++ "\"" ++ " \x7b") := by
  refine marked_of_uncut ?_ ?_ (List.cons_ne_nil _ _) ?_
  · simp only [String.toList_append, Text.uncut_append]
    exact ⟨⟨⟨⟨⟨by decide, uncut_of_isToken typed Plain.noLineEnd⟩, by decide⟩,
      uncut_of_isToken token Plain.noLineEnd⟩, by decide⟩, by decide⟩
  · simp only [List.forall_mem_cons]
    exact ⟨by decide, uncut_of_isToken typed Plain.noQuote, by decide,
      uncut_of_isToken token Plain.noQuote, by decide, by simp⟩
  · simp [List.intercalate]

/-- A reference, at the depth of the items of a resource. -/
theorem marked_reference {key : String} (keyed : IsToken key) :
    Marked '.' ["  " ++ key ++ " = " ++ type, name, "id"]
      ("  " ++ referenceLine key type name) := by
  refine marked_of_uncut ?_ ?_ (List.cons_ne_nil _ _) ?_
  · simp only [referenceLine, String.toList_append, Text.uncut_append]
    exact ⟨by decide, ⟨uncut_of_isToken keyed Plain.noLineEnd, by decide⟩,
      ⟨⟨uncut_of_isToken typed Plain.noLineEnd, by decide⟩,
        uncut_of_isToken token Plain.noLineEnd⟩, by decide⟩
  · simp only [List.forall_mem_cons, String.toList_append, Text.uncut_append]
    exact ⟨⟨⟨⟨by decide, uncut_of_isToken keyed Plain.noDot⟩, by decide⟩,
      uncut_of_isToken typed Plain.noDot⟩, uncut_of_isToken token Plain.noDot, by decide, by simp⟩
  · simp [referenceLine, List.intercalate]

end Tokens

/-- **Tokens, and nothing else, can stand without quotation.** -/
theorem unquoted_iff {type name : String} (typed : IsToken type) :
    Unquoted type name ↔ IsToken name := by
  refine ⟨Unquoted.token, fun token => ?_⟩
  constructor
  · exact token
  · exact fun c member => plain_of_isTokenChar (token c member)
  · intro items
    refine ⟨_, ?_, marked_header typed token⟩
    rw [resource, Item.added_block]
    rfl
  · intro key keyed
    refine ⟨_, ?_, marked_reference typed token keyed⟩
    exact congrArg ([·]) (lineEntry_referenceLine 1 key type name)

/-! ## Loaded objects -/

/-- **Names of loaded dashboards, widgets and queries stand without quotation.**  The calls may
fail or not.  The name of a visualization does when the lowered type of the visualization is a
token; of all that no token has in it, the name holds what this type holds. -/
theorem unquoted_reached (calls : List LoadCall) :
    (∀ entry ∈ (Inventory.reached calls).dashboards,
      Unquoted dashboardResource entry.resourceName) ∧
    (∀ entry ∈ (Inventory.reached calls).widgets, Unquoted widgetResource entry.resourceName) ∧
    (∀ entry ∈ (Inventory.reached calls).queries, Unquoted queryResource entry.resourceName) ∧
    ∀ entry ∈ (Inventory.reached calls).visualizations,
      (Unquoted visualizationResource entry.resourceName ↔ IsToken entry.object.lowerType) ∧
      ∀ c, isTokenChar c = false →
        (c ∈ entry.resourceName.toList ↔ c ∈ entry.object.lowerType.toList) := by
  have owners := ownerTokens_reached calls
  have parts := partTokens_reached calls
  refine ⟨fun entry member => ?_, fun entry member => ?_, fun entry member => ?_,
    fun entry member => ⟨?_, parts.visualizations entry member⟩⟩
  · exact (unquoted_iff (by decide)).2 (owners.dashboards entry member)
  · exact (unquoted_iff (by decide)).2 (parts.widgets entry member)
  · exact (unquoted_iff (by decide)).2 (owners.queries entry member)
  · rw [unquoted_iff (by decide), Naming.isToken_iff, Naming.isToken_iff]
    exact forall₂_congr fun c other => not_congr (parts.visualizations entry member c other)

theorem unquoted_reached_linked :
    Unquoted dashboardResource "kpis" ∧ Unquoted widgetResource "kpis_0" ∧
      Unquoted queryResource "sales" ∧ Unquoted visualizationResource "sales_chart" := by
  have dashboard : ∃ entry ∈ (Inventory.reached linkedCalls).dashboards,
      entry.resourceName = "kpis" := by decide +kernel
  have widget : ∃ entry ∈ (Inventory.reached linkedCalls).widgets,
      entry.resourceName = "kpis_0" := by decide +kernel
  have query : ∃ entry ∈ (Inventory.reached linkedCalls).queries,
      entry.resourceName = "sales" := by decide +kernel
  have visualization : ∃ entry ∈ (Inventory.reached linkedCalls).visualizations,
      entry.resourceName = "sales_chart" ∧ IsToken entry.object.lowerType := by decide +kernel
  obtain ⟨dashboards, widgets, queries, visualizations⟩ := unquoted_reached linkedCalls
  refine ⟨?_, ?_, ?_, ?_⟩
  · obtain ⟨entry, member, same⟩ := dashboard
    exact same ▸ dashboards entry member
  · obtain ⟨entry, member, same⟩ := widget
    exact same ▸ widgets entry member
  · obtain ⟨entry, member, same⟩ := query
    exact same ▸ queries entry member
  · obtain ⟨entry, member, same, typed⟩ := visualization
    exact same ▸ (visualizations entry member).1.2 typed

/-- A query with a visualization of a type of two words. -/
def cloudQuery : Query :=
  { chartQuery with visualizations := [.obj [("id", .int 11), ("type", .str "Word Cloud")]] }

/-- **The type of a visualization can bring a blank into its name.** -/
theorem reached_word_cloud :
    ∃ entry ∈ (Inventory.reached
        [⟨servingFetcher [] [cloudQuery], .query, cloudQuery.id⟩]).visualizations,
      entry.resourceName = "sales_word cloud" ∧ ¬ IsToken entry.resourceName := by
  decide +kernel

end DashboardExport.Rendering
