import DashboardExport.Proofs.Rendering.Heredoc
import Mathlib.Data.List.DropRight

/-!
# Configuration lines

A text is read as configuration line by line.  A line that ends in `<<` and a word opens a
here document (`opened?`), and what stands in the document, up to its marker, is no
configuration.  The other lines, and those that open a document, are the configuration
lines of the text (`configurationLines`).

Entries of a writer are read one after the other: what a part of them is read as depends
neither on the rest nor on the parts before it, when each of its lines opens nothing and
each of its documents is read up to its own marker (`Reads`).
-/

set_option autoImplicit false

namespace DashboardExport.Rendering

open Hcl (Item)

/-! ## Words at the end of a line -/

/-- The marks around the words of a configuration line. -/
def isMark (c : Char) : Bool := ['"', '[', ']', '{', '}', ',', '.', '=', '<'].contains c

/-- Whether a character belongs to a word. -/
def isWordChar (c : Char) : Bool := !(Text.isBlank c || isMark c)

/-- The marker of the here document that a line opens: the word behind the `<<` at its end.  The
mark may also be `<<-`. -/
def opened? (line : String) : Option String :=
  let word := line.toList.rtakeWhile isWordChar
  if "<<".toList.isSuffixOf (line.toList.rdropWhile isWordChar) && !word.isEmpty then
    some (String.ofList (word.dropWhile (· == '-')))
  else none

/-- A line with something before the word at its end that is not the mark of a here document. -/
def Bounded (line : String) : Prop :=
  (line.toList.rdropWhile isWordChar).getLast?.any (· != '<') = true

instance (line : String) : Decidable (Bounded line) :=
  inferInstanceAs (Decidable ((line.toList.rdropWhile isWordChar).getLast?.any (· != '<') = true))

/-- **A bounded line opens no here document.** -/
theorem opened?_eq_none {line : String} (bounded : Bounded line) : opened? line = none := by
  refine if_neg fun opens => ?_
  obtain ⟨before, same⟩ := List.isSuffixOf_iff_suffix.1 (Bool.and_eq_true_iff.1 opens).1
  have last : "<<".toList.getLast? = some '<' := rfl
  rw [Bounded, ← same, List.getLast?_append, last, Option.some_or, Option.any_some] at bounded
  exact bne_iff_ne.1 bounded rfl

/-- Words at the end do not count. -/
theorem rdropWhile_append_word (front : List Char) {word : List Char}
    (inWord : ∀ c ∈ word, isWordChar c = true) :
    (front ++ word).rdropWhile isWordChar = front.rdropWhile isWordChar := by
  induction word using List.reverseRecOn with
  | nil => rw [List.append_nil]
  | append_singleton word c ih =>
      obtain ⟨earlier, last⟩ := List.forall_mem_append.1 inWord
      rw [← List.append_assoc, List.rdropWhile_concat_pos _ _ _ (last c List.mem_cons_self),
        ih earlier]

/-- **A line is bounded by a character other than `<` that belongs to no word**, with at most a word
behind it. -/
theorem bounded_iff {line : String} :
    Bounded line ↔ ∃ front c word, line.toList = front ++ c :: word ∧ isWordChar c = false ∧
      c ≠ '<' ∧ ∀ d ∈ word, isWordChar d = true := by
  constructor
  · intro bounded
    obtain ⟨c, last, other⟩ := (Option.any_eq_true _ _).1 bounded
    obtain ⟨front, same⟩ := List.getLast?_eq_some_iff.1 last
    have whole := List.rdropWhile_append_rtakeWhile (p := isWordChar) (l := line.toList)
    rw [same, List.append_assoc, List.singleton_append] at whole
    have nonempty : line.toList.rdropWhile isWordChar ≠ [] := by
      rw [same]
      exact List.append_ne_nil_of_right_ne_nil front (List.cons_ne_nil c [])
    have stops := List.rdropWhile_last_not isWordChar line.toList nonempty
    rw [List.getLast_eq_iff_getLast?_eq_some nonempty |>.2 last] at stops
    exact ⟨front, c, _, whole.symm, Bool.eq_false_iff.2 stops, bne_iff_ne.1 other,
      fun d member => List.mem_rtakeWhile_imp member⟩
  · rintro ⟨front, c, word, same, noWord, other, inWord⟩
    have split : front ++ c :: word = (front ++ [c]) ++ word := by
      rw [List.append_assoc, List.singleton_append]
    have stops : ¬ isWordChar c = true := Bool.eq_false_iff.1 noWord
    rw [Bounded, same, split, rdropWhile_append_word _ inWord,
      List.rdropWhile_concat_neg _ _ _ stops, List.getLast?_concat, Option.any_some]
    exact bne_iff_ne.2 other

/-- A line that ends with a bounded one is bounded. -/
theorem Bounded.append (left : String) {right : String} (bounded : Bounded right) :
    Bounded (left ++ right) := by
  obtain ⟨front, c, word, same, bounds⟩ := bounded_iff.1 bounded
  refine bounded_iff.2 ⟨left.toList ++ front, c, word, ?_, bounds⟩
  rw [String.toList_append, same, List.append_assoc]

/-! ## Reading -/

/-- The configuration lines of a text, given by its lines.  A here document that is open at the
start is skipped up to its marker. -/
def configurationLines : Option String → List String → List String
  | _, [] => []
  | none, line :: rest => line :: configurationLines (opened? line) rest
  | some marker, line :: rest =>
    configurationLines (if closes marker line then none else some marker) rest

/-- **A document that is open is read as here documents are**, and the lines behind it follow. -/
theorem configurationLines_some (marker : String) (lines : List String) :
    configurationLines (some marker) lines =
      (readBody marker lines).elim [] fun read => configurationLines none read.2 := by
  induction lines with
  | nil => rfl
  | cons line rest ih =>
      rw [configurationLines, readBody]
      split_ifs
      · rfl
      · rw [ih]
        cases readBody marker rest <;> rfl

/-- Entries that are read as certain configuration lines, whatever stands behind them. -/
def Reads (entries lines : List String) : Prop := ∀ rest,
  configurationLines none (entries.flatMap linesOf ++ rest) = lines ++ configurationLines none rest

theorem reads_nil : Reads [] [] := fun _ => rfl

/-- **Entries are read one part after the other.** -/
theorem Reads.append {first second earlier later : List String} (reads : Reads first earlier)
    (further : Reads second later) : Reads (first ++ second) (earlier ++ later) := by
  intro rest
  rw [List.flatMap_append, List.append_assoc, reads, further, List.append_assoc]

/-- A line that opens nothing is read as itself. -/
theorem reads_line {entry : String} (whole : linesOf entry = [entry])
    (plain : opened? entry = none) : Reads [entry] [entry] := by
  intro rest
  rw [List.flatMap_singleton, whole, List.singleton_append, configurationLines, plain,
    List.singleton_append]

/-- Lines that open nothing are read as themselves. -/
theorem reads_lines {entries : List String}
    (each : ∀ entry ∈ entries, linesOf entry = [entry] ∧ opened? entry = none) :
    Reads entries entries := by
  induction entries with
  | nil => exact reads_nil
  | cons entry rest ih =>
      obtain ⟨here, later⟩ := List.forall_mem_cons.1 each
      exact (reads_line here.1 here.2).append (ih later)

/-- **A here document is read as the line that opens it**, when no line of its body is the marker.
-/
theorem reads_document {opener marker : String} {body : Option String}
    (opens : opened? opener = some marker) (whole : linesOf opener = [opener])
    (marks : linesOf marker = [marker]) (ends : closes marker marker = true)
    (goesOn : ∀ line ∈ bodyLines body, closes marker line = false) :
    Reads (opener :: (body.toList ++ [marker])) [opener] := by
  intro rest
  have lines : (opener :: (body.toList ++ [marker])).flatMap linesOf ++ rest =
      opener :: (bodyLines body ++ marker :: rest) := by
    simp only [List.flatMap_cons, List.flatMap_append, List.flatMap_nil, whole, marks, bodyLines,
      List.append_assoc, List.cons_append, List.nil_append]
  rw [lines, configurationLines, opens, configurationLines_some, readBody_append ends goesOn]
  rfl

/-- **The configuration lines of a rendered text** are those that its entries are read as, and the
empty one behind the last line end. -/
theorem configurationLines_render {items : List Item} {lines : List String}
    (nonempty : Item.added 0 items ≠ []) (reads : Reads (Item.added 0 items) lines) :
    configurationLines none (linesOf (Item.render items)) = lines ++ [""] := by
  rw [linesOf_render_eq nonempty]
  exact reads [""]

end DashboardExport.Rendering
