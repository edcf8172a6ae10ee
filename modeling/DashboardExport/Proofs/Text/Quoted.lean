import DashboardExport.Proofs.Json.RoundTrip
import DashboardExport.Proofs.Text.Delimited

/-!
# Quoted texts as string literals

A quoted text is a string literal on one line: between its two marks stands no control
character, and no mark that is not escaped (`escapes_of_flatMap_quotedChar`).  A mark is
escaped when an odd number of backslashes stands right before it, so what matters is whether
the backslashes before it are used up; the quoted form of a character uses up its own
(`escapes_quotedChar`).

The literal is read back as the text, and it shows where it ends, whatever follows it
(`quoted_literal`).
-/

set_option autoImplicit false

namespace DashboardExport.Text

/-! ## Escapes -/

/-- Whether characters escape what follows them: an odd number of backslashes ends them. -/
def escapes (chars : List Char) : Bool := (chars.reverse.takeWhile (· == '\\')).length % 2 == 1

theorem escapes_concat (chars : List Char) (c : Char) :
    escapes (chars ++ [c]) = (c == '\\' && !escapes chars) := by
  rw [escapes, escapes, List.reverse_append, List.reverse_singleton, List.singleton_append,
    List.takeWhile_cons]
  cases c == '\\' with
  | false => rfl
  | true =>
      rw [if_pos rfl, List.length_cons, Bool.true_and, Bool.eq_iff_iff]
      simp only [beq_iff_eq, Bool.not_eq_true', beq_eq_false_iff_ne]
      omega

/-- Behind characters that escape nothing, later ones escape what they escape on their own. -/
theorem escapes_append {earlier : List Char} (used : escapes earlier = false) (later : List Char) :
    escapes (earlier ++ later) = escapes later := by
  induction later using List.reverseRecOn with
  | nil => rw [List.append_nil, used]; rfl
  | append_singleton later c ih => rw [← List.append_assoc, escapes_concat, escapes_concat, ih]

theorem escapes_of_not_mem {chars : List Char} (none : '\\' ∉ chars) : escapes chars = false := by
  induction chars using List.reverseRecOn with
  | nil => rfl
  | append_singleton chars c _ =>
      rw [List.mem_append, List.mem_singleton, not_or] at none
      rw [escapes_concat, beq_false_of_ne (Ne.symm none.2), Bool.false_and]

/-! ## Quoted characters -/

theorem not_mem_hexDigits {c : Char} (other : ∀ digit < 16, c ≠ Nat.digitChar digit)
    (width n : Nat) : c ∉ hexDigits width n := by
  intro member
  obtain ⟨digit, small, same⟩ := exists_digit_of_mem_hexDigits member
  exact other digit small same

/-- The three forms in which characters are written: as they are, with one character behind a
backslash, and with four digits. -/
theorem quotedChar_cases (c : Char) :
    (quotedChar c = [c] ∧ c ≠ '"' ∧ c ≠ '\\') ∨ (∃ letter, quotedChar c = ['\\', letter]) ∨
      quotedChar c = ['\\', 'u'] ++ hexDigits 4 c.toNat := by
  rw [quotedChar]
  split_ifs with special lineEnd carriageReturn tab backspace formFeed control
  · exact .inr (.inl ⟨_, rfl⟩)
  · exact .inr (.inl ⟨_, rfl⟩)
  · exact .inr (.inl ⟨_, rfl⟩)
  · exact .inr (.inl ⟨_, rfl⟩)
  · exact .inr (.inl ⟨_, rfl⟩)
  · exact .inr (.inl ⟨_, rfl⟩)
  · exact .inr (.inr rfl)
  · rw [Bool.or_eq_true, beq_iff_eq, beq_iff_eq, not_or] at special
    exact .inl ⟨rfl, special⟩

/-- **A quoted character uses its backslashes up.** -/
theorem escapes_quotedChar (c : Char) : escapes (quotedChar c) = false := by
  rcases quotedChar_cases c with ⟨plain, -, noEscape⟩ | ⟨letter, short⟩ | digits
  · rw [plain]
    exact escapes_of_not_mem (by simpa using Ne.symm noEscape)
  · rw [short]
    exact (escapes_concat ['\\'] letter).trans (Bool.and_false _)
  · rw [digits, escapes_append rfl]
    exact escapes_of_not_mem (not_mem_hexDigits (by decide) 4 c.toNat)

/-- A mark in a quoted character is escaped. -/
theorem escapes_of_quotedChar {c : Char} {before after : List Char}
    (marked : quotedChar c = before ++ '"' :: after) : escapes before = true := by
  have inside : '"' ∈ quotedChar c := by
    rw [marked]
    exact List.mem_append_right before List.mem_cons_self
  rcases quotedChar_cases c with ⟨plain, noMark, -⟩ | ⟨letter, short⟩ | digits
  · rw [plain, List.mem_singleton] at inside
    exact absurd inside.symm noMark
  · rw [short] at marked
    match before with
    | [] => cases (List.cons.inj marked).1
    | [escape] =>
        rw [← (List.cons.inj marked).1]
        rfl
    | _ :: _ :: _ =>
        have lengths := congrArg List.length marked
        simp only [List.length_append, List.length_cons, List.length_nil] at lengths
        omega
  · rw [digits] at inside
    rcases List.mem_append.1 inside with letter | digit
    · exact absurd letter (by decide)
    · exact absurd digit (not_mem_hexDigits (by decide) 4 c.toNat)

/-- **Every mark between the marks of a quoted text is escaped.** -/
theorem escapes_of_flatMap_quotedChar {chars before after : List Char}
    (marked : chars.flatMap quotedChar = before ++ '"' :: after) : escapes before = true := by
  induction chars generalizing before with
  | nil => exact absurd marked.symm (List.append_ne_nil_of_right_ne_nil _ (List.cons_ne_nil _ _))
  | cons c chars ih =>
      rw [List.flatMap_cons] at marked
      rcases List.append_eq_append_iff.1 marked with ⟨gap, rfl, later⟩ | ⟨gap, here, later⟩
      · rw [escapes_append (escapes_quotedChar c)]
        exact ih later
      · cases gap with
        | nil =>
            -- the mark would be the first of what follows, where nothing escapes it
            cases @ih [] later.symm
        | cons mark gap =>
            cases later
            exact escapes_of_quotedChar here

/-! ## String literals -/

theorem toList_quoted (text : String) : (quoted text).toList = quotedChars text.toList :=
  String.toList_ofList

/-- **A quoted text is read back** by a reader of JSON texts. -/
theorem parse?_quoted (text : String) : Json.parse? (quoted text) = some (.str text) := by
  have read := Json.readValue_str (Nat.succ_pos (2 * (quotedChars text.toList).length + 1)) text []
  rw [List.append_nil] at read
  have front : Json.skipGap (quotedChars text.toList) = quotedChars text.toList := rfl
  simp only [Json.parse?, toList_quoted]
  rw [front, read]
  rfl

/-- A text that starts with the literal of a text starts with no other literal. -/
theorem quoted_append_eq_iff {text other rest more : String} :
    quoted text ++ rest = quoted other ++ more ↔ text = other ∧ rest = more := by
  constructor
  · intro same
    have chars := congrArg String.toList same
    rw [String.toList_append, String.toList_append, toList_quoted, toList_quoted] at chars
    obtain ⟨texts, rests⟩ := delimited_quotedChars chars
    exact ⟨String.toList_inj.1 texts, String.toList_inj.1 rests⟩
  · rintro ⟨rfl, rfl⟩
    rfl

/-- **A quoted text is a string literal that stands for the text.**  It starts and ends with a mark;
between the two it has no control character and no mark that is not escaped.  It is read as the text
and nothing else, different texts have different literals, and a text that starts with a literal
starts with no other, whatever follows it. -/
theorem quoted_literal (text : String) :
    (∃ body, (quoted text).toList = '"' :: (body ++ ['"']) ∧ (∀ c ∈ body, 0x20 ≤ c.toNat) ∧
      ∀ before after, body = before ++ '"' :: after → escapes before = true) ∧
    Json.parse? (quoted text) = some (.str text) ∧
    (∀ other, quoted other = quoted text ↔ other = text) ∧
    ∀ other rest more,
      quoted text ++ rest = quoted other ++ more ↔ text = other ∧ rest = more := by
  have visible := (Json.visible_cons.1 (Json.visible_quotedChars text.toList)).2
  refine ⟨⟨text.toList.flatMap quotedChar, toList_quoted text, ?_, ?_⟩, parse?_quoted text, ?_, ?_⟩
  · exact (Json.visible_append.1 visible).1
  · exact fun before after marked => escapes_of_flatMap_quotedChar marked
  · exact fun other => quoted_injective.eq_iff
  · exact fun other rest more => quoted_append_eq_iff

end DashboardExport.Text
