import DashboardExport.Proofs.Json.RoundTrip
import DashboardExport.Proofs.Text.Split

/-!
# Lines of indented texts

After its blanks, every line of an indented text begins with a character that opens or
closes a value (`led_of_mem_lines`).  Line ends stand nowhere but in front of the
indentation of a part or of a closing bracket: the texts of words, numbers and strings
have no control characters at all.

The induction is on the value.  It shows of every text with lines so led that it keeps
them when the text of a value is put before it.
-/

set_option autoImplicit false

namespace DashboardExport.Json

open Text

/-! ## Texts without control characters -/

theorem Digits.visible {chars : List Char} (digits : Digits chars) : Visible chars := by
  intro c member
  have bounds := digits c member
  simp only [Char.isDigit, Bool.and_eq_true, decide_eq_true_eq] at bounds
  exact Nat.le_trans (by decide) bounds.1

theorem Visible.take {chars : List Char} (visible : Visible chars) (count : Nat) :
    Visible (chars.take count) := by
  intro c member
  exact visible c (List.mem_of_mem_take member)

theorem Visible.drop {chars : List Char} (visible : Visible chars) (count : Nat) :
    Visible (chars.drop count) := by
  intro c member
  exact visible c (List.mem_of_mem_drop member)

theorem visible_positional {decimal : Binary64.Decimal} (digits : Digits decimal.digits) :
    Visible (Binary64.positional decimal) := by
  rw [Binary64.positional]
  split_ifs with below beyond
  · refine visible_cons.2 ⟨by decide, visible_cons.2 ⟨by decide, visible_append.2 ⟨?_, ?_⟩⟩⟩
    · exact (digits_zeros _).visible
    · exact digits.visible
  · refine visible_append.2 ⟨visible_append.2 ⟨digits.visible, (digits_zeros _).visible⟩, ?_⟩
    exact visible_cons.2 ⟨by decide, (digits_zeros 1).visible⟩
  · refine visible_append.2 ⟨digits.visible.take _, visible_cons.2 ⟨by decide, ?_⟩⟩
    exact digits.visible.drop _

theorem visible_scientific {decimal : Binary64.Decimal} (digits : Digits decimal.digits)
    (layout : Binary64.Layout) : Visible (Binary64.scientific layout decimal) := by
  have exponent : Visible (Binary64.padded layout.exponentDigits
      (Nat.toDigits 10 (decimal.point - 1).natAbs)) :=
    visible_append.2 ⟨(digits_zeros _).visible, (digits_toDigits _).visible⟩
  have later (fraction : List Char) (visible : Visible fraction) : Visible (fraction ++ 'e' ::
      (if decimal.point - 1 < 0 then '-' else '+') ::
        Binary64.padded layout.exponentDigits (Nat.toDigits 10 (decimal.point - 1).natAbs)) := by
    refine visible_append.2 ⟨visible, visible_cons.2 ⟨by decide, visible_cons.2 ⟨?_, exponent⟩⟩⟩
    split_ifs
    · decide
    · decide
  rw [Binary64.scientific, List.append_assoc]
  refine visible_append.2 ⟨digits.visible.take 1, ?_⟩
  apply later
  split
  · decide
  · exact visible_cons.2 ⟨by decide, digits.visible.drop 1⟩

theorem visible_render (x : Binary64) : Visible (x.render numberLayout).toList := by
  cases x with
  | nan => decide
  | infinite negative =>
      cases negative with
      | true => decide
      | false => decide
  | finite negative significand exponent normal =>
      rw [Binary64.render, String.toList_ofList]
      have magnitude : Visible (if significand = 0 then ['0', '.', '0'] else
          if numberLayout.leastPositional ≤ (Binary64.shortest significand exponent).point - 1 &&
              (Binary64.shortest significand exponent).point - 1 < numberLayout.belowPositional then
            Binary64.positional (Binary64.shortest significand exponent)
          else Binary64.scientific numberLayout (Binary64.shortest significand exponent)) := by
        split_ifs with zero
        · decide
        · have shows := Binary64.shortest_shows (Nat.pos_of_ne_zero zero) normal
          exact visible_positional shows.digits
        · have shows := Binary64.shortest_shows (Nat.pos_of_ne_zero zero) normal
          exact visible_scientific shows.digits numberLayout
      cases negative with
      | true => exact visible_cons.2 ⟨by decide, magnitude⟩
      | false => exact magnitude

theorem visible_toString (n : Int) : Visible (toString n).toList := by
  rw [toList_toString_int]
  have digits := (digits_toDigits n.natAbs).visible
  split_ifs
  · exact visible_cons.2 ⟨by decide, digits⟩
  · exact digits

/-! ## What a line begins with -/

/-- A character that a line can begin with. -/
def isLeading (c : Char) : Bool := isOpening c || [']', '}'].contains c

theorem isLeading_of_isOpening {c : Char} (opens : isOpening c = true) : isLeading c = true := by
  rw [isLeading, opens, Bool.true_or]

/-- Blanks, and then a character that a line can begin with. -/
def Led (line : List Char) : Prop :=
  ∃ blanks c others, line = List.replicate blanks ' ' ++ c :: others ∧ isLeading c = true

/-- Every line after the first one is led. -/
def Tidy (chars : List Char) : Prop := ∀ line ∈ (splitAtEvery (· == '\n') chars).tail, Led line

theorem Visible.uncut {chars : List Char} (visible : Visible chars) :
    Uncut (· == '\n') chars := by
  intro c member
  refine beq_false_of_ne ?_
  intro lineEnd
  have control := visible c member
  rw [lineEnd] at control
  exact absurd control (by decide)

theorem uncut_of_isLeading {c : Char} (leads : isLeading c = true) : Uncut (· == '\n') [c] := by
  intro d member
  rw [List.mem_singleton.1 member]
  exact beq_false_of_ne (ne_of_class leads rfl)

theorem tidy_nil : Tidy [] := fun _ member => by cases member

/-- A text without control characters belongs to the first line. -/
theorem Visible.tidy_append {left right : List Char} (visible : Visible left)
    (tidy : Tidy right) : Tidy (left ++ right) := by
  obtain ⟨part, parts, same⟩ := exists_splitAtEvery (· == '\n') right
  rw [Tidy, splitAtEvery_append_of_uncut visible.uncut same]
  rw [Tidy, same] at tidy
  exact tidy

/-- A fresh line is led by what follows its blanks. -/
theorem tidy_freshLine (level : Nat) {c : Char} (leads : isLeading c = true) {rest : List Char}
    (tidy : Tidy (c :: rest)) : Tidy (freshLine level ++ c :: rest) := by
  obtain ⟨part, parts, same⟩ := exists_splitAtEvery (· == '\n') rest
  have line := splitAtEvery_append_of_uncut (uncut_of_isLeading leads) same
  have blanks : Uncut (· == '\n') (List.replicate (2 * level) ' ') := by
    intro d member
    rw [(List.mem_replicate.1 member).2]
    rfl
  rw [List.singleton_append] at line
  rw [Tidy, line] at tidy
  rw [Tidy, freshLine, List.cons_append, splitAtEvery_cut rfl,
    splitAtEvery_append_of_uncut blanks line]
  intro other member
  rcases List.mem_cons.1 member with rfl | later
  · exact ⟨2 * level, c, part, rfl, leads⟩
  · exact tidy other later

theorem tidy_cons {c : Char} (leads : isLeading c = true) {rest : List Char} (tidy : Tidy rest) :
    Tidy (c :: rest) := by
  obtain ⟨part, parts, same⟩ := exists_splitAtEvery (· == '\n') rest
  have line := splitAtEvery_append_of_uncut (uncut_of_isLeading leads) same
  rw [List.singleton_append] at line
  rw [Tidy, line]
  rw [Tidy, same] at tidy
  exact tidy

/-! ## The lines of a value -/

theorem tidy_freshLine_items (level : Nat) (item : Json) (items : List Json) {rest : List Char}
    (tidy : Tidy (itemsText level (item :: items) ++ rest)) :
    Tidy (freshLine level ++ (itemsText level (item :: items) ++ rest)) := by
  obtain ⟨c, others, same, opens⟩ := itemsText_head level item items
  rw [same, List.cons_append] at tidy ⊢
  exact tidy_freshLine level (isLeading_of_isOpening opens) tidy

theorem tidy_membersText {level : Nat} {value : Json} {members : List (String × Json)}
    {rest : List Char} (key : String)
    (tidy : Tidy (indented level value ++ (indentedMembers level members ++ rest))) :
    Tidy (membersText level ((key, value) :: members) ++ rest) := by
  simp only [membersText, List.append_assoc, List.cons_append]
  refine (visible_quotedChars key.toList).tidy_append ?_
  exact Visible.tidy_append (show Visible [':', ' '] by decide) tidy

theorem tidy_freshLine_members (level : Nat) (member : String × Json)
    (members : List (String × Json)) {rest : List Char}
    (tidy : Tidy (membersText level (member :: members) ++ rest)) :
    Tidy (freshLine level ++ (membersText level (member :: members) ++ rest)) :=
  tidy_freshLine level rfl tidy

mutual
/-- **The text of a value keeps the lines of what follows led.** -/
theorem tidy_indented : ∀ (value : Json) (level : Nat) {rest : List Char},
    Tidy rest → Tidy (indented level value ++ rest)
  | .null, _, _, tidy => Visible.tidy_append (show Visible ['n', 'u', 'l', 'l'] by decide) tidy
  | .bool true, _, _, tidy => Visible.tidy_append (show Visible ['t', 'r', 'u', 'e'] by decide) tidy
  | .bool false, _, _, tidy =>
      Visible.tidy_append (show Visible ['f', 'a', 'l', 's', 'e'] by decide) tidy
  | .int n, _, _, tidy => (visible_toString n).tidy_append tidy
  | .float x, _, _, tidy => (visible_render x).tidy_append tidy
  | .str s, _, _, tidy => (visible_quotedChars s.toList).tidy_append tidy
  | .arr [], _, _, tidy => Visible.tidy_append (show Visible ['[', ']'] by decide) tidy
  | .arr (item :: items), level, rest, tidy => by
      rw [indented_arr]
      simp only [List.cons_append, List.append_assoc, List.nil_append]
      have closing : Tidy (freshLine level ++ ']' :: rest) :=
        tidy_freshLine level rfl (tidy_cons rfl tidy)
      have inside :
          Tidy (itemsText (level + 1) (item :: items) ++ (freshLine level ++ ']' :: rest)) := by
        rw [itemsText, List.append_assoc]
        exact tidy_indented item (level + 1) (tidy_indentedItems items (level + 1) closing)
      exact tidy_cons rfl (tidy_freshLine_items _ item items inside)
  | .obj [], _, _, tidy => Visible.tidy_append (show Visible ['{', '}'] by decide) tidy
  | .obj ((key, value) :: members), level, rest, tidy => by
      rw [indented_obj]
      simp only [List.cons_append, List.append_assoc, List.nil_append]
      have closing : Tidy (freshLine level ++ '}' :: rest) :=
        tidy_freshLine level rfl (tidy_cons rfl tidy)
      have others := tidy_indentedMembers members (level + 1) closing
      have later := tidy_indented value (level + 1) others
      exact tidy_cons rfl
        (tidy_freshLine_members _ _ _ (tidy_membersText key later))

theorem tidy_indentedItems : ∀ (items : List Json) (level : Nat) {rest : List Char},
    Tidy rest → Tidy (indentedItems level items ++ rest)
  | [], _, _, tidy => tidy
  | item :: items, level, rest, tidy => by
      have inside : Tidy (itemsText level (item :: items) ++ rest) := by
        rw [itemsText, List.append_assoc]
        exact tidy_indented item level (tidy_indentedItems items level tidy)
      rw [indentedItems_cons, List.cons_append, List.append_assoc]
      exact Visible.tidy_append (show Visible [','] by decide) (tidy_freshLine_items _ _ _ inside)

theorem tidy_indentedMembers : ∀ (members : List (String × Json)) (level : Nat)
    {rest : List Char}, Tidy rest → Tidy (indentedMembers level members ++ rest)
  | [], _, _, tidy => tidy
  | (key, value) :: members, level, rest, tidy => by
      have later := tidy_indented value level (tidy_indentedMembers members level tidy)
      rw [indentedMembers_cons, List.cons_append, List.append_assoc]
      exact Visible.tidy_append (show Visible [','] by decide)
        (tidy_freshLine_members _ _ _ (tidy_membersText key later))
end

/-- **Every line of an indented text is led.** -/
theorem led_of_mem_lines (value : Json) {line : List Char}
    (member : line ∈ splitAtEvery (· == '\n') (indented 0 value)) : Led line := by
  obtain ⟨c, others, begins, opens⟩ := exists_opens_indented 0 value
  have tidy := tidy_indented value 0 tidy_nil
  rw [List.append_nil, begins] at tidy
  obtain ⟨part, parts, same⟩ := exists_splitAtEvery (· == '\n') others
  have leads := isLeading_of_isOpening opens
  have lines := splitAtEvery_append_of_uncut (uncut_of_isLeading leads) same
  rw [List.singleton_append] at lines
  rw [Tidy, lines] at tidy
  rw [begins, lines] at member
  rcases List.mem_cons.1 member with rfl | later
  · exact ⟨0, c, part, rfl, leads⟩
  · exact tidy line later

/-! ## Without blanks -/

theorem isBlank_of_isLeading {c : Char} (leads : isLeading c = true) : isBlank c = false := by
  simp only [isLeading, isOpening, isPlain, Bool.or_eq_true, List.contains_iff_mem,
    List.mem_cons, List.not_mem_nil, or_false] at leads
  rcases leads with ((digit | letter) | mark) | closes
  · exact isBlank_of_isDigit digit
  · rcases letter with rfl | rfl | rfl | rfl | rfl | rfl <;> rfl
  · rcases mark with rfl | rfl | rfl <;> rfl
  · rcases closes with rfl | rfl <;> rfl

/-- What is left of a led line without its blanks begins with the character that leads it. -/
theorem Led.dropWhile_isBlank {line : List Char} (led : Led line) :
    ∃ c others, line.dropWhile Text.isBlank = c :: others ∧ isLeading c = true := by
  obtain ⟨blanks, c, others, rfl, leads⟩ := led
  refine ⟨c, others, ?_, leads⟩
  rw [List.dropWhile_append_of_pos]
  · exact List.dropWhile_cons_of_neg (by rw [isBlank_of_isLeading leads]; exact Bool.false_ne_true)
  · intro d member
    rw [(List.mem_replicate.1 member).2]
    rfl

end DashboardExport.Json
