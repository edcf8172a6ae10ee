import DashboardExport.Proofs.Json.Numbers
import DashboardExport.Proofs.Json.Readable
import DashboardExport.Proofs.Json.Strings

/-!
# Indented texts are read back

The indented text of a readable value is read back as that very value
(`parse?_pretty`), and so different values have different texts (`pretty_inj`).

The induction is on the value.  It carries the text that follows, which must not
continue a number, and a budget: the length of the text is enough, because each call
spends one and has at least one character of its own.
-/

set_option autoImplicit false

namespace DashboardExport.Json

open Text

/-! ## The first character -/

/-- A character that a word or a number can begin with. -/
def isPlain (c : Char) : Bool := c.isDigit || ['-', 'n', 't', 'f', 'N', 'I'].contains c

/-- A character that a text can begin with. -/
def isOpening (c : Char) : Bool := isPlain c || ['"', '[', '{'].contains c

theorem ne_of_class {inClass : Char → Bool} {c other : Char} (inside : inClass c = true)
    (outside : inClass other = false) : c ≠ other := by
  rintro rfl
  rw [inside] at outside
  cases outside

theorem isPlain_of_isDigit {c : Char} (digit : c.isDigit = true) : isPlain c = true := by
  rw [isPlain, digit, Bool.true_or]

theorem isOpening_of_isPlain {c : Char} (plain : isPlain c = true) : isOpening c = true := by
  rw [isOpening, plain, Bool.true_or]

theorem isGap_of_isOpening {c : Char} (opens : isOpening c = true) : isGap c = false := by
  have blank : c ≠ ' ' := ne_of_class opens rfl
  have tab : c ≠ '\t' := ne_of_class opens rfl
  have lineEnd : c ≠ '\n' := ne_of_class opens rfl
  have carriageReturn : c ≠ '\r' := ne_of_class opens rfl
  simp [isGap, blank, tab, lineEnd, carriageReturn]

/-- The text of a float begins with a digit, a sign or the letter of a word. -/
theorem exists_plain_render (x : Binary64) :
    ∃ c rest, (x.render numberLayout).toList = c :: rest ∧ isPlain c = true := by
  cases x with
  | nan => exact ⟨'N', _, rfl, rfl⟩
  | infinite negative =>
      cases negative with
      | true => exact ⟨'-', _, rfl, rfl⟩
      | false => exact ⟨'I', _, rfl, rfl⟩
  | finite negative significand exponent normal =>
      obtain ⟨c, chars, same, digit, _⟩ := exists_magnitude numberLayout negative normal
      rw [same]
      cases negative with
      | true => exact ⟨'-', _, rfl, rfl⟩
      | false => exact ⟨c, _, rfl, isPlain_of_isDigit digit⟩

theorem exists_plain_toString (n : Int) :
    ∃ c rest, (toString n).toList = c :: rest ∧ isPlain c = true := by
  obtain ⟨c, chars, same⟩ :=
    List.exists_cons_of_ne_nil (Nat.toDigits_ne_nil (n := n.natAbs) (b := 10))
  have digit := digits_toDigits n.natAbs c (by rw [same]; exact List.mem_cons_self)
  rw [toList_toString_int, same]
  split_ifs
  · exact ⟨'-', _, rfl, rfl⟩
  · exact ⟨c, _, rfl, isPlain_of_isDigit digit⟩

/-- The text of a value begins with an opening character. -/
theorem exists_opens_indented (level : Nat) (value : Json) :
    ∃ c rest, indented level value = c :: rest ∧ isOpening c = true := by
  cases value with
  | null => exact ⟨'n', _, rfl, rfl⟩
  | bool value =>
      cases value with
      | true => exact ⟨'t', _, rfl, rfl⟩
      | false => exact ⟨'f', _, rfl, rfl⟩
  | int n =>
      obtain ⟨c, rest, same, plain⟩ := exists_plain_toString n
      exact ⟨c, rest, same, isOpening_of_isPlain plain⟩
  | float x =>
      obtain ⟨c, rest, same, plain⟩ := exists_plain_render x
      exact ⟨c, rest, same, isOpening_of_isPlain plain⟩
  | str s => exact ⟨'"', _, rfl, rfl⟩
  | arr items =>
      cases items with
      | nil => exact ⟨'[', _, rfl, rfl⟩
      | cons item rest => exact ⟨'[', _, rfl, rfl⟩
  | obj members =>
      cases members with
      | nil => exact ⟨'{', _, rfl, rfl⟩
      | cons member rest => exact ⟨'{', _, rfl, rfl⟩

/-! ## Gaps -/

theorem skipGap_cons {c : Char} (noGap : isGap c = false) (rest : List Char) :
    skipGap (c :: rest) = c :: rest :=
  List.dropWhile_cons_of_neg (by rw [noGap]; exact Bool.false_ne_true)

theorem skipGap_freshLine (level : Nat) (rest : List Char) :
    skipGap (freshLine level ++ rest) = skipGap rest := by
  refine List.dropWhile_append_of_pos ?_
  intro c member
  rcases List.mem_cons.1 member with rfl | blank
  · rfl
  · rw [(List.mem_replicate.1 blank).2]
    rfl

theorem skipGap_indented (level : Nat) (value : Json) (rest : List Char) :
    skipGap (indented level value ++ rest) = indented level value ++ rest := by
  obtain ⟨c, chars, same, opens⟩ := exists_opens_indented level value
  rw [same]
  exact skipGap_cons (isGap_of_isOpening opens) _

/-! ## Values without parts -/

/-- A text that begins a word or a number is read as one. -/
theorem readValue_plain {fuel : Nat} (enough : 0 < fuel) {chars rest : List Char} {value : Json}
    (begins : ∃ c others, chars = c :: others ∧ isPlain c = true)
    (read : readPlain (chars ++ rest) = some (value, rest)) :
    readValue fuel (chars ++ rest) = some (value, rest) := by
  obtain ⟨c, others, rfl, plain⟩ := begins
  obtain ⟨fuel, rfl⟩ := Nat.exists_eq_succ_of_ne_zero (Nat.ne_of_gt enough)
  rw [readValue.eq_def]
  dsimp only
  split
  · next same => exact absurd (List.cons.inj same).1 (ne_of_class plain rfl)
  · next same => exact absurd (List.cons.inj same).1 (ne_of_class plain rfl)
  · next same => exact absurd (List.cons.inj same).1 (ne_of_class plain rfl)
  · exact read

theorem readValue_str {fuel : Nat} (enough : 0 < fuel) (s : String) (rest : List Char) :
    readValue fuel (quotedChars s.toList ++ rest) = some (.str s, rest) := by
  obtain ⟨fuel, rfl⟩ := Nat.exists_eq_succ_of_ne_zero (Nat.ne_of_gt enough)
  rw [quotedChars, List.cons_append, List.append_assoc]
  show (readChars (s.toList.flatMap quotedChar ++ '"' :: rest)).map _ = _
  rw [readChars_quoted, Option.map_some, String.ofList_toList]

/-! ## Lists and objects -/

/-- The text of items, each after the first one on a line of its own. -/
def itemsText (level : Nat) : List Json → List Char
  | [] => []
  | item :: rest => indented level item ++ indentedItems level rest

/-- The text of members, each after the first one on a line of its own. -/
def membersText (level : Nat) : List (String × Json) → List Char
  | [] => []
  | (key, value) :: rest =>
    quotedChars key.toList ++ ':' :: ' ' :: (indented level value ++ indentedMembers level rest)

theorem indented_arr (level : Nat) (item : Json) (rest : List Json) :
    indented level (.arr (item :: rest)) = '[' :: (freshLine (level + 1) ++
      (itemsText (level + 1) (item :: rest) ++ (freshLine level ++ [']']))) := by
  simp only [indented, itemsText, List.append_assoc]

theorem indentedItems_cons (level : Nat) (item : Json) (rest : List Json) :
    indentedItems level (item :: rest) =
      ',' :: (freshLine level ++ itemsText level (item :: rest)) := by
  simp only [indentedItems, itemsText, List.append_assoc]

theorem indented_obj (level : Nat) (member : String × Json) (rest : List (String × Json)) :
    indented level (.obj (member :: rest)) = '{' :: (freshLine (level + 1) ++
      (membersText (level + 1) (member :: rest) ++ (freshLine level ++ ['}']))) := by
  simp only [indented, membersText, List.append_assoc, List.cons_append]

theorem indentedMembers_cons (level : Nat) (member : String × Json)
    (rest : List (String × Json)) :
    indentedMembers level (member :: rest) =
      ',' :: (freshLine level ++ membersText level (member :: rest)) := by
  simp only [indentedMembers, membersText, List.append_assoc, List.cons_append]

theorem itemsText_head (level : Nat) (item : Json) (rest : List Json) :
    ∃ c others, itemsText level (item :: rest) = c :: others ∧ isOpening c = true := by
  obtain ⟨c, others, same, opens⟩ := exists_opens_indented level item
  exact ⟨c, others ++ indentedItems level rest, by rw [itemsText, same]; rfl, opens⟩

theorem length_indented_pos (level : Nat) (value : Json) : 0 < (indented level value).length := by
  obtain ⟨c, rest, same, _⟩ := exists_opens_indented level value
  rw [same]
  exact Nat.succ_pos rest.length

/-- What stands between parts does not continue a number. -/
theorem ended_freshLine (level : Nat) (rest : List Char) : Ended (freshLine level ++ rest) :=
  ended_cons rfl (by decide) ⟨by decide, by decide⟩ _

theorem ended_indentedItems (level outer : Nat) (items : List Json) (rest : List Char) :
    Ended (indentedItems level items ++ (freshLine outer ++ rest)) := by
  cases items with
  | nil => exact ended_freshLine outer rest
  | cons item items =>
      rw [indentedItems_cons]
      exact ended_cons rfl (by decide) ⟨by decide, by decide⟩ _

theorem ended_indentedMembers (level outer : Nat) (members : List (String × Json))
    (rest : List Char) : Ended (indentedMembers level members ++ (freshLine outer ++ rest)) := by
  cases members with
  | nil => exact ended_freshLine outer rest
  | cons member members =>
      rw [indentedMembers_cons]
      exact ended_cons rfl (by decide) ⟨by decide, by decide⟩ _

theorem skipGap_closing (level : Nat) {c : Char} (noGap : isGap c = false) (rest : List Char) :
    skipGap (freshLine level ++ c :: rest) = c :: rest := by
  rw [skipGap_freshLine]
  exact skipGap_cons noGap rest

/-- The first item is found behind the line end in front of it. -/
theorem skipGap_itemsText (level : Nat) (item : Json) (items : List Json) (rest : List Char) :
    skipGap (freshLine level ++ (itemsText level (item :: items) ++ rest)) =
      itemsText level (item :: items) ++ rest := by
  obtain ⟨c, others, same, opens⟩ := itemsText_head level item items
  rw [same]
  exact skipGap_closing level (isGap_of_isOpening opens) (others ++ rest)

theorem skipGap_membersText (level : Nat) (member : String × Json)
    (members : List (String × Json)) (rest : List Char) :
    skipGap (freshLine level ++ (membersText level (member :: members) ++ rest)) =
      membersText level (member :: members) ++ rest :=
  skipGap_closing level rfl _

/-- The items after the first one begin behind a comma. -/
theorem skipGap_indentedItems (level : Nat) (item : Json) (items : List Json)
    (rest : List Char) :
    skipGap (indentedItems level (item :: items) ++ rest) =
      ',' :: (freshLine level ++ (itemsText level (item :: items) ++ rest)) := by
  rw [indentedItems_cons, List.cons_append, List.append_assoc]
  exact skipGap_cons rfl _

theorem skipGap_indentedMembers (level : Nat) (member : String × Json)
    (members : List (String × Json)) (rest : List Char) :
    skipGap (indentedMembers level (member :: members) ++ rest) =
      ',' :: (freshLine level ++ (membersText level (member :: members) ++ rest)) := by
  rw [indentedMembers_cons, List.cons_append, List.append_assoc]
  exact skipGap_cons rfl _

/-! ## Steps of the reader -/

section Steps

variable {fuel : Nat} {chars next after rest : List Char}

theorem readValue_arr {items : List Json} {c : Char} (opens : isOpening c = true)
    (inside : skipGap chars = c :: next) (read : readItems fuel (c :: next) = some (items, rest)) :
    readValue (fuel + 1) ('[' :: chars) = some (.arr items, rest) := by
  rw [readValue]
  simp only [inside]
  split
  · next same =>
      exact absurd (List.cons.inj same).1 (ne_of_class opens rfl)
  · rw [read]
    rfl

theorem readItems_last {item : Json} (first : readValue fuel chars = some (item, after))
    (ends : skipGap after = ']' :: rest) :
    readItems (fuel + 1) chars = some ([item], rest) := by
  rw [readItems, first]
  simp only [ends]

theorem readItems_next {item : Json} {items : List Json}
    (first : readValue fuel chars = some (item, after)) (goesOn : skipGap after = ',' :: next)
    (later : readItems fuel (skipGap next) = some (items, rest)) :
    readItems (fuel + 1) chars = some (item :: items, rest) := by
  rw [readItems, first]
  simp only [goesOn, later]
  rfl

theorem readValue_obj {members : List (String × Json)} (distinct : (members.map Prod.fst).Nodup)
    (inside : skipGap chars = '"' :: next)
    (read : readMembers fuel ('"' :: next) = some (members, rest)) :
    readValue (fuel + 1) ('{' :: chars) = some (.obj members, rest) := by
  rw [readValue]
  simp only [inside]
  show (readMembers fuel ('"' :: next)).map _ = _
  rw [read, Option.map_some, ofMembers_of_nodup distinct]

theorem readMembers_last {value : Json} (key : String)
    (first : readValue fuel (skipGap next) = some (value, after))
    (ends : skipGap after = '}' :: rest) :
    readMembers (fuel + 1) (quotedChars key.toList ++ ':' :: next) =
      some ([(key, value)], rest) := by
  have keyRead := readChars_quoted key.toList (':' :: next)
  rw [quotedChars, List.cons_append, List.append_assoc, readMembers, List.singleton_append, keyRead]
  have colon : skipGap (':' :: next) = ':' :: next := skipGap_cons rfl next
  simp only [colon, first, ends, String.ofList_toList]

theorem readMembers_next {value : Json} {members : List (String × Json)} {more : List Char}
    (key : String) (first : readValue fuel (skipGap next) = some (value, after))
    (goesOn : skipGap after = ',' :: more)
    (later : readMembers fuel (skipGap more) = some (members, rest)) :
    readMembers (fuel + 1) (quotedChars key.toList ++ ':' :: next) =
      some ((key, value) :: members, rest) := by
  have keyRead := readChars_quoted key.toList (':' :: next)
  rw [quotedChars, List.cons_append, List.append_assoc, readMembers, List.singleton_append, keyRead]
  have colon : skipGap (':' :: next) = ':' :: next := skipGap_cons rfl next
  simp only [colon, first, goesOn, later, String.ofList_toList]
  rfl

end Steps

/-! ## Reading back -/

mutual
/-- **The indented text of a readable value is read back**, and what follows is left. -/
theorem readValue_indented : ∀ (value : Json) (level fuel : Nat) (rest : List Char),
    Readable value → (indented level value).length ≤ fuel → Ended rest →
      readValue fuel (indented level value ++ rest) = some (value, rest)
  | .null, level, _, _, _, enough, _ =>
      readValue_plain (Nat.lt_of_lt_of_le (length_indented_pos level .null) enough)
        ⟨'n', _, rfl, rfl⟩ rfl
  | .bool true, level, _, _, _, enough, _ =>
      readValue_plain (Nat.lt_of_lt_of_le (length_indented_pos level (.bool true)) enough)
        ⟨'t', _, rfl, rfl⟩ rfl
  | .bool false, level, _, _, _, enough, _ =>
      readValue_plain (Nat.lt_of_lt_of_le (length_indented_pos level (.bool false)) enough)
        ⟨'f', _, rfl, rfl⟩ rfl
  | .int n, level, _, _, readable, enough, ended =>
      readValue_plain (Nat.lt_of_lt_of_le (length_indented_pos level (.int n)) enough)
        (exists_plain_toString n) (readPlain_int readable ended)
  | .float x, level, _, _, _, enough, ended =>
      readValue_plain (Nat.lt_of_lt_of_le (length_indented_pos level (.float x)) enough)
        (exists_plain_render x) (readPlain_render x ended)
  | .str s, level, _, rest, _, enough, _ =>
      readValue_str (Nat.lt_of_lt_of_le (length_indented_pos level (.str s)) enough) s rest
  | .arr [], level, fuel, rest, _, enough, _ => by
      have positive := Nat.lt_of_lt_of_le (length_indented_pos level (.arr [])) enough
      obtain ⟨less, rfl⟩ := Nat.exists_eq_succ_of_ne_zero (Nat.ne_of_gt positive)
      rfl
  | .arr (item :: items), level, fuel, rest, readable, enough, _ => by
      rw [indented_arr] at enough ⊢
      simp only [List.length_cons, List.length_append] at enough
      obtain ⟨less, rfl⟩ : ∃ less, fuel = less + 1 := ⟨fuel - 1, by omega⟩
      have read := readItems_itemsText (item :: items) (level + 1) level less rest
        (List.cons_ne_nil _ _) readable (by omega)
      have inside := skipGap_itemsText (level + 1) item items (freshLine level ++ ']' :: rest)
      obtain ⟨c, others, same, opens⟩ := itemsText_head (level + 1) item items
      simp only [List.cons_append, List.append_assoc, List.nil_append]
      rw [same, List.cons_append] at read inside ⊢
      exact readValue_arr opens inside read
  | .obj [], level, fuel, rest, _, enough, _ => by
      have positive := Nat.lt_of_lt_of_le (length_indented_pos level (.obj [])) enough
      obtain ⟨less, rfl⟩ := Nat.exists_eq_succ_of_ne_zero (Nat.ne_of_gt positive)
      rfl
  | .obj ((key, value) :: members), level, fuel, rest, readable, enough, _ => by
      rw [indented_obj] at enough ⊢
      simp only [List.length_cons, List.length_append] at enough
      obtain ⟨less, rfl⟩ : ∃ less, fuel = less + 1 := ⟨fuel - 1, by omega⟩
      have read := readMembers_membersText ((key, value) :: members) (level + 1) level less
        rest (List.cons_ne_nil _ _) readable.2 (by omega)
      simp only [List.cons_append, List.append_assoc, List.nil_append]
      exact readValue_obj readable.1 (skipGap_membersText (level + 1) (key, value) members _) read

theorem readItems_itemsText : ∀ (items : List Json) (level outer fuel : Nat) (rest : List Char),
    items ≠ [] → ReadableItems items → (itemsText level items).length < fuel →
      readItems fuel (itemsText level items ++ (freshLine outer ++ ']' :: rest)) =
        some (items, rest)
  | [], _, _, _, _, inhabited, _, _ => absurd rfl inhabited
  | [item], level, outer, fuel, rest, _, readable, enough => by
      obtain ⟨less, rfl⟩ : ∃ less, fuel = less + 1 := ⟨fuel - 1, by omega⟩
      rw [itemsText, indentedItems, List.append_nil] at enough ⊢
      have first := readValue_indented item level less _ readable.1 (Nat.le_of_lt_succ enough)
        (ended_freshLine outer (']' :: rest))
      exact readItems_last first (skipGap_closing outer rfl rest)
  | item :: next :: items, level, outer, fuel, rest, _, readable, enough => by
      obtain ⟨less, rfl⟩ : ∃ less, fuel = less + 1 := ⟨fuel - 1, by omega⟩
      rw [itemsText, List.length_append, indentedItems_cons, List.length_cons,
        List.length_append] at enough
      have first := readValue_indented item level less _ readable.1 (by omega)
        (ended_indentedItems level outer (next :: items) (']' :: rest))
      have later := readItems_itemsText (next :: items) level outer less rest
        (List.cons_ne_nil _ _) readable.2 (by omega)
      rw [itemsText, List.append_assoc]
      refine readItems_next first (skipGap_indentedItems level next items _) ?_
      rw [skipGap_itemsText]
      exact later

theorem readMembers_membersText : ∀ (members : List (String × Json)) (level outer fuel : Nat)
    (rest : List Char), members ≠ [] → ReadableMembers members →
      (membersText level members).length < fuel →
        readMembers fuel (membersText level members ++ (freshLine outer ++ '}' :: rest)) =
          some (members, rest)
  | [], _, _, _, _, inhabited, _, _ => absurd rfl inhabited
  | [(key, value)], level, outer, fuel, rest, _, readable, enough => by
      obtain ⟨less, rfl⟩ : ∃ less, fuel = less + 1 := ⟨fuel - 1, by omega⟩
      rw [membersText, indentedMembers, List.append_nil] at enough ⊢
      rw [List.length_append, List.length_cons, List.length_cons] at enough
      have first := readValue_indented value level less _ readable.1 (by omega)
        (ended_freshLine outer ('}' :: rest))
      rw [← skipGap_indented] at first
      simp only [List.append_assoc, List.cons_append]
      exact readMembers_last key first (skipGap_closing outer rfl rest)
  | (key, value) :: next :: members, level, outer, fuel, rest, _, readable, enough => by
      obtain ⟨less, rfl⟩ : ∃ less, fuel = less + 1 := ⟨fuel - 1, by omega⟩
      rw [membersText, List.length_append, List.length_cons, List.length_cons, List.length_append,
        indentedMembers_cons, List.length_cons, List.length_append] at enough
      have first := readValue_indented value level less _ readable.1 (by omega)
        (ended_indentedMembers level outer (next :: members) ('}' :: rest))
      have later := readMembers_membersText (next :: members) level outer less rest
        (List.cons_ne_nil _ _) readable.2 (by omega)
      rw [← skipGap_indented] at first
      rw [membersText]
      simp only [List.append_assoc, List.cons_append]
      refine readMembers_next key first (skipGap_indentedMembers level next members _) ?_
      rw [skipGap_membersText]
      exact later
end

/-- **The text of a readable value stands for that value.** -/
theorem parse?_pretty {value : Json} (readable : Readable value) :
    parse? value.pretty = some value := by
  have read := readValue_indented value 0 (2 * (indented 0 value).length + 2) [] readable
    (by omega) ended_nil
  have front := skipGap_indented 0 value []
  rw [List.append_nil] at read front
  simp only [parse?, pretty, String.toList_ofList]
  rw [front, read]
  rfl

/-- Different readable values have different texts. -/
theorem pretty_inj {value other : Json} (readable : Readable value)
    (otherReadable : Readable other) : value.pretty = other.pretty ↔ value = other := by
  constructor
  · intro same
    have read := parse?_pretty readable
    rw [same, parse?_pretty otherReadable] at read
    exact (Option.some.inj read).symm
  · intro same
    rw [same]

end DashboardExport.Json
