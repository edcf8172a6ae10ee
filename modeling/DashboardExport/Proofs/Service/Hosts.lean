import DashboardExport.Proofs.Fallible
import DashboardExport.Proofs.Service.Percent
import DashboardExport.Proofs.Text.Punycode
import DashboardExport.Proofs.Text.Split
import DashboardExport.Service.Address
import Mathlib.Data.List.TakeDrop

/-!
# Hosts read again

A host in its one form is made of characters that stand for themselves in a name, unless it
is a number that stood in brackets (`readHost_eq_ok`).  For the name that a label outside
ASCII is sent under this rests on what Punycode is made of and on the rules for labels, which
leave lower-case letters, digits and hyphens of ASCII (`Label.isNameChar_of_asciiForm?`).

Reading a host for the second time lowers it at most, and from then on nothing changes
(`readHost_of_inHost`).
-/

set_option autoImplicit false

namespace DashboardExport.Service

open DashboardExport.Text Percent

/-! ## Names in ASCII -/

namespace Label

/-- Whether a character can stand in a name in its ASCII form. -/
def isNameChar (c : Char) : Bool := c.isLower || c.isDigit || c == '-' || c == '.'

theorem isNameChar_of_isLabelChar {c : Char} (ascii : c.toNat < 128)
    (fits : isLabelChar c = true) : isNameChar c = true := by
  obtain ⟨range, member, low, high⟩ := inRanges_eq_true_iff.1 fits
  have first : (labelRanges.all fun range =>
      128 ≤ range.1 || [(0x2D, 0x2D), (0x30, 0x39), (0x61, 0x7A)].contains range) = true := by
    decide +kernel
  have here := List.all_eq_true.1 first range member
  simp only [Bool.or_eq_true, decide_eq_true_eq, List.contains_iff_mem, List.mem_cons,
    List.not_mem_nil, or_false] at here
  have small : c.toNat = 0x2D ∨ (0x30 ≤ c.toNat ∧ c.toNat ≤ 0x39) ∨
      (0x61 ≤ c.toNat ∧ c.toNat ≤ 0x7A) := by
    rcases here with above | rfl | rfl | rfl <;> omega
  exact forall_ascii (fun d => d.toNat = 0x2D ∨ (0x30 ≤ d.toNat ∧ d.toNat ≤ 0x39) ∨
    (0x61 ≤ d.toNat ∧ d.toNat ≤ 0x7A) → isNameChar d = true) (by decide) ascii small

theorem isNameChar_of_isNumberDigit {c : Char} (digit : Punycode.isNumberDigit c = true) :
    isNameChar c = true := by
  unfold Punycode.isNumberDigit Punycode.digitValue? at digit
  split at digit
  · next lower => simp [isNameChar, lower]
  split at digit
  · next decimal => simp [isNameChar, decimal]
  · cases digit

/-- A character that fits only beside others is not an ASCII character. -/
theorem isLabelChar_of_charFits {before after : List Char} {c : Char} (ascii : c.toNat < 128)
    (fits : charFits before c after = true) : isLabelChar c = true := by
  rcases Bool.or_eq_true_iff.1 fits with plain | beside
  · exact plain
  · have arabic : isArabicDigit c = false := by
      simp only [isArabicDigit, Bool.and_eq_false_iff, decide_eq_false_iff_not]
      omega
    have eastern : isEasternDigit c = false := by
      simp only [isEasternDigit, Bool.and_eq_false_iff, decide_eq_false_iff_not]
      omega
    split at beside
    all_goals first | omega | simp [arabic, eastern] at beside

theorem isNameChar_of_isValid {label : List Char} (valid : isValid label = true) {c : Char}
    (member : c ∈ label) (ascii : c.toNat < 128) : isNameChar c = true := by
  have each (before : List Char) : charsFit before label = true → isLabelChar c = true := by
    clear valid
    intro fits
    induction label generalizing before with
    | nil => cases member
    | cons d label ih =>
        obtain ⟨here, later⟩ := Bool.and_eq_true_iff.1 fits
        rcases List.mem_cons.1 member with rfl | member
        · exact isLabelChar_of_charFits ascii here
        · exact ih member _ later
  simp only [isValid, Bool.and_eq_true] at valid
  exact isNameChar_of_isLabelChar ascii (each [] valid.1.2)

/-- What Punycode adds to the characters of a label are hyphens and digits. -/
theorem isNameChar_of_written {label : List Char} (valid : isValid label = true) {c : Char}
    (written : (c ∈ label ∧ Punycode.isBasic c = true) ∨ c = '-' ∨
      Punycode.isNumberDigit c = true) : isNameChar c = true := by
  rcases written with ⟨kept, basic⟩ | rfl | digit
  · exact isNameChar_of_isValid valid kept (of_decide_eq_true basic)
  · rfl
  · exact isNameChar_of_isNumberDigit digit

theorem isNameChar_of_mark {c : Char} (inMark : c ∈ mark) : isNameChar c = true := by
  have all : mark.all isNameChar = true := by decide
  exact List.all_eq_true.1 all c inMark

/-- A text that spells a label. -/
theorem isNameChar_of_spelled? {text label : List Char} (spells : spelled? text = some label)
    (valid : isValid label = true) {c : Char} (member : c ∈ text)
    (basic : Punycode.isBasic c = true) : isNameChar c = true := by
  unfold spelled? at spells
  split at spells
  · next marked =>
      obtain ⟨written, rfl⟩ := List.isPrefixOf_iff_prefix.1 marked
      simp only [List.drop_left] at spells
      rcases List.mem_append.1 member with inMark | member
      · exact isNameChar_of_mark inMark
      split at spells
      · cases spells
      · have written := Punycode.mem_decode? spells member
        exact isNameChar_of_written valid (written.imp_left fun kept => ⟨kept, basic⟩)
  · cases spells
    exact isNameChar_of_isValid valid member (of_decide_eq_true basic)

/-- **The ASCII form of a label** is made of lower-case letters, digits and hyphens. -/
theorem isNameChar_of_asciiForm? {label form : List Char} (made : asciiForm? label = some form)
    {c : Char} (member : c ∈ form) : isNameChar c = true := by
  unfold asciiForm? at made
  split at made
  · cases made
  split at made
  · next basic =>
      split at made
      · next spelled spells =>
          obtain ⟨valid, made⟩ := Option.ite_none_right_eq_some.1 made
          cases made
          exact isNameChar_of_spelled? spells valid member (List.all_eq_true.1 basic c member)
      · cases made
  · obtain ⟨fits, made⟩ := Option.ite_none_right_eq_some.1 made
    cases made
    rcases List.mem_append.1 member with inMark | member
    · exact isNameChar_of_mark inMark
    · exact isNameChar_of_written (Bool.and_eq_true_iff.1 fits).1 (Punycode.mem_encode member)

/-- **The ASCII form of a name** is made of labels and dots. -/
theorem isNameChar_of_nameForm? {name form : List Char} (made : nameForm? name = some form)
    {c : Char} (member : c ∈ form) : isNameChar c = true := by
  simp only [nameForm?, Option.bind_eq_bind] at made
  obtain ⟨forms, each, made⟩ := Option.bind_eq_some_iff.1 made
  have inForms {part : List Char} (inside : part ∈ forms) (here : c ∈ part) :
      isNameChar c = true := by
    obtain ⟨label, -, labelMade⟩ := exists_mem_of_mapM_eq_some each inside
    exact isNameChar_of_asciiForm? labelMade here
  obtain ⟨-, made⟩ := Option.ite_none_right_eq_some.1 made
  rw [← Option.some.inj made] at member
  rcases mem_intercalate member with rfl | ⟨part, inside, here⟩
  · rfl
  · split at inside
    · rcases List.mem_append.1 inside with inside | last
      · exact inForms inside here
      · rw [List.mem_singleton.1 last] at here
        cases here
    · exact inForms inside here

theorem inHost_of_isNameChar {c : Char} (fits : isNameChar c = true) : inHost c = true := by
  have ascii : c.toNat < 128 := by
    simp only [isNameChar, Bool.or_eq_true, beq_iff_eq] at fits
    rcases fits with ((lower | digit) | rfl) | rfl
    · exact ascii_of_isLower lower
    · exact ascii_of_isDigit digit
    · decide
    · decide
  exact forall_ascii (fun d => isNameChar d = true → inHost d = true) (by decide) ascii fits

end Label

/-! ## Numbers -/

namespace Host

theorem inHost_of_isDigit {c : Char} (digit : c.isDigit = true) : inHost c = true :=
  forall_ascii (fun d => d.isDigit = true → inHost d = true) (by decide) (ascii_of_isDigit digit)
    digit

theorem inHost_of_isDotted {chars : List Char} (dotted : isDotted chars = true) {c : Char}
    (member : c ∈ chars) : inHost c = true := by
  rw [← intercalate_splitAtEvery (fun d => beq_iff_eq (a := d) (b := '.')) chars] at member
  rcases mem_intercalate member with rfl | ⟨part, inside, here⟩
  · decide
  · have octet := List.all_eq_true.1 (Bool.and_eq_true_iff.1 dotted).2 part inside
    simp only [isOctet, isNumeral, Bool.and_eq_true] at octet
    exact inHost_of_isDigit (List.all_eq_true.1 octet.1.1.1.2 c here)

/-- A colon-separated number has a colon. -/
theorem colon_mem_of_isColonSeparated {chars : List Char} (fits : isColonSeparated chars = true) :
    ':' ∈ chars := by
  by_contra none
  have number : hextets? (chars.span (· != '%')).1 = Option.none := by
    have uncut : Uncut (· == ':') (chars.span (· != '%')).1 := by
      intro c member
      refine beq_eq_false_iff_ne.2 ?_
      rintro rfl
      rw [List.span_eq_takeWhile_dropWhile] at member
      exact none ((List.takeWhile_sublist _).subset member)
    rw [hextets?, splitAtEvery_of_uncut uncut]
    rfl
  simp only [isColonSeparated, number, Bool.and_false, Bool.false_eq_true] at fits

end Host

/-! ## Hosts in their one form -/

theorem eq_of_brackets {text : List Char}
    (brackets : (text.head? == some '[' && text.getLast? == some ']') = true) :
    text = '[' :: (text.tail.dropLast ++ [']']) := by
  obtain ⟨opens, closes⟩ := Bool.and_eq_true_iff.1 brackets
  obtain ⟨inside, rfl⟩ := List.head?_eq_some_iff.1 (beq_iff_eq.1 opens)
  rw [List.getLast?_cons, beq_iff_eq, Option.some_inj] at closes
  cases last : inside.getLast? with
  | none =>
      rw [last] at closes
      simp at closes
  | some c =>
      rw [last, Option.getD_some] at closes
      obtain ⟨number, rfl⟩ := List.getLast?_eq_some_iff.1 last
      rw [List.tail_cons, List.dropLast_concat, closes]

/-- **A host in its one form** is made of characters of names, or it is what stood in brackets. -/
theorem readHost_eq_ok {text host : List Char} (read : readHost text = .ok host) :
    (∀ c ∈ host, inHost c = true) ∨ (text = '[' :: (host ++ [']']) ∧ ':' ∈ host) := by
  unfold readHost at read
  split at read
  · cases read
    simp
  split at read
  · split at read
    · next dotted =>
        cases read
        exact .inl fun c member => Host.inHost_of_isDotted dotted member
    · cases read
  split at read
  · next brackets =>
      simp only at read
      split at read
      · next number =>
          cases read
          exact .inr ⟨eq_of_brackets brackets, Host.colon_mem_of_isColonSeparated number⟩
      · cases read
  split at read
  · cases read
    exact .inl fun c member =>
      plain_of_mem_encode (plain_of_isEscapeChar (by decide)) member
  · split at read
    · next made =>
        cases read
        exact .inl fun c member =>
          Label.inHost_of_isNameChar (Label.isNameChar_of_nameForm? made member)
    · cases read

/-! ## Lower case -/

theorem toLower_of_inHost {c : Char} (plain : inHost c = true) :
    inHost c.toLower = true ∧ c.toLower.isDigit = c.isDigit :=
  forall_ascii (fun d => inHost d = true → inHost d.toLower = true ∧
    d.toLower.isDigit = d.isDigit) (by decide) (ascii_of_graphicExcept plain) plain

theorem all_map_of_forall {α : Type} {change : α → α} {holds : α → Bool} {items : List α}
    (kept : ∀ item ∈ items, holds (change item) = holds item) :
    (items.map change).all holds = items.all holds := by
  rw [List.all_map, Bool.eq_iff_iff, List.all_eq_true, List.all_eq_true]
  exact forall₂_congr fun item member => by rw [Function.comp_apply, kept item member]

theorem looksDotted_map {change : Char → Char} {chars : List Char}
    (kept : ∀ c ∈ chars, (change c).isDigit = c.isDigit) :
    Host.looksDotted (chars.map change) = Host.looksDotted chars := by
  have runs : splitAtEvery (!·.isDigit) (chars.map change) =
      (splitAtEvery (!·.isDigit) chars).map (List.map change) :=
    splitAtEvery_map fun c member => congrArg not (kept c member)
  have numerals : ∀ run ∈ splitAtEvery (!·.isDigit) chars,
      Host.isNumeral (run.map change) = Host.isNumeral run := by
    intro run member
    have inside := (sublist_of_mem_splitAtEvery member).subset
    have digits := all_map_of_forall fun c here => kept c (inside here)
    rw [Host.isNumeral, Host.isNumeral, digits, List.isEmpty_map]
  have every : ((splitAtEvery (!·.isDigit) chars).map (List.map change)).all Host.isNumeral =
      (splitAtEvery (!·.isDigit) chars).all Host.isNumeral :=
    all_map_of_forall numerals
  simp only [Host.looksDotted, runs, every, List.length_map, List.foldl_map]

theorem brackets_of_inHost {text : List Char} (plain : ∀ c ∈ text, inHost c = true) :
    (text.head? == some '[' && text.getLast? == some ']') = false := by
  rw [Bool.eq_false_iff]
  intro brackets
  rw [eq_of_brackets brackets] at plain
  exact absurd (plain '[' List.mem_cons_self) (by decide)

/-- A name that holds no other character is only lowered. -/
theorem readHost_name {text : List Char} (plain : ∀ c ∈ text, inHost c = true)
    (something : text ≠ []) (noNumber : Host.looksDotted text = false) :
    readHost text = .ok (text.map Char.toLower) := by
  have ascii : (text.all fun c => c.toNat < 128) = true :=
    List.all_eq_true.2 fun c member => decide_eq_true (ascii_of_graphicExcept (plain c member))
  have lowered : ∀ c ∈ text.map Char.toLower, inHost c = true :=
    List.forall_mem_map.2 fun c member => (toLower_of_inHost (plain c member)).1
  rw [readHost, List.isEmpty_eq_false_iff.2 something, if_neg Bool.false_ne_true, noNumber,
    if_neg Bool.false_ne_true, brackets_of_inHost plain, if_neg Bool.false_ne_true, if_pos ascii,
    encode_of_plain lowered]

/-- **A host that is read from characters of names is read again as it is.** -/
theorem readHost_of_inHost {text host : List Char} (plain : ∀ c ∈ text, inHost c = true)
    (read : readHost text = .ok host) :
    (∀ c ∈ host, inHost c = true) ∧ host.length = text.length ∧ readHost host = .ok host := by
  by_cases something : text = []
  · subst something
    cases read
    exact ⟨plain, rfl, rfl⟩
  cases number : Host.looksDotted text with
  | true =>
      have again := read
      rw [readHost, List.isEmpty_eq_false_iff.2 something, if_neg Bool.false_ne_true, number,
        if_pos rfl] at read
      split at read
      · cases read
        exact ⟨plain, rfl, again⟩
      · cases read
  | false =>
      rw [readHost_name plain something number] at read
      obtain rfl := Except.ok.inj read
      have lowered : ∀ c ∈ text.map Char.toLower, inHost c = true :=
        List.forall_mem_map.2 fun c member => (toLower_of_inHost (plain c member)).1
      have stays : Host.looksDotted (text.map Char.toLower) = false := by
        rw [looksDotted_map fun c member => (toLower_of_inHost (plain c member)).2, number]
      refine ⟨lowered, List.length_map _, ?_⟩
      rw [readHost_name lowered (by simpa using something) stays, List.map_map]
      exact congrArg Except.ok (List.map_congr_left fun c _ => toLower_toLower c)

end DashboardExport.Service
