import DashboardExport.Proofs.Text.Quoted
import Mathlib.Data.List.Basic
import Mathlib.Data.List.Infix

/-!
# Quoted texts as templates

A reader of the configuration takes a text in quotation marks for a template.  It has escapes
of its own (`escape?`), and a dollar or percent sign with a brace begins an expression to be
filled in, unless the sign is written twice (`part?`).  What such an expression stands for is up
to the reader, so a template evaluates to a text relative to that (`Evaluates`).

Quoting knows nothing of templates.  A quoted text is read as the text itself, whatever
expressions stand for, exactly when it holds no sign with a brace and neither of the two
control characters that quoting writes with a letter of its own and templates have no letter
for (`quoted_evaluates_iff`).
-/

set_option autoImplicit false

namespace DashboardExport.Hcl.Template

open Text (hexDigits quotedChar quotedChars quoted readHex)

/-! ## Templates -/

/-- Whether a character before a brace begins an expression. -/
def isSign (c : Char) : Bool := c == '$' || c == '%'

/-- The character of a code, written in hexadecimal digits. -/
def codePoint? (width : Nat) (chars : List Char) : Option (Char × List Char) :=
  (readHex width 0 chars).bind fun read =>
    if read.1.isValidChar then some (Char.ofNat read.1, read.2) else none

/-- The character that an escape stands for, from behind the backslash. -/
def escape? : List Char → Option (Char × List Char)
  | 'n' :: rest => some ('\n', rest)
  | 'r' :: rest => some ('\r', rest)
  | 't' :: rest => some ('\t', rest)
  | '"' :: rest => some ('"', rest)
  | '\\' :: rest => some ('\\', rest)
  | 'u' :: rest => codePoint? 4 rest
  | 'U' :: rest => codePoint? 8 rest
  | _ => none

/-- The next part of a template, with what follows it. -/
inductive Part where
  /-- The mark that ends the template. -/
  | closing (rest : List Char)
  | text (value rest : List Char)
  /-- A sign and a brace, behind which an expression stands. -/
  | opening (sign : Char) (rest : List Char)
  deriving DecidableEq

/-- The part that a template goes on with.  A template has no line end. -/
def part? : List Char → Option Part
  | [] => none
  | c :: rest =>
    if c == '"' then some (.closing rest)
    else if c == '\\' then (escape? rest).map fun read => .text [read.1] read.2
    else if c == '\n' then none
    else if isSign c && ['{'].isPrefixOf rest then some (.opening c (rest.drop 1))
    else if isSign c && [c, '{'].isPrefixOf rest then some (.text [c, '{'] (rest.drop 2))
    else some (.text [c] rest)

/-- What expressions stand for: the sign before an expression, the text behind its brace, the value
of the expression and what follows it. -/
abbrev Meaning := Char → List Char → List Char → List Char → Prop

/-- A reader for whom no expression has a value. -/
def noMeaning : Meaning := fun _ _ _ _ => False

/-- A template evaluates to a text, from behind its opening mark, and this is what follows it. -/
inductive Evaluates (meaning : Meaning) : List Char → List Char → List Char → Prop where
  | closing {chars rest : List Char} (part : part? chars = some (.closing rest)) :
      Evaluates meaning chars [] rest
  | text {chars value rest more after : List Char} (part : part? chars = some (.text value rest))
      (later : Evaluates meaning rest more after) :
      Evaluates meaning chars (value ++ more) after
  | opening {chars rest value behind more after : List Char} {sign : Char}
      (part : part? chars = some (.opening sign rest)) (means : meaning sign rest value behind)
      (later : Evaluates meaning behind more after) :
      Evaluates meaning chars (value ++ more) after

/-- A text in quotation marks is a template for a value. -/
def Stands (meaning : Meaning) (template value : String) : Prop :=
  ∃ chars, template.toList = '"' :: chars ∧ Evaluates meaning chars value.toList []

section Evaluation

variable {meaning : Meaning} {chars value rest result after : List Char}

theorem evaluates_closing_iff (part : part? chars = some (.closing rest)) :
    Evaluates meaning chars result after ↔ result = [] ∧ after = rest := by
  constructor
  · intro evaluates
    cases evaluates with
    | closing here => cases here.symm.trans part; exact ⟨rfl, rfl⟩
    | text here _ => cases here.symm.trans part
    | opening here _ _ => cases here.symm.trans part
  · rintro ⟨rfl, rfl⟩
    exact .closing part

theorem evaluates_text_iff (part : part? chars = some (.text value rest)) :
    Evaluates meaning chars result after ↔
      ∃ more, result = value ++ more ∧ Evaluates meaning rest more after := by
  constructor
  · intro evaluates
    cases evaluates with
    | closing here => cases here.symm.trans part
    | text here later => cases here.symm.trans part; exact ⟨_, rfl, later⟩
    | opening here _ _ => cases here.symm.trans part
  · rintro ⟨more, rfl, later⟩
    exact .text part later

/-- Nothing comes of a template that does not go on. -/
theorem not_evaluates (part : part? chars = none) : ¬ Evaluates meaning chars result after := by
  intro evaluates
  cases evaluates with
  | closing here => cases here.symm.trans part
  | text here _ => cases here.symm.trans part
  | opening here _ _ => cases here.symm.trans part

/-- To a reader for whom no expression has a value, nothing comes of a template with one. -/
theorem not_evaluates_opening {sign : Char} (part : part? chars = some (.opening sign rest)) :
    ¬ Evaluates noMeaning chars result after := by
  intro evaluates
  cases evaluates with
  | closing here => cases here.symm.trans part
  | text here _ => cases here.symm.trans part
  | opening _ never _ => exact never

end Evaluation

/-! ## Quoted characters -/

/-- The characters of a quoted text from behind its opening mark, and what follows it. -/
def code (chars after : List Char) : List Char := chars.flatMap quotedChar ++ '"' :: after

theorem code_cons (c : Char) (chars after : List Char) :
    code (c :: chars) after = quotedChar c ++ code chars after := by
  rw [code, List.flatMap_cons, List.append_assoc, code]

/-- Whether templates have no escape for a character that quoting writes with a letter. -/
def isUnknown (c : Char) : Bool := c.toNat == 0x08 || c.toNat == 0x0C

theorem isSign_iff {c : Char} : isSign c = true ↔ c = '$' ∨ c = '%' := by
  rw [isSign, Bool.or_eq_true, beq_iff_eq, beq_iff_eq]

/-- A character is quoted as itself or begins with a backslash. -/
theorem quotedChar_eq_or (c : Char) :
    quotedChar c = [c] ∨ ∃ escape, quotedChar c = '\\' :: escape := by
  rcases Text.quotedChar_cases c with ⟨plain, -⟩ | ⟨_, short⟩ | digits
  · exact .inl plain
  · exact .inr ⟨_, short⟩
  · exact .inr ⟨_, digits⟩

/-- Characters that stand for themselves begin what a quoted text is written as exactly when they
begin the text. -/
theorem isPrefixOf_code {plain : List Char}
    (itself : ∀ x ∈ plain, quotedChar x = [x] ∧ x ≠ '"' ∧ x ≠ '\\') (chars after : List Char) :
    plain.isPrefixOf (code chars after) = plain.isPrefixOf chars := by
  induction plain generalizing chars with
  | nil => rfl
  | cons x plain ih =>
      obtain ⟨-, mark, escape⟩ := itself x List.mem_cons_self
      have later := ih fun y member => itself y (List.mem_cons_of_mem x member)
      cases chars with
      | nil =>
          have differ : (x == '"') = false := beq_false_of_ne mark
          simp [code, List.isPrefixOf, differ]
      | cons c more =>
          rw [code_cons, List.isPrefixOf]
          rcases quotedChar_eq_or c with same | ⟨rest, escaped⟩
          · rw [same, List.singleton_append, List.isPrefixOf, later]
          · have differ : (x == c) = false := by
              refine beq_false_of_ne ?_
              rintro rfl
              have own := (itself x List.mem_cons_self).1
              rw [escaped] at own
              exact escape (List.cons.inj own).1.symm
            have differ' : (x == '\\') = false := beq_false_of_ne escape
            rw [escaped, List.cons_append, List.isPrefixOf, differ, differ']
            rfl

/-- Characters that stand for themselves are left out of what is written as out of the text. -/
theorem drop_code {plain chars : List Char} (itself : ∀ x ∈ plain, quotedChar x = [x])
    (first : plain.isPrefixOf chars = true) (after : List Char) :
    (code chars after).drop plain.length = code (chars.drop plain.length) after := by
  obtain ⟨rest, rfl⟩ := List.isPrefixOf_iff_prefix.1 first
  have same : plain.flatMap quotedChar = plain := by
    rw [List.flatMap_congr itself, List.flatMap_singleton']
  rw [code, List.flatMap_append, same, List.append_assoc, List.drop_left, List.drop_left, code]

theorem sign_itself {c : Char} (sign : isSign c = true) :
    quotedChar c = [c] ∧ c ≠ '"' ∧ c ≠ '\\' := by
  rw [isSign, Bool.or_eq_true, beq_iff_eq, beq_iff_eq] at sign
  rcases sign with rfl | rfl
  · decide
  · decide

theorem readHex_hexDigits {n : Nat} (small : n < 0x10000) (rest : List Char) :
    readHex 4 0 (hexDigits 4 n ++ rest) = some (n, rest) := by
  have digit (k : Nat) : k % 16 < 16 := Nat.mod_lt k (by decide)
  simp only [hexDigits, List.nil_append, List.cons_append, readHex,
    Json.hexValue?_digitChar (digit _), Option.some.injEq, Prod.mk.injEq, and_true]
  omega

/-- A control character that quoting writes by its code is read back. -/
theorem codePoint?_hexDigits {c : Char} (small : c.toNat < 0x10000) (rest : List Char) :
    codePoint? 4 (hexDigits 4 c.toNat ++ rest) = some (c, rest) := by
  have valid : c.toNat.isValidChar := c.valid
  rw [codePoint?, readHex_hexDigits small, Option.bind_some, if_pos valid, Char.ofNat_toNat]

/-- **A character that is no sign is read as itself**, if templates know how it is written. -/
theorem part?_code_of_known {c : Char} (known : isUnknown c = false) (noSign : isSign c = false)
    (chars after : List Char) :
    part? (code (c :: chars) after) = some (.text [c] (code chars after)) := by
  rw [isUnknown, Bool.or_eq_false_iff] at known
  rw [code_cons, quotedChar]
  split_ifs with special lineEnd carriageReturn tab backspace formFeed control
  · rw [Bool.or_eq_true, beq_iff_eq, beq_iff_eq] at special
    rcases special with rfl | rfl
    · rfl
    · rfl
  · rw [beq_iff_eq.1 lineEnd]
    rfl
  · rw [beq_iff_eq.1 carriageReturn]
    rfl
  · rw [beq_iff_eq.1 tab]
    rfl
  · rw [known.1] at backspace
    cases backspace
  · rw [known.2] at formFeed
    cases formFeed
  · have read := @codePoint?_hexDigits c (by omega) (code chars after)
    show (codePoint? 4 (hexDigits 4 c.toNat ++ code chars after)).map _ = _
    rw [read]
    rfl
  · rw [Bool.or_eq_true, not_or] at special
    rw [List.singleton_append, part?, if_neg special.1, if_neg special.2, if_neg lineEnd, noSign]
    rfl

/-- **A sign begins an expression**, or with its like before a brace it stands for itself and the
brace; otherwise it is read as itself. -/
theorem part?_code_of_sign {c : Char} (sign : isSign c = true) (chars after : List Char) :
    part? (code (c :: chars) after) =
      if ['{'].isPrefixOf chars then some (.opening c (code (chars.drop 1) after))
      else if [c, '{'].isPrefixOf chars then some (.text [c, '{'] (code (chars.drop 2) after))
      else some (.text [c] (code chars after)) := by
  have brace : ∀ x ∈ ['{'], quotedChar x = [x] ∧ x ≠ '"' ∧ x ≠ '\\' :=
    List.forall_mem_singleton.2 (by decide)
  have signed : ∀ x ∈ [c, '{'], quotedChar x = [x] ∧ x ≠ '"' ∧ x ≠ '\\' :=
    List.forall_mem_cons.2 ⟨sign_itself sign, brace⟩
  have noLineEnd : ¬ (c == '\n') = true := by
    rw [beq_iff_eq]
    rintro rfl
    exact absurd sign (by decide)
  obtain ⟨itself, mark, escape⟩ := sign_itself sign
  rw [code_cons, itself, List.singleton_append, part?, if_neg (by simpa using mark),
    if_neg (by simpa using escape), if_neg noLineEnd, sign, Bool.true_and, Bool.true_and,
    isPrefixOf_code brace, isPrefixOf_code signed]
  split_ifs with begins doubled
  · exact congrArg (fun rest => some (Part.opening c rest))
      (drop_code (fun x member => (brace x member).1) begins after)
  · exact congrArg (fun rest => some (Part.text [c, '{'] rest))
      (drop_code (fun x member => (signed x member).1) doubled after)
  · rfl

/-- A character that templates do not know how to read ends the reading. -/
theorem part?_code_of_unknown {c : Char} (unknown : isUnknown c = true) (chars after : List Char) :
    part? (code (c :: chars) after) = none := by
  rw [isUnknown, Bool.or_eq_true, beq_iff_eq, beq_iff_eq] at unknown
  have same : c = Char.ofNat c.toNat := (Char.ofNat_toNat c).symm
  rcases unknown with backspace | formFeed
  · rw [backspace] at same
    rw [same]
    rfl
  · rw [formFeed] at same
    rw [same]
    rfl

/-! ## Texts that stand for themselves -/

/-- A text without expressions and without characters that templates do not know how to read. -/
structure Literal (chars : List Char) : Prop where
  interpolation : ¬ ['$', '{'] <:+: chars
  directive : ¬ ['%', '{'] <:+: chars
  known : ∀ c ∈ chars, isUnknown c = false

theorem literal_nil : Literal [] := ⟨by simp, by simp, by simp⟩

theorem literal_cons_iff {c : Char} {chars : List Char} :
    Literal (c :: chars) ↔ isUnknown c = false ∧
      ¬ (isSign c = true ∧ ['{'].isPrefixOf chars = true) ∧ Literal chars := by
  have begins (sign : Char) : [sign, '{'] <:+: c :: chars ↔
      (sign = c ∧ ['{'].isPrefixOf chars = true) ∨ [sign, '{'] <:+: chars := by
    rw [List.infix_cons_iff, List.cons_prefix_cons, List.isPrefixOf_iff_prefix]
  constructor
  · intro literal
    refine ⟨literal.known c List.mem_cons_self, ?_, ?_⟩
    · rintro ⟨sign, brace⟩
      rcases isSign_iff.1 sign with rfl | rfl
      · exact literal.interpolation ((begins _).2 (.inl ⟨rfl, brace⟩))
      · exact literal.directive ((begins _).2 (.inl ⟨rfl, brace⟩))
    · exact ⟨fun inside => literal.interpolation ((begins _).2 (.inr inside)),
        fun inside => literal.directive ((begins _).2 (.inr inside)),
        fun d member => literal.known d (List.mem_cons_of_mem c member)⟩
  · rintro ⟨known, apart, literal⟩
    refine ⟨fun inside => ?_, fun inside => ?_, List.forall_mem_cons.2 ⟨known, literal.known⟩⟩
    · rcases (begins _).1 inside with ⟨rfl, brace⟩ | later
      · exact apart ⟨rfl, brace⟩
      · exact literal.interpolation later
    · rcases (begins _).1 inside with ⟨rfl, brace⟩ | later
      · exact apart ⟨rfl, brace⟩
      · exact literal.directive later

/-- A text that stands for itself is read character by character. -/
theorem part?_code_of_literal {c : Char} {chars : List Char} (literal : Literal (c :: chars))
    (after : List Char) :
    part? (code (c :: chars) after) = some (.text [c] (code chars after)) := by
  obtain ⟨known, apart, later⟩ := literal_cons_iff.1 literal
  cases sign : isSign c with
  | false => exact part?_code_of_known known sign chars after
  | true =>
      have single : ¬ ['{'].isPrefixOf chars = true := fun brace => apart ⟨sign, brace⟩
      have notDoubled : ¬ [c, '{'].isPrefixOf chars = true := by
        intro doubled
        obtain ⟨rest, rfl⟩ := List.isPrefixOf_iff_prefix.1 doubled
        exact (literal_cons_iff.1 later).2.1 ⟨sign, rfl⟩
      rw [part?_code_of_sign sign, if_neg single, if_neg notDoubled]

/-- **A text that stands for itself is read as it is**, whatever expressions stand for. -/
theorem evaluates_code {chars : List Char} (literal : Literal chars) (meaning : Meaning)
    (after : List Char) {value rest : List Char} :
    Evaluates meaning (code chars after) value rest ↔ value = chars ∧ rest = after := by
  induction chars generalizing value with
  | nil => exact evaluates_closing_iff rfl
  | cons c chars ih =>
      rw [evaluates_text_iff (part?_code_of_literal literal after)]
      have later (more : List Char) : Evaluates meaning (code chars after) more rest ↔
          more = chars ∧ rest = after := ih (literal_cons_iff.1 literal).2.2
      simp only [later]
      constructor
      · rintro ⟨_, rfl, rfl, rfl⟩
        exact ⟨rfl, rfl⟩
      · rintro ⟨rfl, rfl⟩
        exact ⟨chars, rfl, rfl, rfl⟩

/-- The reading goes on behind a character that is read as itself. -/
theorem literal_of_evaluates_cons {c : Char} {chars after value rest : List Char}
    (known : isUnknown c = false) (apart : ¬ (isSign c = true ∧ ['{'].isPrefixOf chars = true))
    (part : part? (code (c :: chars) after) = some (.text [c] (code chars after)))
    (evaluates : Evaluates noMeaning (code (c :: chars) after) value rest)
    (later : ∀ {more}, Evaluates noMeaning (code chars after) more rest →
      more.length ≤ chars.length ∧ (more = chars → Literal chars)) :
    value.length ≤ (c :: chars).length ∧ (value = c :: chars → Literal (c :: chars)) := by
  obtain ⟨more, rfl, evaluated⟩ := (evaluates_text_iff part).1 evaluates
  obtain ⟨shorter, literal⟩ := later evaluated
  refine ⟨Nat.succ_le_succ shorter, fun same => ?_⟩
  exact literal_cons_iff.2 ⟨known, apart, literal (List.cons.inj same).2⟩

/-- Such a reader gets no more characters than a text has, and the text itself only if it stands
for itself: of two signs before a brace one is lost. -/
theorem literal_of_evaluates_code {chars after value rest : List Char}
    (evaluates : Evaluates noMeaning (code chars after) value rest) :
    value.length ≤ chars.length ∧ (value = chars → Literal chars) := by
  match chars with
  | [] =>
      have ended : part? (code [] after) = some (.closing after) := rfl
      obtain ⟨rfl, -⟩ := (evaluates_closing_iff ended).1 evaluates
      exact ⟨Nat.le_refl _, fun _ => literal_nil⟩
  | c :: chars =>
      cases known : isUnknown c with
      | true => exact absurd evaluates (not_evaluates (part?_code_of_unknown known chars after))
      | false =>
          cases sign : isSign c with
          | false =>
              refine literal_of_evaluates_cons known (fun both => ?_)
                (part?_code_of_known known sign chars after) evaluates literal_of_evaluates_code
              rw [sign] at both
              cases both.1
          | true =>
              have part := part?_code_of_sign sign chars after
              split_ifs at part with begins doubled
              · exact absurd evaluates (not_evaluates_opening part)
              · obtain ⟨more, rfl, evaluated⟩ := (evaluates_text_iff part).1 evaluates
                have shorter := (literal_of_evaluates_code evaluated).1
                have enough := (List.isPrefixOf_iff_prefix.1 doubled).length_le
                simp only [List.length_drop, List.length_cons, List.length_nil] at shorter enough
                have short : ([c, '{'] ++ more).length < (c :: chars).length := by
                  simp only [List.length_append, List.length_cons, List.length_nil]
                  omega
                exact ⟨Nat.le_of_lt short, fun same => absurd (congrArg List.length same)
                  (Nat.ne_of_lt short)⟩
              · exact literal_of_evaluates_cons known (fun both => begins both.2) part evaluates
                  literal_of_evaluates_code
  termination_by chars.length

/-! ## Quoted texts -/

theorem toList_quoted (text : String) : (quoted text).toList = '"' :: code text.toList [] := by
  rw [quoted, String.toList_ofList, quotedChars, code]

theorem stands_quoted_iff {meaning : Meaning} {text value : String} :
    Stands meaning (quoted text) value ↔
      Evaluates meaning (code text.toList []) value.toList [] := by
  rw [Stands, toList_quoted]
  constructor
  · rintro ⟨_, same, evaluates⟩
    rwa [(List.cons.inj same).2]
  · exact fun evaluates => ⟨_, rfl, evaluates⟩

/-- **A quoted text is read as the text, and as nothing else, exactly when it stands for itself.**
Whatever expressions stand for, the template that quoting writes evaluates to the text that was
quoted if this has no sign before a brace and no character that templates cannot read; for any other
text there is a reader for whom it does not. -/
theorem quoted_evaluates_iff (text : String) :
    (∀ meaning value, Stands meaning (quoted text) value ↔ value = text) ↔
      Literal text.toList := by
  constructor
  · intro reads
    exact (literal_of_evaluates_code (stands_quoted_iff.1 ((reads noMeaning text).2 rfl))).2 rfl
  · intro literal meaning value
    rw [stands_quoted_iff, evaluates_code literal, and_iff_left rfl]
    exact String.toList_inj

/-- A text with an expression has no value when expressions have none.  Two signs before a brace
become one, and a backspace is not read at all, whatever expressions stand for. -/
theorem quoted_evaluates_otherwise :
    (¬ ∃ value, Stands noMeaning (quoted "$\x7bx\x7d") value) ∧
      (∀ meaning value, Stands meaning (quoted "$$\x7bx\x7d") value ↔ value = "$\x7bx\x7d") ∧
      ¬ ∃ meaning value, Stands meaning (quoted "\x08") value := by
  refine ⟨?_, fun meaning value => ?_, ?_⟩
  · rintro ⟨value, stands⟩
    exact not_evaluates_opening rfl (stands_quoted_iff.1 stands)
  · have part : part? (code ['$', '$', '{', 'x', '}'] []) =
        some (.text ['$', '{'] (code ['x', '}'] [])) := rfl
    have literal : Literal ['x', '}'] :=
      literal_cons_iff.2 ⟨rfl, by decide, literal_cons_iff.2 ⟨rfl, by decide, literal_nil⟩⟩
    have chars : "$$\x7bx\x7d".toList = ['$', '$', '{', 'x', '}'] := rfl
    rw [stands_quoted_iff, chars, evaluates_text_iff part]
    simp only [evaluates_code literal, and_true, exists_eq_right]
    show value.toList = "$\x7bx\x7d".toList ↔ _
    exact String.toList_inj
  · rintro ⟨meaning, value, stands⟩
    exact not_evaluates rfl (stands_quoted_iff.1 stands)

end DashboardExport.Hcl.Template
