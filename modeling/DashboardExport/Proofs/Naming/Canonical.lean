import DashboardExport.Proofs.Inventory.Tokens
import DashboardExport.Text.Lowercase

/-!
# Canonical names

A display name becomes a token in three passes: parentheses are left out, what is no ASCII
letter, digit or underscore becomes an underscore, and the rest is lowered by the rules of
Unicode (`lowered`).  In general these rules may lengthen a text, and they look at what stands
around a character.  Behind the first two passes only ASCII is left, so the three of them come
down to what each character contributes on its own (`canonical_eq_lowered`), and the token has
the properties of such a map (`canonical_characterwise`).
-/

set_option autoImplicit false

namespace DashboardExport.Naming

/-! ## Three passes -/

def isParenthesis (c : Char) : Bool := c == '(' || c == ')'

/-- A character as it is in a word, or an underscore in its place. -/
def masked (c : Char) : Char := if c.isAlphanum || c == '_' then c else '_'

/-- A display name without its parentheses, masked and then lowered. -/
def lowered (name : String) : String :=
  Text.lower (String.ofList ((name.toList.filter fun c => !isParenthesis c).map masked))

theorem tokenOf_of_isParenthesis {c : Char} (parenthesis : isParenthesis c = true) :
    tokenOf c = [] := if_pos parenthesis

theorem tokenOf_of_not_isParenthesis {c : Char} (other : isParenthesis c = false) :
    tokenOf c = [(masked c).toLower] := by
  rw [tokenOf, if_neg (by rw [← isParenthesis, other]; exact Bool.false_ne_true), masked]
  split_ifs
  · rfl
  · rfl

/-- A letter, a digit or an underscore of ASCII. -/
theorem ascii_masked (c : Char) : (masked c).toNat < 128 := by
  rw [masked]
  split_ifs with plain
  · rcases Bool.or_eq_true_iff.1 plain with alphanumeric | underscore
    · exact Text.ascii_of_isAlphanum alphanumeric
    · rw [beq_iff_eq.1 underscore]
      decide
  · decide

theorem canonicalChars_eq (chars : List Char) :
    canonicalChars chars =
      ((chars.filter fun c => !isParenthesis c).map masked).map Char.toLower := by
  induction chars with
  | nil => rfl
  | cons c chars ih =>
      rw [canonicalChars, List.flatMap_cons, ← canonicalChars, ih, List.filter_cons]
      cases parenthesis : isParenthesis c with
      | true => rw [tokenOf_of_isParenthesis parenthesis]; rfl
      | false => rw [tokenOf_of_not_isParenthesis parenthesis]; rfl

/-- **The three passes come down to what each character contributes.** -/
theorem canonical_eq_lowered (name : String) : canonical name = lowered name := by
  rw [lowered, Text.lower_of_ascii, String.toList_ofList, canonical, canonicalChars_eq]
  intro c member
  rw [String.toList_ofList] at member
  obtain ⟨d, _, rfl⟩ := List.mem_map.1 member
  exact ascii_masked d

/-- Every character but the parentheses makes one character of the token. -/
theorem length_canonicalChars (chars : List Char) :
    (canonicalChars chars).length + chars.countP isParenthesis = chars.length := by
  rw [canonicalChars_eq, List.length_map, List.length_map, ← List.countP_eq_length_filter,
    Nat.add_comm, List.length_eq_countP_add_countP isParenthesis]
  simp only [Bool.not_eq_true, Bool.decide_eq_false]

/-! ## Tokens -/

theorem isTokenChar_iff {c : Char} :
    isTokenChar c = true ↔ 'a' ≤ c ∧ c ≤ 'z' ∨ '0' ≤ c ∧ c ≤ '9' ∨ c = '_' := by
  have lower : c.isLower = true ↔ 'a' ≤ c ∧ c ≤ 'z' :=
    Bool.and_eq_true_iff.trans (and_congr decide_eq_true_iff decide_eq_true_iff)
  have digit : c.isDigit = true ↔ '0' ≤ c ∧ c ≤ '9' :=
    Bool.and_eq_true_iff.trans (and_congr decide_eq_true_iff decide_eq_true_iff)
  rw [isTokenChar, Bool.or_eq_true, Bool.or_eq_true, lower, digit, beq_iff_eq, or_assoc]

/-- A character of tokens stands for itself. -/
theorem tokenOf_of_isTokenChar {c : Char} (inToken : isTokenChar c = true) : tokenOf c = [c] :=
  Text.forall_ascii (fun d => isTokenChar d = true → tokenOf d = [d]) (by decide)
    (ascii_of_isTokenChar inToken) inToken

/-- **A token is its own token.** -/
theorem canonical_of_isToken {name : String} (token : IsToken name) : canonical name = name := by
  have same : canonicalChars name.toList = name.toList := by
    rw [canonicalChars, List.flatMap_congr fun c member => tokenOf_of_isTokenChar (token c member),
      List.flatMap_singleton']
  rw [canonical, same, String.ofList_toList]

/-- **The token of a name is made character by character**, though it is made in three passes.  So
the token of a joined name is the joined token.  It consists of small letters, digits and
underscores, it is shorter than the name by the number of parentheses, and it is its own token. -/
theorem canonical_characterwise (left right : String) :
    canonical left = lowered left ∧
      canonical (left ++ right) = canonical left ++ canonical right ∧
      (∀ c ∈ (canonical left).toList, 'a' ≤ c ∧ c ≤ 'z' ∨ '0' ≤ c ∧ c ≤ '9' ∨ c = '_') ∧
      (canonical left).length + left.toList.countP isParenthesis = left.length ∧
      canonical (canonical left) = canonical left := by
  refine ⟨canonical_eq_lowered left, ?_, fun c member => ?_, ?_, ?_⟩
  · rw [canonical, String.toList_append, canonicalChars_append, String.ofList_append]
    rfl
  · exact isTokenChar_iff.1 (isToken_canonical left c member)
  · rw [← String.length_toList, ← String.length_toList, canonical, String.toList_ofList]
    exact length_canonicalChars left.toList
  · exact canonical_of_isToken (isToken_canonical left)

/-- The order of the passes matters: lowering turns a dotted capital I into two characters. -/
example : canonical "\u0130" = "_" ∧ canonical (Text.lower "\u0130") = "i_" := by decide +kernel

end DashboardExport.Naming
