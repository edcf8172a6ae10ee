import DashboardExport.Text.Punycode
import Mathlib.Data.List.Basic

/-!
# The characters of Punycode

What Punycode writes is made of the ASCII characters of the text, hyphens and digits
(`mem_encode`), and a text that can be read is made of the same: its digits are those of
the insertions, and the characters before them are still there afterwards (`mem_decode?`).
-/

set_option autoImplicit false

namespace DashboardExport.Text.Punycode

/-- Whether a character is a digit of a number. -/
def isNumberDigit (c : Char) : Bool := (digitValue? c).isSome

/-! ## Writing -/

theorem isNumberDigit_digitChar {value : Nat} (small : value < 36) :
    isNumberDigit (digitChar value) = true := by
  have all : ∀ value < 36, isNumberDigit (digitChar value) = true := by decide
  exact all value small

theorem threshold_le (bias weight : Nat) : threshold bias weight ≤ 26 := by
  unfold threshold
  split
  · decide
  · split <;> omega

theorem isNumberDigit_of_mem_writeNumber {bias weight number : Nat} {c : Char}
    (member : c ∈ writeNumber bias weight number) : isNumberDigit c = true := by
  fun_induction writeNumber bias weight number with
  | case1 weight number least small =>
      rw [List.mem_singleton.1 member]
      have bound : least ≤ 26 := threshold_le bias weight
      exact isNumberDigit_digitChar (by omega)
  | case2 weight number least large ih =>
      rcases List.mem_cons.1 member with rfl | member
      · have bound : least ≤ 26 := threshold_le bias weight
        have below : (number - least) % (36 - least) < 36 - least := Nat.mod_lt _ (by omega)
        exact isNumberDigit_digitChar (by omega)
      · exact ih member

theorem isNumberDigit_of_mem_writeInsertions {cursor : Cursor} {insertions : List (Nat × Nat)}
    {c : Char} (member : c ∈ writeInsertions cursor insertions) : isNumberDigit c = true := by
  induction insertions generalizing cursor with
  | nil => cases member
  | cons insertion rest ih =>
      rcases List.mem_append.1 member with member | member
      · exact isNumberDigit_of_mem_writeNumber member
      · exact ih member

/-- **What Punycode writes**: characters of the text, hyphens and digits. -/
theorem mem_encode {chars : List Char} {c : Char} (member : c ∈ encode chars) :
    (c ∈ chars ∧ isBasic c = true) ∨ c = '-' ∨ isNumberDigit c = true := by
  rcases List.mem_append.1 member with member | member
  · split at member
    · cases member
    · rcases List.mem_append.1 member with member | member
      · exact .inl (List.mem_filter.1 member)
      · exact .inr (.inl (List.mem_singleton.1 member))
  · exact .inr (.inr (isNumberDigit_of_mem_writeInsertions member))

/-! ## Reading -/

theorem exists_of_readNumber? {bias weight factor : Nat} {chars rest : List Char} {number : Nat}
    (read : readNumber? bias weight factor chars = some (number, rest)) :
    ∃ written, chars = written ++ rest ∧ ∀ c ∈ written, isNumberDigit c = true := by
  induction chars generalizing weight factor number with
  | nil => cases read
  | cons c chars ih =>
      simp only [readNumber?, Option.bind_eq_bind] at read
      obtain ⟨value, isValue, read⟩ := Option.bind_eq_some_iff.1 read
      have digit : isNumberDigit c = true := by rw [isNumberDigit, isValue]; rfl
      split at read
      · cases read
        exact ⟨[c], rfl, by simpa using digit⟩
      · obtain ⟨⟨more, after⟩, readMore, read⟩ := Option.bind_eq_some_iff.1 read
        cases read
        obtain ⟨written, rfl, each⟩ := ih readMore
        exact ⟨c :: written, rfl, List.forall_mem_cons.2 ⟨digit, each⟩⟩

/-- Insertions are written in digits, and they take nothing away. -/
theorem of_readInsertions? {cursor : Cursor} {present chars result : List Char}
    (read : readInsertions? cursor present chars = some result) :
    (∀ c ∈ chars, isNumberDigit c = true) ∧ ∀ c ∈ present, c ∈ result := by
  fun_induction readInsertions? cursor present chars with
  | case1 cursor present =>
      cases read
      exact ⟨by simp, fun _ member => member⟩
  | case2 => cases read
  | case3 cursor present c rest distance further found code place reached valid ih =>
      obtain ⟨written, same, each⟩ := exists_of_readNumber? found
      obtain ⟨digits, kept⟩ := ih read
      constructor
      · rw [same]
        exact List.forall_mem_append.2 ⟨each, digits⟩
      · intro d member
        refine kept d ?_
        rw [← List.take_append_drop place present, List.mem_append] at member
        exact List.mem_append.2 (member.imp_right (List.mem_cons_of_mem _))
  | case4 => cases read

/-- **What Punycode reads**: characters of the result, hyphens and digits. -/
theorem mem_decode? {chars result : List Char} (read : decode? chars = some result) {c : Char}
    (member : c ∈ chars) : c ∈ result ∨ c = '-' ∨ isNumberDigit c = true := by
  obtain ⟨digits, kept⟩ := of_readInsertions? read
  rw [← List.mem_reverse, ← List.takeWhile_append_dropWhile (p := (· != '-')) (l := chars.reverse),
    List.mem_append] at member
  rcases member with member | member
  · exact .inr (.inr (digits c (List.mem_reverse.2 member)))
  · cases here : chars.reverse.dropWhile (· != '-') with
    | nil => rw [here] at member; cases member
    | cons d rest =>
        rw [here] at member
        rcases List.mem_cons.1 member with rfl | member
        · have ends := List.head?_dropWhile_not (· != '-') chars.reverse
          simp only [here, List.head?_cons, bne_eq_false_iff_eq] at ends
          exact .inr (.inl ends)
        · refine .inl (kept c (List.mem_reverse.2 ?_))
          rw [here]
          exact member

end DashboardExport.Text.Punycode
