import DashboardExport.Text.Blank

/-!
# Splitting at a class of characters

A split never comes out empty.  It is taken apart at a cut (`splitAtEvery_append_cut`),
and what has no cut is put before the first part (`splitAtEvery_append_of_uncut`).  Where
the class is a single character, the parts with that character between them are the whole
again, so nothing is lost in a split (`splitAtEvery_injective`), and parts without a cut are
what a split of them gives (`splitAtEvery_intercalate`).
-/

set_option autoImplicit false

namespace DashboardExport.Text

variable {cut : Char → Bool}

/-- No character of the class. -/
def Uncut (cut : Char → Bool) (chars : List Char) : Prop := ∀ c ∈ chars, cut c = false

instance (cut : Char → Bool) (chars : List Char) : Decidable (Uncut cut chars) :=
  List.decidableBAll (fun c : Char => cut c = false) chars

theorem uncut_append {left right : List Char} :
    Uncut cut (left ++ right) ↔ Uncut cut left ∧ Uncut cut right := List.forall_mem_append

theorem exists_splitAtEvery (cut : Char → Bool) (chars : List Char) :
    ∃ part parts, splitAtEvery cut chars = part :: parts := by
  cases chars with
  | nil => exact ⟨[], [], rfl⟩
  | cons c rest =>
      rw [splitAtEvery]
      split
      · exact ⟨[c], [], rfl⟩
      · next part parts _ =>
          split
          · exact ⟨[], part :: parts, rfl⟩
          · exact ⟨c :: part, parts, rfl⟩

theorem splitAtEvery_cut {c : Char} (cuts : cut c = true) (rest : List Char) :
    splitAtEvery cut (c :: rest) = [] :: splitAtEvery cut rest := by
  obtain ⟨part, parts, same⟩ := exists_splitAtEvery cut rest
  rw [splitAtEvery, same]
  exact if_pos cuts

theorem splitAtEvery_uncut {c : Char} (joins : cut c = false) {rest part : List Char}
    {parts : List (List Char)} (same : splitAtEvery cut rest = part :: parts) :
    splitAtEvery cut (c :: rest) = (c :: part) :: parts := by
  rw [splitAtEvery, same]
  exact if_neg (by rw [joins]; exact Bool.false_ne_true)

/-- **Characters without a cut belong to the first part of what follows.** -/
theorem splitAtEvery_append_of_uncut {left : List Char} (uncut : Uncut cut left)
    {right part : List Char} {parts : List (List Char)}
    (same : splitAtEvery cut right = part :: parts) :
    splitAtEvery cut (left ++ right) = (left ++ part) :: parts := by
  induction left with
  | nil => exact same
  | cons c left ih =>
      have later := ih fun d member => uncut d (List.mem_cons_of_mem c member)
      exact splitAtEvery_uncut (uncut c List.mem_cons_self) later

/-- What has no cut is a single part. -/
theorem splitAtEvery_of_uncut {chars : List Char} (uncut : Uncut cut chars) :
    splitAtEvery cut chars = [chars] := by
  have whole := splitAtEvery_append_of_uncut uncut (splitAtEvery.eq_1 cut)
  rw [List.append_nil] at whole
  exact whole

/-- **A split is taken apart at a cut.** -/
theorem splitAtEvery_append_cut {c : Char} (cuts : cut c = true) (left right : List Char) :
    splitAtEvery cut (left ++ c :: right) = splitAtEvery cut left ++ splitAtEvery cut right := by
  induction left with
  | nil => exact splitAtEvery_cut cuts right
  | cons d left ih =>
      cases here : cut d with
      | true =>
          rw [List.cons_append, splitAtEvery_cut here, ih, splitAtEvery_cut here, List.cons_append]
      | false =>
          obtain ⟨part, parts, same⟩ := exists_splitAtEvery cut left
          rw [same] at ih
          rw [List.cons_append, splitAtEvery_uncut here ih, splitAtEvery_uncut here same]
          rfl

/-- **Parts without a cut are found again** where a cut stands between them. -/
theorem splitAtEvery_intercalate {c : Char} (cuts : cut c = true) {parts : List (List Char)}
    (each : ∀ part ∈ parts, Uncut cut part) (something : parts ≠ []) :
    splitAtEvery cut (List.intercalate [c] parts) = parts := by
  induction parts with
  | nil => exact absurd rfl something
  | cons part rest ih =>
      obtain ⟨here, later⟩ := List.forall_mem_cons.1 each
      cases rest with
      | nil => rw [List.intercalate_singleton, splitAtEvery_of_uncut here]
      | cons next others =>
          rw [List.intercalate_cons_cons, List.append_assoc, List.singleton_append,
            splitAtEvery_append_cut cuts, splitAtEvery_of_uncut here,
            ih later (List.cons_ne_nil _ _), List.singleton_append]

/-- The parts between the occurrences of a character, joined by that character. -/
theorem intercalate_splitAtEvery {c : Char} (single : ∀ d, cut d = true ↔ d = c)
    (chars : List Char) : List.intercalate [c] (splitAtEvery cut chars) = chars := by
  induction chars with
  | nil => rfl
  | cons d rest ih =>
      obtain ⟨part, parts, same⟩ := exists_splitAtEvery cut rest
      cases here : cut d with
      | true =>
          rw [splitAtEvery_cut here, same, List.intercalate_cons_cons, ← same, ih,
            (single d).1 here]
          rfl
      | false =>
          rw [splitAtEvery_uncut here same]
          rw [same] at ih
          cases parts with
          | nil =>
              rw [List.intercalate_singleton] at ih ⊢
              rw [ih]
          | cons next parts =>
              rw [List.intercalate_cons_cons] at ih ⊢
              rw [List.cons_append, List.cons_append, ih]

/-- The parts of a split have no cut. -/
theorem uncut_of_mem_splitAtEvery {chars part : List Char}
    (member : part ∈ splitAtEvery cut chars) : Uncut cut part := by
  induction chars generalizing part with
  | nil =>
      rw [splitAtEvery, List.mem_singleton] at member
      simp [member, Uncut]
  | cons c rest ih =>
      obtain ⟨first, others, same⟩ := exists_splitAtEvery cut rest
      rw [same] at ih
      cases here : cut c with
      | true =>
          rw [splitAtEvery_cut here, same, List.mem_cons] at member
          rcases member with rfl | member
          · simp [Uncut]
          · exact ih member
      | false =>
          rw [splitAtEvery_uncut here same, List.mem_cons] at member
          rcases member with rfl | member
          · exact List.forall_mem_cons.2 ⟨here, ih List.mem_cons_self⟩
          · exact ih (List.mem_cons_of_mem first member)

theorem sublist_of_mem_splitAtEvery {chars part : List Char}
    (member : part ∈ splitAtEvery cut chars) : part.Sublist chars := by
  induction chars generalizing part with
  | nil =>
      rw [splitAtEvery, List.mem_singleton] at member
      subst member
      exact List.Sublist.slnil
  | cons c rest ih =>
      obtain ⟨first, others, same⟩ := exists_splitAtEvery cut rest
      rw [same] at ih
      cases here : cut c with
      | true =>
          rw [splitAtEvery_cut here, same, List.mem_cons] at member
          rcases member with rfl | member
          · exact List.nil_sublist _
          · exact (ih member).cons c
      | false =>
          rw [splitAtEvery_uncut here same, List.mem_cons] at member
          rcases member with rfl | member
          · exact (ih List.mem_cons_self).cons_cons c
          · exact (ih (List.mem_cons_of_mem first member)).cons c

theorem mem_intercalate {c d : Char} {parts : List (List Char)}
    (member : d ∈ List.intercalate [c] parts) : d = c ∨ ∃ part ∈ parts, d ∈ part := by
  induction parts with
  | nil => cases member
  | cons part rest ih =>
      cases rest with
      | nil =>
          rw [List.intercalate_singleton] at member
          exact .inr ⟨part, List.mem_cons_self, member⟩
      | cons next others =>
          rw [List.intercalate_cons_cons, List.append_assoc, List.mem_append] at member
          rcases member with here | later
          · exact .inr ⟨part, List.mem_cons_self, here⟩
          · rcases List.mem_cons.1 later with same | later
            · exact .inl same
            · obtain same | ⟨other, inside, there⟩ := ih later
              · exact .inl same
              · exact .inr ⟨other, List.mem_cons_of_mem part inside, there⟩

theorem intercalate_append (c : Char) {left right : List (List Char)} (leftSome : left ≠ [])
    (rightSome : right ≠ []) :
    List.intercalate [c] (left ++ right) =
      List.intercalate [c] left ++ c :: List.intercalate [c] right := by
  induction left with
  | nil => exact absurd rfl leftSome
  | cons part rest ih =>
      cases rest with
      | nil =>
          rw [List.singleton_append, List.intercalate_cons_of_ne_nil rightSome,
            List.intercalate_singleton, List.append_assoc, List.singleton_append]
      | cons next others =>
          rw [List.cons_append, List.cons_append, List.intercalate_cons_cons, ← List.cons_append,
            ih (List.cons_ne_nil _ _), List.intercalate_cons_cons, List.append_assoc,
            List.append_assoc, List.append_assoc]

/-- A change of characters that keeps the cuts is one of the parts. -/
theorem splitAtEvery_map {change : Char → Char} {chars : List Char}
    (kept : ∀ c ∈ chars, cut (change c) = cut c) :
    splitAtEvery cut (chars.map change) = (splitAtEvery cut chars).map (List.map change) := by
  induction chars with
  | nil => rfl
  | cons c rest ih =>
      obtain ⟨here, later⟩ := List.forall_mem_cons.1 kept
      obtain ⟨part, parts, same⟩ := exists_splitAtEvery cut rest
      have mapped := ih later
      rw [same, List.map_cons] at mapped
      rw [List.map_cons]
      cases cuts : cut c with
      | true =>
          rw [splitAtEvery_cut (by rw [here, cuts]), splitAtEvery_cut cuts, mapped, same]
          rfl
      | false =>
          rw [splitAtEvery_uncut (by rw [here, cuts]) mapped, splitAtEvery_uncut cuts same]
          rfl

/-- **Different lists have different parts** between the occurrences of a character. -/
theorem splitAtEvery_injective (c : Char) : Function.Injective (splitAtEvery (· == c)) := by
  have whole := intercalate_splitAtEvery fun d => beq_iff_eq (a := d) (b := c)
  intro left right same
  rw [← whole left, same, whole right]

end DashboardExport.Text
