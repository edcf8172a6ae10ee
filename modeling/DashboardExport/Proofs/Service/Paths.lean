import DashboardExport.Proofs.Service.Percent
import DashboardExport.Proofs.Text.Split
import DashboardExport.Service.Address
import Mathlib.Data.List.Induction

/-!
# Paths with their dots resolved

Resolving the dots of a path goes through its parts with a stack: a part is pushed, and dots
push nothing.  So what stands on the stack in the end was there before or is a part of the
path, and no dots are left in what comes out (`dotless_resolveDots`).

What follows a place without dots is kept when it has no dots itself
(`resolveDots_of_dotless`, `exists_resolveDots_append`).  Conversely, a path that goes on
below a place and comes out one part below it ends in that part
(`mem_of_resolveDots_eq`).
-/

set_option autoImplicit false

namespace DashboardExport.Service

open DashboardExport.Text Percent

/-! ## Dots -/

/-- Whether a part of a path is dots that stand for a place. -/
def isDots (part : List Char) : Bool := part == ['.'] || part == ['.', '.']

/-- The parts of a path. -/
abbrev pathParts (path : List Char) : List (List Char) := splitAtEvery (· == '/') path

/-- A path none of whose parts is dots. -/
def Dotless (path : List Char) : Prop := ∀ part ∈ pathParts path, isDots part = false

instance (path : List Char) : Decidable (Dotless path) :=
  List.decidableBAll (fun part => isDots part = false) (pathParts path)

theorem pathParts_slash (left right : List Char) :
    pathParts (left ++ '/' :: right) = pathParts left ++ pathParts right :=
  splitAtEvery_append_cut rfl left right

theorem intercalate_pathParts (path : List Char) : ['/'].intercalate (pathParts path) = path :=
  intercalate_splitAtEvery (fun _ => beq_iff_eq) path

/-- The parts of a path have no slash. -/
theorem slash_not_mem {path part : List Char} (member : part ∈ pathParts path) : '/' ∉ part :=
  fun slash => beq_eq_false_iff_ne.1 (uncut_of_mem_splitAtEvery member '/' slash) rfl

theorem pathParts_of_not_mem {path : List Char} (noSlash : '/' ∉ path) : pathParts path = [path] :=
  splitAtEvery_of_uncut fun _ member => beq_eq_false_iff_ne.2 fun same => noSlash (same ▸ member)

theorem dotless_slash {left right : List Char} :
    Dotless (left ++ '/' :: right) ↔ Dotless left ∧ Dotless right := by
  rw [Dotless, pathParts_slash, List.forall_mem_append]
  rfl

/-! ## The stack -/

theorem resolvePart_of_isDots_eq_false {part : List Char} (other : isDots part = false)
    (stack : List (List Char)) : resolvePart stack part = part :: stack := by
  obtain ⟨single, double⟩ := Bool.or_eq_false_iff.1 other
  rw [resolvePart, single, double]
  rfl

theorem foldl_resolvePart_of_dotless {parts : List (List Char)}
    (dotless : ∀ part ∈ parts, isDots part = false) (stack : List (List Char)) :
    parts.foldl resolvePart stack = parts.reverse ++ stack := by
  induction parts generalizing stack with
  | nil => rfl
  | cons part parts ih =>
      obtain ⟨here, later⟩ := List.forall_mem_cons.1 dotless
      rw [List.foldl_cons, resolvePart_of_isDots_eq_false here, ih later, List.reverse_cons,
        List.append_assoc, List.singleton_append]

/-- **What is on the stack** in the end was pushed on the way, above a part of what was there. -/
theorem exists_foldl_resolvePart (parts stack : List (List Char)) :
    ∃ pushed kept, parts.foldl resolvePart stack = pushed ++ kept ∧ kept <:+ stack ∧
      ∀ part ∈ pushed, part ∈ parts ∧ isDots part = false := by
  induction parts using List.reverseRecOn with
  | nil => exact ⟨[], stack, rfl, List.suffix_rfl, by simp⟩
  | append_singleton parts last ih =>
      obtain ⟨pushed, kept, same, below, each⟩ := ih
      have earlier : ∀ part ∈ pushed, part ∈ parts ++ [last] ∧ isDots part = false :=
        fun part member => ⟨List.mem_append_left _ (each part member).1, (each part member).2⟩
      rw [List.foldl_append, List.foldl_cons, List.foldl_nil, same]
      by_cases single : last == ['.']
      · exact ⟨pushed, kept, if_pos single, below, earlier⟩
      by_cases double : last == ['.', '.']
      · by_cases bottom : pushed ++ kept == [[]]
        · refine ⟨pushed, kept, ?_, below, earlier⟩
          rw [resolvePart, if_neg single, if_pos double, if_pos bottom]
        · rw [resolvePart, if_neg single, if_pos double, if_neg bottom]
          cases pushed with
          | nil => exact ⟨[], kept.drop 1, rfl, (List.drop_suffix 1 kept).trans below, by simp⟩
          | cons top pushed =>
              exact ⟨pushed, kept, rfl, below, (List.forall_mem_cons.1 earlier).2⟩
      · have other : isDots last = false := by
          simp only [isDots, Bool.eq_false_iff.2 single, Bool.eq_false_iff.2 double, Bool.or_self]
        refine ⟨last :: pushed, kept, resolvePart_of_isDots_eq_false other _, below, ?_⟩
        exact List.forall_mem_cons.2 ⟨⟨by simp, other⟩, earlier⟩

/-- A stack that begins with an empty part keeps it. -/
theorem exists_foldl_resolvePart_bottom (parts stack : List (List Char)) :
    ∃ above, parts.foldl resolvePart (stack ++ [[]]) = above ++ [[]] := by
  induction parts generalizing stack with
  | nil => exact ⟨stack, rfl⟩
  | cons part parts ih =>
      have next : ∃ above, resolvePart (stack ++ [[]]) part = above ++ [[]] := by
        unfold resolvePart
        split
        · exact ⟨stack, rfl⟩
        split
        · cases stack with
          | nil => exact ⟨[], rfl⟩
          | cons top stack =>
              refine ⟨stack, if_neg ?_⟩
              simp
        · exact ⟨part :: stack, rfl⟩
      obtain ⟨above, same⟩ := next
      rw [List.foldl_cons, same]
      exact ih above

/-! ## Resolving -/

theorem contains_dots_iff {parts : List (List Char)} :
    (parts.contains ['.'] || parts.contains ['.', '.']) = true ↔
      ∃ part ∈ parts, isDots part = true := by
  simp only [List.contains_iff_mem, Bool.or_eq_true, isDots, beq_iff_eq]
  constructor
  · rintro (member | member)
    · exact ⟨_, member, .inl rfl⟩
    · exact ⟨_, member, .inr rfl⟩
  · rintro ⟨_, member, rfl | rfl⟩
    · exact .inl member
    · exact .inr member

theorem resolveDots_of_dotless {path : List Char} (dotless : Dotless path) :
    resolveDots path = path := by
  refine if_neg fun found => ?_
  obtain ⟨part, member, dots⟩ := contains_dots_iff.1 found
  rw [dotless part member] at dots
  cases dots

/-- The stack gives the path in every case. -/
theorem resolveDots_eq (path : List Char) :
    resolveDots path = ['/'].intercalate ((pathParts path).foldl resolvePart []).reverse := by
  by_cases found :
      ((pathParts path).contains ['.'] || (pathParts path).contains ['.', '.']) = true
  · exact if_pos found
  · have dotless : Dotless path := fun part member => Bool.eq_false_iff.2 fun dots =>
      found (contains_dots_iff.2 ⟨part, member, dots⟩)
    rw [resolveDots_of_dotless dotless, foldl_resolvePart_of_dotless dotless, List.append_nil,
      List.reverse_reverse, intercalate_pathParts]

/-- Parts without a slash are the parts of the path that they make up. -/
theorem pathParts_intercalate {parts : List (List Char)} (each : ∀ part ∈ parts, '/' ∉ part)
    (something : parts ≠ []) : pathParts (['/'].intercalate parts) = parts :=
  splitAtEvery_intercalate rfl
    (fun part member _ inside => beq_eq_false_iff_ne.2 fun same =>
      each part member (same ▸ inside))
    something

/-- **No dots are left** in a path that is resolved. -/
theorem dotless_resolveDots (path : List Char) : Dotless (resolveDots path) := by
  obtain ⟨pushed, kept, same, below, each⟩ := exists_foldl_resolvePart (pathParts path) []
  obtain rfl := List.suffix_nil.1 below
  rw [resolveDots_eq, same, List.append_nil]
  cases pushed with
  | nil =>
      intro part member
      obtain rfl : part = [] := List.mem_singleton.1 member
      rfl
  | cons top pushed =>
      intro part member
      rw [pathParts_intercalate] at member
      · exact (each part (List.mem_reverse.1 member)).2
      · exact fun other member => slash_not_mem (each other (List.mem_reverse.1 member)).1
      · simp

/-- A path that is resolved has slashes and characters that were there before. -/
theorem mem_of_mem_resolveDots {path : List Char} {c : Char} (member : c ∈ resolveDots path) :
    c = '/' ∨ c ∈ path := by
  obtain ⟨pushed, kept, same, below, each⟩ := exists_foldl_resolvePart (pathParts path) []
  obtain rfl := List.suffix_nil.1 below
  rw [resolveDots_eq, same, List.append_nil] at member
  rcases mem_intercalate member with slash | ⟨part, inside, here⟩
  · exact .inl slash
  · have part_mem := (each part (List.mem_reverse.1 inside)).1
    exact .inr ((sublist_of_mem_splitAtEvery part_mem).subset here)

/-- **What follows without dots is kept**, below whatever the part before it comes to. -/
theorem exists_resolveDots_append {before after : List Char}
    (rooted : before = [] ∨ before.head? = some '/') (dotless : Dotless after) :
    ∃ place, resolveDots (before ++ '/' :: after) = place ++ '/' :: after ∧
      (place = [] ∨ place.head? = some '/') := by
  have empty : ∃ parts, pathParts before = [] :: parts := by
    rcases rooted with rfl | rooted
    · exact ⟨[], rfl⟩
    · obtain ⟨rest, rfl⟩ := List.head?_eq_some_iff.1 rooted
      exact ⟨pathParts rest, splitAtEvery_cut rfl rest⟩
  obtain ⟨parts, same⟩ := empty
  obtain ⟨above, bottom⟩ := exists_foldl_resolvePart_bottom parts []
  rw [List.nil_append] at bottom
  have first : resolvePart [] [] = [[]] := rfl
  have stack : (pathParts (before ++ '/' :: after)).foldl resolvePart [] =
      (pathParts after).reverse ++ (above ++ [[]]) := by
    rw [pathParts_slash, List.foldl_append, same, List.foldl_cons, first, bottom,
      foldl_resolvePart_of_dotless dotless]
  have something : pathParts after ≠ [] := by
    obtain ⟨part, others, here⟩ := exists_splitAtEvery (· == '/') after
    rw [pathParts, here]
    exact List.cons_ne_nil _ _
  refine ⟨['/'].intercalate (above ++ [[]]).reverse, ?_, ?_⟩
  · rw [resolveDots_eq, stack, List.reverse_append, List.reverse_reverse,
      intercalate_append '/' (by simp) something, intercalate_pathParts]
  · rw [List.reverse_append, List.reverse_singleton, List.singleton_append]
    cases above.reverse with
    | nil => exact .inl rfl
    | cons part others => exact .inr rfl

/-- **What comes out one part below a place** ends in a part of what was to follow there. -/
theorem mem_of_resolveDots_eq {place further segment : List Char} (dotless : Dotless place)
    (noSlash : '/' ∉ segment)
    (same : resolveDots (place ++ '/' :: further) = place ++ '/' :: segment) :
    segment ∈ pathParts further ∧ isDots segment = false := by
  obtain ⟨pushed, kept, stack, below, each⟩ :=
    exists_foldl_resolvePart (pathParts further) (pathParts place).reverse
  have resolved : ['/'].intercalate (pushed ++ kept).reverse = place ++ '/' :: segment := by
    rw [← same, resolveDots_eq, pathParts_slash, List.foldl_append,
      foldl_resolvePart_of_dotless dotless, List.append_nil, stack]
  have parts : (pushed ++ kept).reverse = pathParts place ++ [segment] := by
    rw [← pathParts_of_not_mem noSlash, ← pathParts_slash, ← resolved]
    refine (pathParts_intercalate ?_ ?_).symm
    · intro part member
      rcases List.mem_append.1 (List.mem_reverse.1 member) with member | member
      · exact slash_not_mem (each part member).1
      · exact slash_not_mem (List.mem_reverse.1 (below.subset member))
    · intro nothing
      rw [nothing, List.intercalate_nil] at resolved
      simp at resolved
  -- The stack is one higher than the place, so its top was pushed.
  have top : pushed ++ kept = segment :: (pathParts place).reverse := by
    rw [← List.reverse_reverse (pushed ++ kept), parts, List.reverse_append,
      List.reverse_singleton, List.singleton_append]
  cases pushed with
  | nil =>
      have higher := congrArg List.length top
      have lower := below.length_le
      simp only [List.nil_append, List.length_cons] at higher
      omega
  | cons first pushed =>
      obtain rfl : first = segment := (List.cons.inj top).1
      exact each first List.mem_cons_self

/-! ## Encoded paths -/

/-- What is written in a path is made of characters that stand for themselves there. -/
theorem inPath_of_mem_encode {chars : List Char} {c : Char} (member : c ∈ encode inPath chars) :
    inPath c = true := plain_of_mem_encode (plain_of_isEscapeChar (by decide)) member

/-- **Encoding keeps the parts of a path.** -/
theorem pathParts_encode (path : List Char) :
    pathParts (encode inPath path) = (pathParts path).map (encode inPath) := by
  induction path with
  | nil => rfl
  | cons c rest ih =>
      obtain ⟨part, parts, same⟩ := exists_splitAtEvery (· == '/') rest
      simp only [pathParts, same, List.map_cons] at ih
      by_cases slash : c = '/'
      · subst slash
        have kept : encodeChar inPath '/' = ['/'] := by decide
        rw [encode_cons, kept, List.singleton_append, pathParts, splitAtEvery_cut rfl, ih,
          pathParts, splitAtEvery_cut rfl, same]
        rfl
      · have uncut : Uncut (· == '/') (encodeChar inPath c) := by
          intro d member
          unfold encodeChar at member
          split at member
          · rw [List.mem_singleton.1 member]
            exact beq_eq_false_iff_ne.2 slash
          · obtain ⟨byte, -, here⟩ := List.mem_flatMap.1 member
            refine beq_eq_false_iff_ne.2 ?_
            rintro rfl
            exact absurd (isEscapeChar_of_mem_escape here) (by decide)
        have whole : pathParts (c :: rest) = (c :: part) :: parts :=
          splitAtEvery_uncut (by simpa using slash) same
        rw [encode_cons, pathParts, splitAtEvery_append_of_uncut uncut ih, whole, List.map_cons,
          encode_cons]

/-- What is written without a percent sign was there before. -/
theorem encode_of_percent_not_mem {chars : List Char} (none : '%' ∉ encode inPath chars) :
    encode inPath chars = chars := by
  refine encode_of_plain fun c member => ?_
  by_contra other
  obtain ⟨rest, same⟩ := exists_encodeChar_eq (Bool.eq_false_iff.2 other)
  exact none (List.mem_flatMap.2 ⟨c, member, same ▸ List.mem_cons_self⟩)

theorem isDots_encode (part : List Char) : isDots (encode inPath part) = isDots part := by
  rw [Bool.eq_iff_iff]
  constructor
  · intro dots
    rwa [encode_of_percent_not_mem] at dots
    intro percent
    rcases Bool.or_eq_true_iff.1 dots with same | same <;>
      rw [beq_iff_eq.1 same] at percent <;> simp at percent
  · intro dots
    rcases Bool.or_eq_true_iff.1 dots with same | same <;> rw [beq_iff_eq.1 same] <;> decide

theorem dotless_encode {path : List Char} : Dotless (encode inPath path) ↔ Dotless path := by
  simp only [Dotless, pathParts_encode, List.forall_mem_map, isDots_encode]

theorem slash_not_mem_encode {path : List Char} (noSlash : '/' ∉ path) :
    '/' ∉ encode inPath path := by
  have single : encode inPath path ∈ pathParts (encode inPath path) := by
    rw [pathParts_encode, pathParts_of_not_mem noSlash]
    exact List.mem_cons_self
  exact slash_not_mem single

end DashboardExport.Service
