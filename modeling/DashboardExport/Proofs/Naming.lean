import DashboardExport.Naming
import Mathlib.Data.Finset.Card
import Mathlib.Data.List.Nodup
import Mathlib.Order.Bounds.Defs

/-!
# Numbered and fresh names

A numbered name ends in an underscore and a decimal number.  No decimal digit is an
underscore, so the last underscore of the name separates the two parts, and both can
be read back from the name (`numbered_eq_numbered_iff`).

A fresh name is none of the names taken (`fresh_not_mem`).  When the name itself is
taken, the search looks at its numbered forms; these are all different, and different
from the name, so after as many numbers as there are names one of them is free
(`exists_least_free`).

A search that just goes on until a number is free has no bound of its own.  It ends all the
same, at the number of the fresh name and at no other (`fresh_searched`).
-/

set_option autoImplicit false

namespace DashboardExport.Naming

/-- The characters of two texts that an underscore joins. -/
theorem toList_joined (front back : String) :
    (front ++ "_" ++ back).toList = front.toList ++ '_' :: back.toList := by
  rw [String.toList_append, String.toList_append, List.append_assoc]
  rfl

/-! ## Numbered names -/

/-- The characters of a numbered name. -/
theorem toList_numbered (base : String) (n : Nat) :
    (numbered base n).toList = base.toList ++ '_' :: Nat.toDigits 10 n := by
  rw [numbered, toList_joined, Nat.toString_eq_ofList_toDigits, String.toList_ofList]

/-- Texts that follow a last separator are determined by the whole, and so is what comes
before. -/
theorem append_cons_inj_of_not_mem {α : Type} {separator : α} {left left' right right' : List α}
    (absent : separator ∉ right) (absent' : separator ∉ right')
    (same : left ++ separator :: right = left' ++ separator :: right') :
    left = left' ∧ right = right' := by
  rcases List.append_eq_append_iff.1 same with ⟨gap, rfl, meets⟩ | ⟨gap, rfl, meets⟩
  · cases gap with
    | nil =>
        injection meets with _ rights
        exact ⟨(List.append_nil left).symm, rights⟩
    | cons head rest =>
        injection meets with _ rights
        exact absurd (by rw [rights]; simp) absent
  · cases gap with
    | nil =>
        injection meets with _ rights
        exact ⟨List.append_nil left', rights.symm⟩
    | cons head rest =>
        injection meets with _ rights
        exact absurd (by rw [rights]; simp) absent'

/-- **Name and number can be read back from a numbered name.** -/
theorem numbered_eq_numbered_iff {base base' : String} {n n' : Nat} :
    numbered base n = numbered base' n' ↔ base = base' ∧ n = n' := by
  constructor
  · intro same
    have lists := congrArg String.toList same
    rw [toList_numbered, toList_numbered] at lists
    obtain ⟨bases, digits⟩ := append_cons_inj_of_not_mem Nat.underscore_not_in_toDigits
      Nat.underscore_not_in_toDigits lists
    refine ⟨String.toList_inj.1 bases, ?_⟩
    rw [← Nat.ofDigitChars_ten_toDigits (n := n), digits, Nat.ofDigitChars_ten_toDigits]
  · rintro ⟨rfl, rfl⟩
    rfl

/-! ## Names joined by an underscore -/

/-- A text that is written in front of others can be told apart from them. -/
theorem joined_injective (front : String) :
    Function.Injective fun back => front ++ "_" ++ back := by
  intro back back' same
  exact (String.append_right_inj (front ++ "_")).1 same

/-- A text that goes on from another one is different from it. -/
theorem ne_joined (front back : String) : front ≠ front ++ "_" ++ back := by
  intro same
  have lengths := congrArg (fun name => name.toList.length) same
  simp only [toList_joined, List.length_append, List.length_cons] at lengths
  omega

/-- A name is none of its numbered forms. -/
theorem ne_numbered (base : String) (n : Nat) : base ≠ numbered base n :=
  ne_joined base (toString n)

/-- **Two joined texts meet only where the front of one goes on from the front of the other.** -/
theorem joined_eq_joined {front front' back back' : String}
    (same : front ++ "_" ++ back = front' ++ "_" ++ back') (differ : front ≠ front') :
    (∃ middle, front' = front ++ "_" ++ middle ∧ back = middle ++ "_" ++ back') ∨
      ∃ middle, front = front' ++ "_" ++ middle ∧ back' = middle ++ "_" ++ back := by
  have goesOn : ∀ {front front' back back' : String} {gap : List Char}, front ≠ front' →
      front'.toList = front.toList ++ gap → '_' :: back.toList = gap ++ '_' :: back'.toList →
      ∃ middle, front' = front ++ "_" ++ middle ∧ back = middle ++ "_" ++ back' := by
    intro front front' back back' gap differ fronts backs
    cases gap with
    | nil => exact absurd (String.toList_inj.1 (by rw [fronts, List.append_nil])) differ
    | cons head middle =>
        injection backs with head_eq backs
        subst head_eq
        refine ⟨String.ofList middle, String.toList_inj.1 ?_, String.toList_inj.1 ?_⟩
        · rw [toList_joined, String.toList_ofList, fronts]
        · rw [toList_joined, String.toList_ofList, backs]
          rfl
  have lists := congrArg String.toList same
  rw [toList_joined, toList_joined] at lists
  rcases List.append_eq_append_iff.1 lists with ⟨gap, fronts, backs⟩ | ⟨gap, fronts, backs⟩
  · exact .inl (goesOn differ fronts backs)
  · exact .inr (goesOn differ.symm fronts backs)

/-! ## Fresh names -/

/-- Where the search ends: every earlier number was taken, and the last one is free unless the
search gave up. -/
theorem firstFree_eq_numbered (base : String) (taken : List String) (fuel start : Nat) :
    ∃ n, firstFree base taken fuel start = numbered base n ∧ start ≤ n ∧
      (∀ earlier, start ≤ earlier → earlier < n → numbered base earlier ∈ taken) ∧
      (n < start + fuel → numbered base n ∉ taken) := by
  induction fuel generalizing start with
  | zero => exact ⟨start, rfl, Nat.le_refl start, fun _ _ _ => by omega, fun _ => by omega⟩
  | succ fuel ih =>
      by_cases used : numbered base start ∈ taken
      · obtain ⟨n, found, le, earlierTaken, free⟩ := ih (start + 1)
        refine ⟨n, ?_, by omega, ?_, fun _ => free (by omega)⟩
        · simp only [firstFree, List.contains_eq_mem, used, decide_true, if_true, found]
        · intro earlier from_ before
          rcases Nat.eq_or_lt_of_le from_ with rfl | later
          · exact used
          · exact earlierTaken earlier later before
      · refine ⟨start, ?_, Nat.le_refl start, fun _ _ _ => by omega, fun _ => used⟩
        simp only [firstFree, List.contains_eq_mem, used, decide_false, Bool.false_eq_true,
          if_false]

/-- If a name and its first numbered forms are all taken, there are more names than these
numbers. -/
theorem lt_card_of_numbered_mem {base : String} {taken : List String} {n : Nat}
    (used : base ∈ taken)
    (numberedUsed : ∀ k, 1 ≤ k → k < n + 1 → numbered base k ∈ taken) :
    n < taken.toFinset.card := by
  let forms := base :: (List.range n).map fun k => numbered base (k + 1)
  have distinct : forms.Nodup := by
    refine List.nodup_cons.2 ⟨?_, List.nodup_range.map_on ?_⟩
    · intro member
      obtain ⟨k, _, same⟩ := List.mem_map.1 member
      exact ne_numbered base (k + 1) same.symm
    · intro k _ k' _ same
      have := (numbered_eq_numbered_iff.1 same).2
      omega
  have within : forms.toFinset ⊆ taken.toFinset := by
    intro name member
    rw [List.mem_toFinset] at member ⊢
    rcases List.mem_cons.1 member with rfl | member
    · exact used
    · obtain ⟨k, inRange, rfl⟩ := List.mem_map.1 member
      have below := List.mem_range.1 inRange
      exact numberedUsed (k + 1) (by omega) (by omega)
  have counted := Finset.card_le_card within
  rw [List.toFinset_card_of_nodup distinct, List.length_cons, List.length_map,
    List.length_range] at counted
  exact counted

/-- **The least free number.**  When a name is taken, its fresh form has the least number from one
on that is free, and that number is at most the number of different names taken. -/
theorem exists_least_free {base : String} {taken : List String} (used : base ∈ taken) :
    ∃ n, fresh base taken = numbered base n ∧ 1 ≤ n ∧ n ≤ taken.toFinset.card ∧
      numbered base n ∉ taken ∧ ∀ k, 1 ≤ k → k < n → numbered base k ∈ taken := by
  obtain ⟨n, found, from_, earlierTaken, free⟩ := firstFree_eq_numbered base taken taken.length 1
  have bound : n - 1 < taken.toFinset.card :=
    lt_card_of_numbered_mem used fun k from_ before => earlierTaken k from_ (by omega)
  have size := List.toFinset_card_le taken
  refine ⟨n, ?_, from_, by omega, free (by omega), earlierTaken⟩
  simp only [fresh, List.contains_eq_mem, used, decide_true, if_true, found]

/-- **A fresh name is not taken.** -/
theorem fresh_not_mem (base : String) (taken : List String) : fresh base taken ∉ taken := by
  by_cases used : base ∈ taken
  · obtain ⟨n, found, _, _, free, _⟩ := exists_least_free used
    rw [found]
    exact free
  · simp only [fresh, List.contains_eq_mem, used, decide_false, Bool.false_eq_true, if_false,
      not_false_eq_true]

/-! ## The search -/

/-- A search for a free number, from a number on: while the name with the number is taken it goes on
with the next, and it ends at the first number that is free. -/
inductive Search (base : String) (taken : List String) : Nat → Nat → Prop where
  | found {n : Nat} (free : numbered base n ∉ taken) : Search base taken n n
  | next {n last : Nat} (used : numbered base n ∈ taken) (later : Search base taken (n + 1) last) :
      Search base taken n last

/-- **A search ends where all earlier numbers are taken and the last one is free.** -/
theorem search_iff {base : String} {taken : List String} {start last : Nat} :
    Search base taken start last ↔ start ≤ last ∧ numbered base last ∉ taken ∧
      ∀ k, start ≤ k → k < last → numbered base k ∈ taken := by
  constructor
  · intro search
    induction search with
    | found free => exact ⟨Nat.le_refl _, free, fun _ _ _ => by omega⟩
    | @next n last used _ ih =>
        obtain ⟨le, free, earlier⟩ := ih
        refine ⟨by omega, free, fun k from_ before => ?_⟩
        rcases Nat.eq_or_lt_of_le from_ with rfl | above
        · exact used
        · exact earlier k above before
  · rintro ⟨le, free, earlier⟩
    induction le using Nat.decreasingInduction with
    | self => exact .found free
    | of_succ n below ih =>
        refine .next (earlier n (Nat.le_refl n) below) (ih fun k from_ before => ?_)
        exact earlier k (Nat.le_of_succ_le from_) before

/-- **The fresh form of a name is the name itself if that is free, and else the name with the least
number that makes it free.**  The search for this number ends, at no number but this one, and it
looks at no more numbers than there are different names taken. -/
theorem fresh_searched (base : String) (taken : List String) :
    fresh base taken ∉ taken ∧
      (base ∉ taken ∧ fresh base taken = base ∨
        base ∈ taken ∧ ∃ n, (∀ last, Search base taken 1 last ↔ last = n) ∧
          fresh base taken = numbered base n ∧
          IsLeast {k | 1 ≤ k ∧ numbered base k ∉ taken} n ∧ n ≤ taken.toFinset.card) := by
  refine ⟨fresh_not_mem base taken, ?_⟩
  by_cases used : base ∈ taken
  · obtain ⟨n, found, from_, bound, free, earlier⟩ := exists_least_free used
    refine .inr ⟨used, n, fun last => ?_, found, ⟨⟨from_, free⟩, fun k candidate => ?_⟩, bound⟩
    · rw [search_iff]
      constructor
      · rintro ⟨start, freeLast, earlierLast⟩
        rcases Nat.lt_trichotomy last n with below | same | above
        · exact absurd (earlier last start below) freeLast
        · exact same
        · exact absurd (earlierLast n from_ above) free
      · rintro rfl
        exact ⟨from_, free, earlier⟩
    · by_contra below
      exact candidate.2 (earlier k candidate.1 (Nat.lt_of_not_le below))
  · exact .inl ⟨used, if_neg (by simpa using used)⟩

end DashboardExport.Naming
