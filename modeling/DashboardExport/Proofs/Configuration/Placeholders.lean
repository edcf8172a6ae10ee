import DashboardExport.Configuration.Placeholder
import Mathlib.Data.List.TakeWhile
import Mathlib.Logic.ExistsUnique

/-!
# Placeholders are filled in in one pass

The placeholders of a text are found from the left, each from behind the one before
(`Scanned`).  Every text is scanned in exactly one way, whatever opens and does not close in
it (`existsUnique_scanned`).

Expanding fills in the values of the variables and keeps all that stands between the
placeholders (`expand_scanned`).  The scan is one of the text as it is given, so a value that
looks like a placeholder, or makes one with what is around it, is not expanded again.
-/

set_option autoImplicit false

namespace DashboardExport.Configuration

/-! ## Placeholders -/

/-- What a placeholder names a variable by: one or more word characters. -/
def IsName (name : List Char) : Prop := name ≠ [] ∧ ∀ c ∈ name, Text.isWord c = true

/-- The placeholder of a name. -/
def written (name : List Char) : List Char := '$' :: '{' :: (name ++ ['}'])

/-- A text begins with the placeholder of a name, and this follows it. -/
def Begins (chars name after : List Char) : Prop := IsName name ∧ chars = written name ++ after

/-- No placeholder begins in the first characters of a text. -/
def NoneIn (count : Nat) (chars : List Char) : Prop :=
  ∀ place < count, ∀ name after, ¬ Begins (chars.drop place) name after

theorem written_append (name after : List Char) :
    written name ++ after = '$' :: '{' :: (name ++ '}' :: after) := by
  rw [written, List.cons_append, List.cons_append, List.append_assoc, List.singleton_append]

/-- **A placeholder is recognized where one begins.** -/
theorem placeholder?_eq_some_iff {chars name after : List Char} :
    placeholder? chars = some (name, after) ↔ Begins chars name after := by
  constructor
  · intro found
    unfold placeholder? at found
    split at found
    · next rest =>
        dsimp only at found
        split at found
        · next first more behind named closed =>
            obtain ⟨rfl, rfl⟩ := Prod.mk.inj (Option.some.inj found)
            have whole := List.takeWhile_append_dropWhile (p := Text.isWord) (l := rest)
            rw [closed] at whole
            refine ⟨⟨by rw [named]; exact List.cons_ne_nil _ _, ?_⟩, ?_⟩
            · exact fun c member => List.mem_takeWhile_imp member
            · rw [written_append, whole]
        · cases found
    · cases found
  · rintro ⟨⟨something, word⟩, rfl⟩
    have brace : Text.isWord '}' = false := by decide
    have named : (name ++ '}' :: after).takeWhile Text.isWord = name := by
      rw [List.takeWhile_append_of_pos word, List.takeWhile_cons_of_neg (by simp [brace]),
        List.append_nil]
    have closed : (name ++ '}' :: after).dropWhile Text.isWord = '}' :: after := by
      rw [List.dropWhile_append_of_pos word, List.dropWhile_cons_of_neg (by simp [brace])]
    obtain ⟨first, more, rfl⟩ := List.exists_cons_of_ne_nil something
    rw [written_append, placeholder?, closed]
    simp only [named]

theorem placeholder?_eq_none_iff {chars : List Char} :
    placeholder? chars = none ↔ ∀ name after, ¬ Begins chars name after := by
  simp only [← placeholder?_eq_some_iff, Option.eq_none_iff_forall_ne_some, Prod.forall, ne_eq]

/-- A text begins with at most one placeholder. -/
theorem Begins.unique {chars name after name' after' : List Char}
    (here : Begins chars name after) (there : Begins chars name' after') :
    name = name' ∧ after = after' := by
  have same := (placeholder?_eq_some_iff.2 here).symm.trans (placeholder?_eq_some_iff.2 there)
  exact Prod.mk.inj (Option.some.inj same)

/-! ## Scans -/

/-- A placeholder in a text, with the characters between it and the one before. -/
structure Found where
  before : List Char
  name : List Char

/-- **The placeholders of a text**, and the characters behind the last one.  None begins between a
placeholder and the one before, and the next is looked for behind it. -/
inductive Scanned : List Char → List Found → List Char → Prop where
  | finished {tail : List Char} (free : NoneIn tail.length tail) : Scanned tail [] tail
  | found {chars before name after tail : List Char} {later : List Found}
      (free : NoneIn before.length (before ++ chars)) (here : Begins chars name after)
      (scanned : Scanned after later tail) :
      Scanned (before ++ chars) (⟨before, name⟩ :: later) tail

/-- What has no placeholder is all behind the last one. -/
theorem Scanned.eq_tail {chars tail : List Char} (scanned : Scanned chars [] tail) :
    chars = tail := by
  cases scanned
  rfl

/-- Where none begins at the first character, the scan of the rest is one of the whole. -/
theorem Scanned.cons {c : Char} {rest tail : List Char} {found : List Found}
    (other : placeholder? (c :: rest) = none) (scanned : Scanned rest found tail) :
    ∃ found' tail', Scanned (c :: rest) found' tail' := by
  have further {count : Nat} {chars : List Char} (start : placeholder? (c :: chars) = none)
      (later : NoneIn count chars) : NoneIn (count + 1) (c :: chars) := by
    rintro (_ | place) inside
    · exact placeholder?_eq_none_iff.1 start
    · exact later place (Nat.lt_of_succ_lt_succ inside)
  cases scanned with
  | finished free => exact ⟨_, _, .finished (further other free)⟩
  | @found chars before _ _ _ _ free here scanned =>
      have longer : NoneIn (c :: before).length (c :: before ++ chars) := further other free
      exact ⟨_, _, .found longer here scanned⟩

theorem exists_scanned (chars : List Char) : ∃ found tail, Scanned chars found tail := by
  induction size : chars.length using Nat.strong_induction_on generalizing chars with
  | _ size ih =>
      subst size
      cases here : placeholder? chars with
      | some found =>
          obtain ⟨name, after⟩ := found
          obtain ⟨later, tail, scanned⟩ := ih _ (length_of_placeholder? here) after rfl
          have free : NoneIn ([] : List Char).length ([] ++ chars) := nofun
          exact ⟨_, _, .found free (placeholder?_eq_some_iff.1 here) scanned⟩
      | none =>
          cases chars with
          | nil => exact ⟨_, _, .finished nofun⟩
          | cons c rest =>
              obtain ⟨found, tail, scanned⟩ := ih rest.length (Nat.lt_succ_self _) rest rfl
              exact scanned.cons here

/-- The placeholder that begins behind these characters is not before those where none begins. -/
theorem NoneIn.le {count : Nat} {before chars name after : List Char}
    (free : NoneIn count (before ++ chars)) (here : Begins chars name after) :
    count ≤ before.length := by
  refine Nat.le_of_not_lt fun inside => free _ inside name after ?_
  rwa [List.drop_left]

/-- Something begins with a placeholder only if it is not empty. -/
theorem Begins.length_pos {chars name after : List Char} (here : Begins chars name after) :
    0 < chars.length := by
  rw [here.2, written_append]
  exact Nat.succ_pos _

/-- **A text is scanned in one way.** -/
theorem Scanned.unique {chars tail tail' : List Char} {found found' : List Found}
    (first : Scanned chars found tail) (second : Scanned chars found' tail') :
    found = found' ∧ tail = tail' := by
  induction first generalizing found' tail' with
  | @finished tail free =>
      generalize same : tail = whole at second
      cases second with
      | finished _ => exact ⟨rfl, rfl⟩
      | @found chars before _ _ _ _ _ here _ =>
          subst same
          have far := free.le here
          have near := here.length_pos
          rw [List.length_append] at far
          omega
  | @found chars before name after tail later free here _ ih =>
      generalize same : before ++ chars = whole at second
      cases second with
      | finished free' =>
          subst same
          have far := free'.le here
          have near := here.length_pos
          rw [List.length_append] at far
          omega
      | @found chars' before' name' after' _ later' free' here' scanned' =>
          have size : before.length = before'.length := by
            refine Nat.le_antisymm ?_ ?_
            · rw [same] at free
              exact free.le here'
            · rw [← same] at free'
              exact free'.le here
          obtain ⟨rfl, rfl⟩ := List.append_inj same size
          obtain ⟨rfl, rfl⟩ := here.unique here'
          obtain ⟨rfl, rfl⟩ := ih scanned'
          exact ⟨rfl, rfl⟩

theorem existsUnique_scanned (chars : List Char) :
    ∃! scan : List Found × List Char, Scanned chars scan.1 scan.2 := by
  obtain ⟨found, tail, scanned⟩ := exists_scanned chars
  refine ⟨(found, tail), scanned, fun other there => ?_⟩
  obtain ⟨rfl, rfl⟩ := scanned.unique there
  rfl

/-! ## Values -/

variable (environment : Variables)

/-- A variable is set and not empty. -/
def IsSet (name : List Char) : Prop :=
  ∃ value, environment.lookup (String.ofList name) = some value ∧ value ≠ ""

/-- The value of a variable. -/
def valueOf (name : List Char) : List Char :=
  ((environment.lookup (String.ofList name)).getD "").toList

/-- A text with the values of variables in place of its placeholders. -/
def filled (found : List Found) (tail : List Char) : List Char :=
  (found.flatMap fun placeholder => placeholder.before ++ valueOf environment placeholder.name) ++
    tail

variable {environment}

theorem setVariable_of_isSet {name : List Char} (set : IsSet environment name) :
    setVariable environment (String.ofList name) =
      some (String.ofList (valueOf environment name)) := by
  obtain ⟨value, given, nonempty⟩ := set
  rw [setVariable, valueOf, given, Option.getD_some, String.ofList_toList]
  exact Option.filter_eq_some_iff.2 ⟨rfl, by simpa using nonempty⟩

theorem setVariable_of_not_isSet {name : List Char} (unset : ¬ IsSet environment name) :
    setVariable environment (String.ofList name) = none := by
  rw [setVariable, Option.filter_eq_none_iff]
  intro value given
  by_contra nonempty
  exact unset ⟨value, given, by simpa using nonempty⟩

/-! ## Expanding -/

theorem expandChars_of_none {c : Char} {rest : List Char}
    (other : placeholder? (c :: rest) = none) :
    expandChars environment (c :: rest) = (expandChars environment rest).map (c :: ·) := by
  rw [expandChars]
  split
  · next found => rw [other] at found; cases found
  · rfl

theorem expandChars_nil : expandChars environment [] = .ok [] := by
  rw [expandChars]
  rfl

/-- Characters where no placeholder begins are kept. -/
theorem expandChars_append {before chars : List Char}
    (free : NoneIn before.length (before ++ chars)) :
    expandChars environment (before ++ chars) =
      (expandChars environment chars).map (before ++ ·) := by
  induction before with
  | nil =>
      rw [List.nil_append]
      cases expandChars environment chars <;> rfl
  | cons c before ih =>
      have here : placeholder? (c :: (before ++ chars)) = none :=
        placeholder?_eq_none_iff.2 (free 0 (Nat.succ_pos _))
      have later := ih fun place inside => free (place + 1) (Nat.succ_lt_succ inside)
      rw [List.cons_append, expandChars_of_none here, later]
      cases expandChars environment chars <;> rfl

theorem expandChars_of_isSet {chars name after : List Char} (here : Begins chars name after)
    (set : IsSet environment name) :
    expandChars environment chars =
      (expandChars environment after).map (valueOf environment name ++ ·) := by
  have found := placeholder?_eq_some_iff.2 here
  have value := setVariable_of_isSet set
  rw [expandChars]
  split
  · next there =>
      rw [found] at there
      cases there
      rw [value]
      simp only [String.toList_ofList]
  · next there => rw [found] at there; cases there

theorem expandChars_of_not_isSet {chars name after : List Char} (here : Begins chars name after)
    (unset : ¬ IsSet environment name) :
    expandChars environment chars = .error (.unsetVariable (String.ofList name)) := by
  have found := placeholder?_eq_some_iff.2 here
  have value := setVariable_of_not_isSet unset
  rw [expandChars]
  split
  · next there =>
      rw [found] at there
      cases there
      rw [value]
  · next there => rw [found] at there; cases there

/-- **Values are filled in** where all variables are set. -/
theorem expandChars_of_scanned {chars tail : List Char} {found : List Found}
    (scanned : Scanned chars found tail)
    (set : ∀ placeholder ∈ found, IsSet environment placeholder.name) :
    expandChars environment chars = .ok (filled environment found tail) := by
  induction scanned with
  | @finished tail free =>
      have kept : expandChars environment (tail ++ []) =
          (expandChars environment []).map (tail ++ ·) :=
        expandChars_append (by rwa [List.append_nil])
      rw [List.append_nil, expandChars_nil] at kept
      rw [kept]
      exact congrArg Except.ok (List.append_nil tail)
  | @found chars before name after tail later free here _ ih =>
      obtain ⟨first, others⟩ := List.forall_mem_cons.1 set
      rw [expandChars_append free, expandChars_of_isSet here first, ih others]
      simp only [Except.map, filled, List.flatMap_cons, List.append_assoc]

/-- **The first variable that is not set is the problem.** -/
theorem expandChars_of_unset {chars tail : List Char} {earlier later : List Found}
    {unset : Found} (scanned : Scanned chars (earlier ++ unset :: later) tail)
    (set : ∀ placeholder ∈ earlier, IsSet environment placeholder.name)
    (fails : ¬ IsSet environment unset.name) :
    expandChars environment chars = .error (.unsetVariable (String.ofList unset.name)) := by
  induction earlier generalizing chars with
  | nil =>
      cases scanned with
      | found free here _ =>
          rw [expandChars_append free, expandChars_of_not_isSet here fails]
          rfl
  | cons placeholder earlier ih =>
      obtain ⟨first, others⟩ := List.forall_mem_cons.1 set
      cases scanned with
      | found free here scanned =>
          rw [expandChars_append free, expandChars_of_isSet here first, ih scanned others]
          rfl

/-- **Expansion is a single exact pass.**  Every text is scanned in one way.  If all variables that
its placeholders name are set and not empty, it is expanded to the text with their values in the
places of the placeholders and with every other character kept; a text without placeholders is so
expanded to itself.  Otherwise the first variable that is not set, or empty, is reported. -/
theorem expand_scanned (environment : Variables) (text : String) :
    (∃! scan : List Found × List Char, Scanned text.toList scan.1 scan.2) ∧
      ∀ found tail, Scanned text.toList found tail →
        ((∀ placeholder ∈ found, IsSet environment placeholder.name) →
          expand environment text = .ok (String.ofList (filled environment found tail))) ∧
        (found = [] → expand environment text = .ok text) ∧
        ∀ earlier unset later, found = earlier ++ unset :: later →
          (∀ placeholder ∈ earlier, IsSet environment placeholder.name) →
          ¬ IsSet environment unset.name →
          ∃ problem, expand environment text = .error problem ∧
            problem = .unsetVariable (String.ofList unset.name) ∧ problem.reported = true := by
  refine ⟨existsUnique_scanned _, fun found tail scanned => ⟨fun set => ?_, ?_, ?_⟩⟩
  · rw [expand, expandChars_of_scanned scanned set]
    rfl
  · rintro rfl
    obtain rfl := scanned.eq_tail
    rw [expand, expandChars_of_scanned scanned nofun]
    exact congrArg Except.ok String.ofList_toList
  · rintro earlier unset later rfl set fails
    refine ⟨_, ?_, rfl, rfl⟩
    rw [expand, expandChars_of_unset scanned set fails]
    rfl

/-- Openers that do not close are kept, and values are not looked at again. -/
example :
    (expand [("A", "$\x7b"), ("B", "A\x7d")] "$\x7b$\x7bA\x7d$\x7bB\x7d$\x7b\x7d$\x7bA").toOption =
      some "$\x7b$\x7bA\x7d$\x7b\x7d$\x7bA" := by
  decide +kernel

end DashboardExport.Configuration
