import DashboardExport.Proofs.Text.Ascii
import DashboardExport.Proofs.Inventory.Numbering

/-!
# Names that are tokens

A canonical name is made of small letters, digits and underscores, whatever the display
name is, and the number that makes a name fresh adds nothing else (`isToken_fresh`).  So
the names of the dashboards and queries in a reached inventory are tokens
(`ownerTokens_reached`): they hold no line end, and nothing that means something in a path.

The names of widgets are tokens too.  The name of a visualization ends in the type that the
service gave it, which is lowered but not made canonical, so of other characters it holds
those of its type (`partTokens_reached`).
-/

set_option autoImplicit false

namespace DashboardExport

namespace Naming

/-! ## Tokens -/

/-- The characters that tokens are made of. -/
def isTokenChar (c : Char) : Bool := c.isLower || c.isDigit || c == '_'

theorem ascii_of_isTokenChar {c : Char} (inToken : isTokenChar c = true) : c.toNat < 128 := by
  rw [isTokenChar, Bool.or_eq_true, Bool.or_eq_true, beq_iff_eq] at inToken
  rcases inToken with (lower | digit) | rfl
  · exact Text.ascii_of_isLower lower
  · exact Text.ascii_of_isDigit digit
  · decide

/-- A name that is made of such characters. -/
def IsToken (name : String) : Prop := ∀ c ∈ name.toList, isTokenChar c = true

instance (name : String) : Decidable (IsToken name) :=
  List.decidableBAll (fun c : Char => isTokenChar c = true) name.toList

/-- A character of another kind does not occur in a token. -/
theorem IsToken.not_mem {name : String} (token : IsToken name) {c : Char}
    (other : isTokenChar c = false) : c ∉ name.toList := by
  intro member
  rw [token c member] at other
  cases other

/-- A letter or a digit becomes a character of tokens when it is lowered. -/
theorem isTokenChar_toLower {c : Char} (plain : c.isAlphanum = true) :
    isTokenChar c.toLower = true :=
  Text.forall_ascii (fun d => d.isAlphanum = true → isTokenChar d.toLower = true) (by decide)
    (Text.ascii_of_isAlphanum plain) plain

theorem isToken_canonical (name : String) : IsToken (canonical name) := by
  intro c member
  rw [canonical, String.toList_ofList, canonicalChars, List.mem_flatMap] at member
  obtain ⟨d, _, made⟩ := member
  rw [tokenOf] at made
  split_ifs at made with parenthesis plain
  · cases made
  · rw [List.mem_singleton.1 made]
    rcases Bool.or_eq_true_iff.1 plain with alphanumeric | underscore
    · exact isTokenChar_toLower alphanumeric
    · rw [beq_iff_eq.1 underscore]
      rfl
  · rw [List.mem_singleton.1 made]
    rfl

theorem isToken_numbered {base : String} (token : IsToken base) (n : Nat) :
    IsToken (numbered base n) := by
  intro c member
  rw [toList_numbered] at member
  rcases List.mem_append.1 member with inBase | later
  · exact token c inBase
  · rcases List.mem_cons.1 later with rfl | digit
    · rfl
    · have isDigit : c.isDigit = true :=
        Nat.isDigit_of_mem_toDigits (by decide) (by decide) digit
      rw [isTokenChar, isDigit, Bool.or_true, Bool.true_or]

/-- **A fresh token is a token.** -/
theorem isToken_fresh {base : String} (token : IsToken base) (taken : List String) :
    IsToken (fresh base taken) := by
  by_cases used : base ∈ taken
  · obtain ⟨n, found, _⟩ := exists_least_free used
    rw [found]
    exact isToken_numbered token n
  · rw [fresh, if_neg (by simpa using used)]
    exact token

/-! ## Other characters -/

/-- A name is a token when no other character occurs in it. -/
theorem isToken_iff {name : String} :
    IsToken name ↔ ∀ c, isTokenChar c = false → c ∉ name.toList := by
  constructor
  · intro token c other
    exact token.not_mem other
  · intro none c member
    by_contra other
    exact none c (Bool.eq_false_of_not_eq_true other) member

section Other

variable {c : Char} (other : isTokenChar c = false)
include other

/-- The underscore between two texts is no other character. -/
theorem mem_joined_iff {front back : String} :
    c ∈ (front ++ "_" ++ back).toList ↔ c ∈ front.toList ∨ c ∈ back.toList := by
  have differs : c ≠ '_' := by
    rintro rfl
    cases other
  rw [toList_joined, List.mem_append, List.mem_cons, or_iff_right differs]

/-- Neither is a number behind it. -/
theorem mem_numbered_iff {base : String} {n : Nat} :
    c ∈ (numbered base n).toList ↔ c ∈ base.toList := by
  have digits : c ∉ (toString n).toList := by
    rw [Nat.toString_eq_ofList_toDigits, String.toList_ofList]
    intro digit
    have isDigit : c.isDigit = true := Nat.isDigit_of_mem_toDigits (by decide) (by decide) digit
    simp [isTokenChar, isDigit] at other
  rw [numbered, mem_joined_iff other, or_iff_left digits]

end Other

end Naming

/-! ## Owners -/

/-- The names of an inventory's dashboards are tokens, and so are those of its queries. -/
structure OwnerTokens (inventory : Inventory) : Prop where
  dashboards : ∀ entry ∈ inventory.dashboards, Naming.IsToken entry.resourceName
  queries : ∀ entry ∈ inventory.queries, Naming.IsToken entry.resourceName

theorem ownerTokens_of_growth {before after : Inventory}
    (growth : Inventory.Growth before after) (tokens : OwnerTokens before) : OwnerTokens after := by
  cases growth with
  | query query _ =>
      refine ⟨tokens.dashboards, fun entry member => ?_⟩
      rcases List.mem_append.1 member with old | new
      · exact tokens.queries entry old
      · rw [List.mem_singleton.1 new]
        exact Naming.isToken_fresh (Naming.isToken_canonical query.name) _
  | dashboard dashboard _ =>
      refine ⟨fun entry member => ?_, tokens.queries⟩
      rcases List.mem_append.1 member with old | new
      · exact tokens.dashboards entry old
      · rw [List.mem_singleton.1 new]
        exact Naming.isToken_fresh (Naming.isToken_canonical dashboard.name) _

/-- **Dashboards and queries that were loaded have tokens as names**, whatever their display names
are. -/
theorem ownerTokens_reached (calls : List LoadCall) : OwnerTokens (Inventory.reached calls) :=
  Inventory.reached_induction
    ⟨fun _ member => absurd member List.not_mem_nil, fun _ member => absurd member List.not_mem_nil⟩
    ownerTokens_of_growth calls

/-! ## Parts -/

/-- **A visualization of a query whose name is a token has the other characters of its type in its
name**, and no more. -/
theorem mem_resourceName_iff_of_named {queryName : String} (token : Naming.IsToken queryName)
    {entries : List (Entry Visualization)} (named : Named queryName entries)
    {entry : Entry Visualization} (member : entry ∈ entries) {c : Char}
    (other : Naming.isTokenChar c = false) :
    c ∈ entry.resourceName.toList ↔ c ∈ entry.object.lowerType.toList := by
  obtain ⟨position, here⟩ := List.getElem?_of_mem member
  have typed : c ∈ (queryName ++ "_" ++ entry.object.lowerType).toList ↔
      c ∈ entry.object.lowerType.toList := by
    rw [Naming.mem_joined_iff other]
    exact or_iff_right (token.not_mem other)
  by_cases once : (lowerTypes entries).count entry.object.lowerType = 1
  · rw [named.single here once, typed]
  · rw [named.repeated here once, ← typed]
    exact Naming.mem_numbered_iff other

/-- The names of an inventory's widgets are tokens.  The names of its visualizations have the same
other characters as their types. -/
structure PartTokens (inventory : Inventory) : Prop where
  widgets : ∀ entry ∈ inventory.widgets, Naming.IsToken entry.resourceName
  visualizations : ∀ entry ∈ inventory.visualizations, ∀ c, Naming.isTokenChar c = false →
    (c ∈ entry.resourceName.toList ↔ c ∈ entry.object.lowerType.toList)

theorem partTokens_of_growth {before after : Inventory}
    (growth : Inventory.Growth before after) (tokens : PartTokens before) : PartTokens after := by
  cases growth with
  | query query decoded =>
      refine ⟨tokens.widgets, fun entry member c other => ?_⟩
      rcases List.mem_append.1 member with old | new
      · exact tokens.visualizations entry old c other
      · have token : Naming.IsToken (before.queryEntry query).resourceName :=
          Naming.isToken_fresh (Naming.isToken_canonical query.name) _
        have names := resourceNames_of_visualizationEntries decoded
        rw [← lowerTypes_of_visualizationEntries decoded] at names
        exact mem_resourceName_iff_of_named token (named_of_resourceNames names) new other
  | dashboard dashboard decoded =>
      refine ⟨fun entry member => ?_, tokens.visualizations⟩
      rcases List.mem_append.1 member with old | new
      · exact tokens.widgets entry old
      · have named := List.mem_map_of_mem (f := Entry.resourceName) new
        rw [resourceNames_of_widgetEntries decoded] at named
        obtain ⟨position, _, same⟩ := List.mem_map.1 named
        rw [← same]
        exact Naming.isToken_numbered
          (Naming.isToken_fresh (Naming.isToken_canonical dashboard.name) _) position

/-- **Widgets that were loaded have tokens as names, and visualizations do so far as their types
are tokens.** -/
theorem partTokens_reached (calls : List LoadCall) : PartTokens (Inventory.reached calls) :=
  Inventory.reached_induction
    ⟨fun _ member => absurd member List.not_mem_nil, fun _ member => absurd member List.not_mem_nil⟩
    partTokens_of_growth calls

end DashboardExport
