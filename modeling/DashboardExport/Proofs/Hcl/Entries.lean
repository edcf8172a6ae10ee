import DashboardExport.Hcl.Item

/-!
# Entries of items

Writing only adds entries, and which ones depends on the depth alone
(`entries_writeAll`).  So the entries of a text are those of its items, one item after
the other, and those of a block stand between its header and its closing bracket.
-/

set_option autoImplicit false

namespace DashboardExport.Hcl

namespace Writer

/-! ## Operations that only add -/

/-- An operation that adds entries and sets the depth without a look at the entries so far. -/
def Adds (operation : Writer → Writer) : Prop := ∀ w : Writer,
  (operation w).entries = w.entries ++ (operation ⟨[], w.depth⟩).entries ∧
    (operation w).depth = (operation ⟨[], w.depth⟩).depth

theorem Adds.comp {first second : Writer → Writer} (adds : Adds first) (later : Adds second) :
    Adds fun w => second (first w) := by
  intro w
  have here := adds w
  have there := later (first w)
  have alone := later (first ⟨[], w.depth⟩)
  rw [here.1, here.2, List.append_assoc, ← alone.1, ← alone.2] at there
  exact there

theorem adds_id : Adds fun w => w := fun w => ⟨(List.append_nil w.entries).symm, rfl⟩

theorem adds_verbatim (text : String) : Adds (verbatim text) := fun _ => ⟨rfl, rfl⟩

theorem adds_line (text : String) : Adds (line text) := fun _ => ⟨rfl, rfl⟩

theorem adds_deeper : Adds deeper := fun w => ⟨(List.append_nil w.entries).symm, rfl⟩

theorem adds_shallower : Adds shallower := fun w => ⟨(List.append_nil w.entries).symm, rfl⟩

theorem adds_items : ∀ values : List String, Adds (items values)
  | [] => adds_id
  | _ :: rest => (adds_line _).comp (adds_items rest)

theorem adds_strings (key : String) (values : List String) : Adds (strings key values) :=
  ((((adds_line _).comp adds_deeper).comp (adds_items values)).comp adds_shallower).comp
    (adds_line _)

theorem adds_heredoc (key marker : String) (body : Option String) :
    Adds (heredoc key marker body) := by
  cases body with
  | none => exact (adds_line _).comp (adds_verbatim marker)
  | some text => exact ((adds_line _).comp (adds_verbatim text)).comp (adds_verbatim marker)

theorem adds_openBlock (header : String) : Adds (openBlock header) := (adds_line _).comp adds_deeper

theorem adds_closeBlock : Adds closeBlock := adds_shallower.comp (adds_line _)

end Writer

namespace Item

open Writer (Adds)

mutual
/-- **Writing an item only adds entries.** -/
theorem adds_write : ∀ item : Item, Adds item.write
  | .line text => Writer.adds_line text
  | .verbatim text => Writer.adds_verbatim text
  | .assignment _ _ => Writer.adds_line _
  | .strings key values => Writer.adds_strings key values
  | .heredoc key marker body => Writer.adds_heredoc key marker body
  | .block header items =>
      ((Writer.adds_openBlock header).comp (adds_writeAll items)).comp Writer.adds_closeBlock

theorem adds_writeAll : ∀ items : List Item, Adds (writeAll items)
  | [] => Writer.adds_id
  | item :: rest => (adds_write item).comp (adds_writeAll rest)
end

/-! ## The entries of items -/

/-- The entries that items add at a depth. -/
def added (depth : Nat) (items : List Item) : List String := (writeAll items ⟨[], depth⟩).entries

theorem entries_writeAll (items : List Item) (w : Writer) :
    (writeAll items w).entries = w.entries ++ added w.depth items := (adds_writeAll items w).1

theorem added_cons (depth : Nat) (item : Item) (rest : List Item) :
    added depth (item :: rest) = added depth [item] ++ added depth rest := by
  have later := entries_writeAll rest (item.write ⟨[], depth⟩)
  rw [depth_write] at later
  exact later

/-- The entries of items come one after the other. -/
theorem added_append (depth : Nat) (left right : List Item) :
    added depth (left ++ right) = added depth left ++ added depth right := by
  induction left with
  | nil => rfl
  | cons item rest ih =>
      rw [List.cons_append, added_cons, ih, added_cons depth item rest, List.append_assoc]

theorem added_flatMap {α : Type} (depth : Nat) (items : α → List Item) (values : List α) :
    added depth (values.flatMap items) = values.flatMap fun x => added depth (items x) := by
  induction values with
  | nil => rfl
  | cons value rest ih => rw [List.flatMap_cons, List.flatMap_cons, added_append, ih]

/-- **The entries of a block stand, one level deeper, between its header and its bracket.** -/
theorem added_block (depth : Nat) (header : String) (items : List Item) :
    added depth [.block header items] = added depth [.line (header ++ " \x7b")] ++
      (added (depth + 1) items ++ added depth [.line "\x7d"]) := by
  have inside := entries_writeAll items ((⟨[], depth⟩ : Writer).openBlock header)
  have closing :=
    (Writer.adds_closeBlock (writeAll items ((⟨[], depth⟩ : Writer).openBlock header))).1
  rw [inside, depth_writeAll, List.append_assoc] at closing
  exact closing

/-- The entries of a here document. -/
theorem added_heredoc (depth : Nat) (key marker : String) (body : Option String) :
    added depth [.heredoc key marker body] =
      added depth [.line (key ++ " = <<" ++ marker)] ++ (body.toList ++ [marker]) := by
  cases body with
  | none => rfl
  | some text => rfl

/-- **The entries of a block with a here document**: those of its other items stand before the
opening line and behind the marker, and between the two stands the body, if there is one. -/
theorem added_heredoc_block (depth : Nat) (header key marker : String) (body : Option String)
    (earlier later : List Item) :
    added depth [.block header (earlier ++ .heredoc key marker body :: later)] =
      (added depth [.line (header ++ " \x7b")] ++ added (depth + 1) earlier) ++
        (added (depth + 1) [.line (key ++ " = <<" ++ marker)] ++ (body.toList ++
          marker :: (added (depth + 1) later ++ added depth [.line "\x7d"]))) := by
  rw [added_block, added_append, added_cons (depth + 1), added_heredoc]
  simp only [List.append_assoc, List.cons_append, List.nil_append]

/-- **A here document in a block adds its opening line, its text and its marker**, the last two
without indentation. -/
theorem exists_added_heredoc (depth : Nat) (header key marker text : String)
    (earlier later : List Item) :
    ∃ before after,
      added depth [.block header (earlier ++ .heredoc key marker (some text) :: later)] = before ++
        (added (depth + 1) [.line (key ++ " = <<" ++ marker)] ++ text :: marker :: after) :=
  ⟨_, _, added_heredoc_block depth header key marker (some text) earlier later⟩

end Item

end DashboardExport.Hcl
