import DashboardExport.Proofs.Hcl.Entries

/-!
# Lines of items

An item writes lines, and it writes texts as they are: the bodies of here documents and
the markers behind them (`lines`, `verbatims`).  Every entry of a text is one or the
other, and a line has the indentation of its depth before it (`writtenAll_of_mem`).
-/

set_option autoImplicit false

namespace DashboardExport.Hcl

namespace Writer

/-- The entry that a line is at a depth. -/
def lineEntry (depth : Nat) (text : String) : String :=
  if text.isEmpty then "" else indentation depth ++ text

theorem lineEntry_empty (depth : Nat) : lineEntry depth "" = "" := rfl

theorem lineEntry_of_ne_empty {text : String} (something : text ≠ "") (depth : Nat) :
    lineEntry depth text = indentation depth ++ text := by
  have nonempty : text.isEmpty = false := by simpa using something
  rw [lineEntry, nonempty, if_neg Bool.false_ne_true]

theorem lineEntry_zero (text : String) : lineEntry 0 text = text := by
  by_cases empty : text = ""
  · rw [empty, lineEntry_empty]
  · rw [lineEntry_of_ne_empty empty]
    exact String.empty_append

/-- The indentation of a line stands before its first part. -/
theorem lineEntry_append (depth : Nat) (front : String) {back : String} (something : back ≠ "") :
    lineEntry depth (front ++ back) = indentation depth ++ front ++ back := by
  have nonempty : front ++ back ≠ "" := by
    rw [Ne, String.append_eq_empty_iff]
    exact fun both => something both.2
  rw [lineEntry_of_ne_empty nonempty, String.append_assoc]

end Writer

namespace Item

mutual
/-- The lines that an item writes.  What a here document carries is no line of the item. -/
def lines : Item → List String
  | .line text => [text]
  | .verbatim _ => []
  | .assignment key value => [key ++ " = " ++ Text.quoted value]
  | .strings key values =>
    (key ++ " = [") :: (values.map (fun value => Text.quoted value ++ ",") ++ ["]"])
  | .heredoc key marker _ => [key ++ " = <<" ++ marker]
  | .block header items => (header ++ " \x7b") :: (linesAll items ++ ["\x7d"])

/-- The lines that items write, one item after the other. -/
def linesAll : List Item → List String
  | [] => []
  | item :: rest => lines item ++ linesAll rest
end

mutual
/-- What an item writes as it is. -/
def verbatims : Item → List String
  | .verbatim text => [text]
  | .heredoc _ marker body => body.toList ++ [marker]
  | .block _ items => verbatimsAll items
  | .line _ => []
  | .assignment _ _ => []
  | .strings _ _ => []

/-- What items write as it is. -/
def verbatimsAll : List Item → List String
  | [] => []
  | item :: rest => verbatims item ++ verbatimsAll rest
end

@[simp] theorem linesAll_nil : linesAll [] = [] := rfl

@[simp] theorem linesAll_cons (item : Item) (rest : List Item) :
    linesAll (item :: rest) = lines item ++ linesAll rest := rfl

@[simp] theorem linesAll_append (left right : List Item) :
    linesAll (left ++ right) = linesAll left ++ linesAll right := by
  induction left with
  | nil => rfl
  | cons item rest ih => rw [List.cons_append, linesAll, ih, linesAll, List.append_assoc]

@[simp] theorem verbatimsAll_nil : verbatimsAll [] = [] := rfl

@[simp] theorem verbatimsAll_cons (item : Item) (rest : List Item) :
    verbatimsAll (item :: rest) = verbatims item ++ verbatimsAll rest := rfl

@[simp] theorem verbatimsAll_append (left right : List Item) :
    verbatimsAll (left ++ right) = verbatimsAll left ++ verbatimsAll right := by
  induction left with
  | nil => rfl
  | cons item rest ih => rw [List.cons_append, verbatimsAll, ih, verbatimsAll, List.append_assoc]

/-! ## Entries -/

theorem entries_items (values : List String) (w : Writer) :
    (Writer.items values w).entries =
      w.entries ++ values.map fun value => Writer.lineEntry w.depth (Text.quoted value ++ ",") := by
  induction values generalizing w with
  | nil => exact (List.append_nil w.entries).symm
  | cons value rest ih =>
      rw [Writer.items, ih, List.map_cons, Writer.line, Writer.entries_verbatim, List.append_assoc]
      rfl

theorem added_strings (depth : Nat) (key : String) (values : List String) :
    added depth [.strings key values] = Writer.lineEntry depth (key ++ " = [") ::
      (values.map (fun value => Writer.lineEntry (depth + 1) (Text.quoted value ++ ",")) ++
        [Writer.lineEntry depth "]"]) := by
  have inside := entries_items values
    (Writer.deeper (Writer.line (key ++ " = [") ⟨[], depth⟩))
  have level := Writer.depth_items values
    (Writer.deeper (Writer.line (key ++ " = [") ⟨[], depth⟩))
  show (Writer.strings key values ⟨[], depth⟩).entries = _
  rw [Writer.strings, Writer.line, Writer.entries_verbatim, Writer.shallower, inside, level]
  rfl

/-- An entry that is one of the lines, at some depth, or one of the texts. -/
def Written (written verbatim : List String) (entry : String) : Prop :=
  (∃ line ∈ written, ∃ depth, entry = Writer.lineEntry depth line) ∨ entry ∈ verbatim

theorem Written.mono {written verbatim moreWritten moreVerbatim : List String} {entry : String}
    (made : Written written verbatim entry) (lines : written ⊆ moreWritten)
    (texts : verbatim ⊆ moreVerbatim) : Written moreWritten moreVerbatim entry := by
  rcases made with ⟨line, member, indented⟩ | member
  · exact .inl ⟨line, lines member, indented⟩
  · exact .inr (texts member)

theorem Written.of_line {depth : Nat} {line entry : String}
    (same : entry = Writer.lineEntry depth line) {written : List String} (member : line ∈ written)
    (verbatim : List String) : Written written verbatim entry :=
  .inl ⟨line, member, depth, same⟩

mutual
/-- **Every entry of an item is one of its lines, indented, or a text written as it is.** -/
theorem written_of_mem : ∀ (item : Item) (depth : Nat) {entry : String},
    entry ∈ added depth [item] → Written item.lines item.verbatims entry
  | .line _, _, _, member =>
      .of_line (List.mem_singleton.1 member) List.mem_cons_self _
  | .verbatim _, _, _, member => .inr member
  | .assignment _ _, _, _, member =>
      .of_line (List.mem_singleton.1 member) List.mem_cons_self _
  | .strings key values, depth, entry, member => by
      rw [added_strings, List.mem_cons, List.mem_append, List.mem_map, List.mem_singleton] at member
      rcases member with opening | ⟨value, inside, item⟩ | closing
      · exact .of_line opening List.mem_cons_self _
      · refine .of_line item.symm (List.mem_cons_of_mem _ (List.mem_append_left _ ?_)) _
        exact List.mem_map_of_mem inside
      · refine .of_line closing (List.mem_cons_of_mem _ (List.mem_append_right _ ?_)) _
        exact List.mem_cons_self
  | .heredoc key marker none, depth, entry, member => by
      rcases List.mem_cons.1 member with opening | marked
      · exact .of_line opening List.mem_cons_self _
      · exact .inr marked
  | .heredoc key marker (some text), depth, entry, member => by
      rcases List.mem_cons.1 member with opening | body
      · exact .of_line opening List.mem_cons_self _
      · exact .inr body
  | .block header items, depth, entry, member => by
      rw [added_block, List.mem_append, List.mem_append] at member
      rcases member with opening | inside | closing
      · exact .of_line (List.mem_singleton.1 opening) List.mem_cons_self _
      · refine (writtenAll_of_mem items (depth + 1) inside).mono ?_ (List.Subset.refl _)
        exact List.subset_cons_of_subset _ (List.subset_append_left _ _)
      · refine .of_line (List.mem_singleton.1 closing) (List.mem_cons_of_mem _ ?_) _
        exact List.mem_append_right _ List.mem_cons_self

theorem writtenAll_of_mem : ∀ (items : List Item) (depth : Nat) {entry : String},
    entry ∈ added depth items → Written (linesAll items) (verbatimsAll items) entry
  | [], _, _, member => absurd member List.not_mem_nil
  | item :: rest, depth, entry, member => by
      rw [added_cons, List.mem_append] at member
      rcases member with here | later
      · exact (written_of_mem item depth here).mono
          (List.subset_append_left _ _) (List.subset_append_left _ _)
      · exact (writtenAll_of_mem rest depth later).mono
          (List.subset_append_right _ _) (List.subset_append_right _ _)
end

end Item

end DashboardExport.Hcl
