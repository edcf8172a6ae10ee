import DashboardExport.Json.Document
import DashboardExport.Proofs.Json.Digits
import Mathlib.Data.List.Nodup

/-!
# What the reader can give

Every value that is read has different keys in each of its objects, and integers within
the limit of digits, at every depth (`readable_of_parse?`).  So has every value that
stands somewhere in one that was read (`Received.readable`): the options of a
visualization are such a value.
-/

set_option autoImplicit false

namespace DashboardExport.Json

/-! ## Readable values -/

mutual
/-- Different keys in each object, and no integer beyond the limit. -/
def Readable : Json → Prop
  | .int n => (Nat.toDigits 10 n.natAbs).length ≤ digitLimit
  | .arr items => ReadableItems items
  | .obj members => (members.map Prod.fst).Nodup ∧ ReadableMembers members
  | _ => True

def ReadableItems : List Json → Prop
  | [] => True
  | item :: rest => Readable item ∧ ReadableItems rest

def ReadableMembers : List (String × Json) → Prop
  | [] => True
  | (_, value) :: rest => Readable value ∧ ReadableMembers rest
end

theorem ReadableItems.of_mem {items : List Json} (readable : ReadableItems items) {item : Json}
    (member : item ∈ items) : Readable item := by
  induction items with
  | nil => cases member
  | cons head rest ih =>
      rw [ReadableItems] at readable
      rcases List.mem_cons.1 member with rfl | later
      · exact readable.1
      · exact ih readable.2 later

theorem ReadableMembers.of_mem {members : List (String × Json)}
    (readable : ReadableMembers members) {entry : String × Json} (member : entry ∈ members) :
    Readable entry.2 := by
  induction members with
  | nil => cases member
  | cons head rest ih =>
      rw [ReadableMembers] at readable
      rcases List.mem_cons.1 member with rfl | later
      · exact readable.1
      · exact ih readable.2 later

theorem readableItems_of_forall {items : List Json} (each : ∀ item ∈ items, Readable item) :
    ReadableItems items := by
  induction items with
  | nil => exact trivial
  | cons item rest ih =>
      obtain ⟨first, later⟩ := List.forall_mem_cons.1 each
      exact ⟨first, ih later⟩

theorem readableMembers_of_forall {members : List (String × Json)}
    (each : ∀ entry ∈ members, Readable entry.2) : ReadableMembers members := by
  induction members with
  | nil => exact trivial
  | cons entry rest ih =>
      obtain ⟨first, later⟩ := List.forall_mem_cons.1 each
      exact ⟨first, ih later⟩

/-! ## Members with repeated keys -/

theorem map_fst_putMember (key : String) (value : Json) (members : List (String × Json)) :
    (putMember key value members).map Prod.fst =
      if key ∈ members.map Prod.fst then members.map Prod.fst
      else members.map Prod.fst ++ [key] := by
  induction members with
  | nil => rfl
  | cons member rest ih =>
      obtain ⟨other, _⟩ := member
      by_cases same : other = key
      · simp [putMember, same]
      · have differ : key ≠ other := fun eq => same eq.symm
        simp only [putMember, beq_iff_eq, same, if_false, List.map_cons, ih, List.mem_cons, differ,
          false_or]
        split_ifs <;> rfl

theorem putMember_of_not_mem {key : String} {members : List (String × Json)}
    (absent : key ∉ members.map Prod.fst) (value : Json) :
    putMember key value members = members ++ [(key, value)] := by
  induction members with
  | nil => rfl
  | cons member rest ih =>
      obtain ⟨other, _⟩ := member
      rw [List.map_cons, List.mem_cons, not_or] at absent
      have differ : (other == key) = false := beq_false_of_ne (Ne.symm absent.1)
      rw [putMember, differ, if_neg Bool.false_ne_true, ih absent.2, List.cons_append]

/-- Members with different keys are kept as they are. -/
theorem ofMembers_of_nodup {members : List (String × Json)}
    (distinct : (members.map Prod.fst).Nodup) : ofMembers members = .obj members := by
  have built : ∀ before : List (String × Json), ((before ++ members).map Prod.fst).Nodup →
      members.foldl (fun built member => putMember member.1 member.2 built) before =
        before ++ members := by
    clear distinct
    induction members with
    | nil => exact fun before _ => (List.append_nil before).symm
    | cons member rest ih =>
        intro before distinct
        have absent : member.1 ∉ before.map Prod.fst := by
          intro known
          rw [List.map_append] at distinct
          exact List.disjoint_of_nodup_append distinct known List.mem_cons_self
        rw [List.foldl_cons, putMember_of_not_mem absent]
        refine (ih _ ?_).trans (List.append_assoc _ _ _)
        rwa [List.append_assoc]
  exact congrArg Json.obj (built [] distinct)

theorem readableMembers_putMember {key : String} {value : Json} (readable : Readable value)
    {members : List (String × Json)} (before : ReadableMembers members) :
    ReadableMembers (putMember key value members) := by
  induction members with
  | nil => exact ⟨readable, trivial⟩
  | cons member rest ih =>
      obtain ⟨other, _⟩ := member
      rw [ReadableMembers] at before
      rw [putMember]
      split_ifs
      · exact ⟨readable, before.2⟩
      · exact ⟨before.1, ih before.2⟩

/-- Whatever the members are, the object they make has different keys. -/
theorem readable_ofMembers {members : List (String × Json)} (readable : ReadableMembers members) :
    Readable (ofMembers members) := by
  have built : ∀ before : List (String × Json), (before.map Prod.fst).Nodup →
      ReadableMembers before →
      Readable (.obj (members.foldl
        (fun built member => putMember member.1 member.2 built) before)) := by
    induction members with
    | nil => exact fun before distinct readable => ⟨distinct, readable⟩
    | cons member rest ih =>
        intro before distinct readableBefore
        rw [ReadableMembers] at readable
        refine ih readable.2 _ ?_ (readableMembers_putMember readable.1 readableBefore)
        rw [map_fst_putMember]
        split_ifs with known
        · exact distinct
        · exact List.nodup_append.2 ⟨distinct, List.nodup_singleton _,
            fun _ member _ single same => known (List.mem_singleton.1 single ▸ same ▸ member)⟩
  exact built [] List.nodup_nil trivial

/-! ## Reading gives readable values -/

theorem natAbs_signed (negative : Bool) (chars : List Char) :
    (signed negative chars).natAbs = Nat.ofDigitChars 10 chars 0 := by
  cases negative with
  | false => exact Int.natAbs_natCast _
  | true => exact (Int.natAbs_neg _).trans (Int.natAbs_natCast _)

theorem readable_of_readNumber {negative : Bool} {chars rest : List Char} {value : Json}
    (read : readNumber negative chars = some (value, rest)) : Readable value := by
  rw [readNumber] at read
  split at read
  · cases read
  · next whole after wholeRead =>
      dsimp only at read
      split at read
      · cases read
        exact trivial
      · split at read
        · split at read
          · cases read
          · next short =>
              cases read
              obtain ⟨digits, nonempty⟩ := digits_of_readWhole wholeRead
              rw [Readable, natAbs_signed]
              have small := (Nat.length_toDigits_le_iff (by decide)
                (List.length_pos_of_ne_nil nonempty)).2 (ofDigitChars_lt digits)
              omega
        · cases read
          exact trivial

theorem readable_of_mem_words {word : List Char × Json} (member : word ∈ words) :
    Readable word.2 := by
  simp only [words, List.mem_cons, List.not_mem_nil, or_false] at member
  rcases member with rfl | rfl | rfl | rfl | rfl | rfl <;> exact trivial

theorem readable_of_readPlain {chars rest : List Char} {value : Json}
    (read : readPlain chars = some (value, rest)) : Readable value := by
  rw [readPlain.eq_def] at read
  split at read
  · next found word =>
      cases read
      obtain ⟨entry, member, found⟩ := List.exists_of_findSome?_eq_some word
      obtain ⟨after, _, same⟩ := Option.map_eq_some_iff.1 found
      cases same
      exact readable_of_mem_words member
  · split at read
    · exact readable_of_readNumber read
    · exact readable_of_readNumber read

mutual
theorem readable_of_readValue : ∀ (fuel : Nat) {chars rest : List Char} {value : Json},
    readValue fuel chars = some (value, rest) → Readable value
  | 0, _, _, _, read => by cases read
  | fuel + 1, chars, rest, value, read => by
      rw [readValue.eq_def] at read
      dsimp only at read
      split at read
      · obtain ⟨_, _, same⟩ := Option.map_eq_some_iff.1 read
        cases same
        exact trivial
      · split at read
        · cases read
          exact trivial
        · obtain ⟨⟨items, _⟩, itemsRead, same⟩ := Option.map_eq_some_iff.1 read
          cases same
          exact readable_of_readItems fuel itemsRead
      · split at read
        · cases read
          exact ⟨List.nodup_nil, trivial⟩
        · obtain ⟨⟨members, _⟩, membersRead, same⟩ := Option.map_eq_some_iff.1 read
          cases same
          exact readable_ofMembers (readable_of_readMembers fuel membersRead)
      · exact readable_of_readPlain read

theorem readable_of_readItems : ∀ (fuel : Nat) {chars rest : List Char} {items : List Json},
    readItems fuel chars = some (items, rest) → ReadableItems items
  | 0, _, _, _, read => by cases read
  | fuel + 1, chars, rest, items, read => by
      rw [readItems.eq_def] at read
      dsimp only at read
      split at read
      · cases read
      · next item after itemRead =>
          have first := readable_of_readValue fuel itemRead
          split at read
          · cases read
            exact ⟨first, trivial⟩
          · obtain ⟨⟨later, _⟩, laterRead, same⟩ := Option.map_eq_some_iff.1 read
            cases same
            exact ⟨first, readable_of_readItems fuel laterRead⟩
          · cases read

theorem readable_of_readMembers : ∀ (fuel : Nat) {chars rest : List Char}
    {members : List (String × Json)},
    readMembers fuel chars = some (members, rest) → ReadableMembers members
  | 0, _, _, _, read => by cases read
  | fuel + 1, chars, rest, members, read => by
      rw [readMembers.eq_def] at read
      dsimp only at read
      split at read
      · split at read
        · cases read
        · split at read
          · split at read
            · cases read
            · next value after valueRead =>
                have first := readable_of_readValue fuel valueRead
                split at read
                · cases read
                  exact ⟨first, trivial⟩
                · obtain ⟨⟨later, _⟩, laterRead, same⟩ := Option.map_eq_some_iff.1 read
                  cases same
                  exact ⟨first, readable_of_readMembers fuel laterRead⟩
                · cases read
          · cases read
      · cases read
end

/-- **What is read is readable.** -/
theorem readable_of_parse? {text : String} {value : Json} (read : parse? text = some value) :
    Readable value := by
  rw [parse?] at read
  split at read
  · next found after valueRead =>
      split_ifs at read
      cases read
      exact readable_of_readValue _ valueRead
  · cases read

theorem readable_of_ofDocument {bytes : List UInt8} {value : Json}
    (read : ofDocument bytes = .ok value) : Readable value := by
  rw [ofDocument] at read
  split at read
  · cases read
  · split at read
    · next parsed =>
        cases read
        exact readable_of_parse? parsed
    · cases read

/-! ## Parts of documents -/

/-- A value that stands somewhere in another one. -/
inductive Within (value : Json) : Json → Prop where
  | whole : Within value value
  | item {items : List Json} {item : Json} (member : item ∈ items) (inside : Within value item) :
      Within value (.arr items)
  | member {members : List (String × Json)} {entry : String × Json} (member : entry ∈ members)
      (inside : Within value entry.2) : Within value (.obj members)

theorem Within.readable {value whole : Json} (inside : Within value whole)
    (readable : Readable whole) : Readable value := by
  induction inside with
  | whole => exact readable
  | item member _ ih => exact ih (ReadableItems.of_mem readable member)
  | member member _ ih => exact ih (ReadableMembers.of_mem readable.2 member)

theorem Within.trans {value middle whole : Json} (inside : Within value middle)
    (outside : Within middle whole) : Within value whole := by
  induction outside with
  | whole => exact inside
  | item member _ ih => exact .item member ih
  | member member _ ih => exact .member member ih

/-- A value that the body of a response can bring. -/
def Received (value : Json) : Prop :=
  ∃ bytes document, ofDocument bytes = .ok document ∧ Within value document

/-- **A received value is readable.** -/
theorem Received.readable {value : Json} (received : Received value) : Readable value := by
  obtain ⟨bytes, document, read, inside⟩ := received
  exact inside.readable (readable_of_ofDocument read)

end DashboardExport.Json
