import DashboardExport.Json.Printer
import DashboardExport.Proofs.Json.Readable
import Mathlib.Data.List.Perm.Basic
import Mathlib.Data.String.Basic

/-!
# The order of keys

Two values agree when they are the same up to the order of the keys of their objects, at
every depth (`Agrees`).  A value agrees with the one whose keys are sorted
(`agrees_sortKeys`), and sorting decides agreement: readable values agree exactly when
they are the same once their keys are sorted (`sortKeys_eq_iff`).
-/

set_option autoImplicit false

namespace DashboardExport.Json

/-! ## Agreement -/

mutual
/-- The same value up to the order of keys: a member has its counterpart among the members of the
other object, wherever it stands.  Floating-point numbers are the same when their texts are
(`render_inj`). -/
def Agrees : Json → Json → Prop
  | .arr items, .arr others => AgreesItems items others
  | .obj members, .obj others => AgreesMembers members others
  | value, other => value = other

def AgreesItems : List Json → List Json → Prop
  | [], [] => True
  | item :: rest, other :: others => Agrees item other ∧ AgreesItems rest others
  | _, _ => False

def AgreesMembers : List (String × Json) → List (String × Json) → Prop
  | [], others => others = []
  | (key, value) :: rest, others => ∃ before other after,
    others = before ++ (key, other) :: after ∧ Agrees value other ∧
      AgreesMembers rest (before ++ after)
end

/-! ## Sorting keeps the members -/

/-- An inserted member comes between two parts of the others. -/
theorem exists_insertMember_eq (member : String × Json) (members : List (String × Json)) :
    ∃ before after, insertMember member members = before ++ member :: after ∧
      members = before ++ after := by
  induction members with
  | nil => exact ⟨[], [], rfl, rfl⟩
  | cons other rest ih =>
      rw [insertMember]
      split_ifs
      · obtain ⟨before, after, inserted, split⟩ := ih
        refine ⟨other :: before, after, ?_, ?_⟩
        · rw [inserted, List.cons_append]
        · rw [split, List.cons_append]
      · exact ⟨[], other :: rest, rfl, rfl⟩

theorem insertMember_perm (member : String × Json) (members : List (String × Json)) :
    (insertMember member members).Perm (member :: members) := by
  obtain ⟨before, after, inserted, split⟩ := exists_insertMember_eq member members
  rw [inserted, split]
  exact List.perm_middle

/-- A member with its value sorted. -/
def sortMember (member : String × Json) : String × Json := (member.1, sortKeys member.2)

theorem sortMembers_perm (members : List (String × Json)) :
    (sortMembers members).Perm (members.map sortMember) := by
  induction members with
  | nil => exact .refl []
  | cons member rest ih => exact (insertMember_perm _ _).trans (ih.cons _)

theorem map_fst_map_sortMember (members : List (String × Json)) :
    (members.map sortMember).map Prod.fst = members.map Prod.fst := by
  rw [List.map_map]
  rfl

mutual
/-- **Sorting the keys gives a value that agrees.** -/
theorem agrees_sortKeys : ∀ value : Json, Agrees value value.sortKeys
  | .null => rfl
  | .bool _ => rfl
  | .int _ => rfl
  | .float _ => rfl
  | .str _ => rfl
  | .arr items => agreesItems_sortItems items
  | .obj members => agreesMembers_sortMembers members

theorem agreesItems_sortItems : ∀ items : List Json, AgreesItems items (sortItems items)
  | [] => trivial
  | item :: rest => ⟨agrees_sortKeys item, agreesItems_sortItems rest⟩

theorem agreesMembers_sortMembers : ∀ members : List (String × Json),
    AgreesMembers members (sortMembers members)
  | [] => rfl
  | (key, value) :: rest => by
      obtain ⟨before, after, inserted, split⟩ :=
        exists_insertMember_eq (key, sortKeys value) (sortMembers rest)
      refine ⟨before, sortKeys value, after, inserted, agrees_sortKeys value, ?_⟩
      rw [← split]
      exact agreesMembers_sortMembers rest
end

/-! ## Sorting decides agreement -/

mutual
theorem agrees_of_sortKeys_eq : ∀ value other : Json, value.sortKeys = other.sortKeys →
    Agrees value other
  | .null, other, same => by cases other <;> cases same; rfl
  | .bool _, other, same => by cases other <;> cases same; rfl
  | .int _, other, same => by cases other <;> cases same; rfl
  | .float _, other, same => by cases other <;> cases same; rfl
  | .str _, other, same => by cases other <;> cases same; rfl
  | .arr items, other, same => by
      cases other with
      | arr others => exact agreesItems_of_sortItems_eq items others (Json.arr.inj same)
      | _ => cases same
  | .obj members, other, same => by
      cases other with
      | obj others =>
          refine agreesMembers_of_perm members others ?_
          have sorted : sortMembers members = sortMembers others := Json.obj.inj same
          exact (sortMembers_perm members).symm.trans (sorted ▸ sortMembers_perm others)
      | _ => cases same

theorem agreesItems_of_sortItems_eq : ∀ items others : List Json,
    sortItems items = sortItems others → AgreesItems items others
  | [], others, same => by
      cases others with
      | nil => exact trivial
      | cons _ _ => cases same
  | item :: rest, others, same => by
      cases others with
      | nil => cases same
      | cons other others =>
          obtain ⟨first, later⟩ := List.cons.inj same
          exact ⟨agrees_of_sortKeys_eq item other first,
            agreesItems_of_sortItems_eq rest others later⟩

theorem agreesMembers_of_perm : ∀ members others : List (String × Json),
    (members.map sortMember).Perm (others.map sortMember) → AgreesMembers members others
  | [], others, perm => List.map_eq_nil_iff.1 (List.nil_perm.1 perm)
  | (key, value) :: rest, others, perm => by
      have member : sortMember (key, value) ∈ others.map sortMember :=
        perm.subset List.mem_cons_self
      obtain ⟨⟨key', other⟩, found, same⟩ := List.mem_map.1 member
      obtain ⟨sameKey, sameValue⟩ := Prod.mk.inj same
      obtain rfl : key' = key := sameKey
      obtain ⟨before, after, rfl⟩ := List.append_of_mem found
      refine ⟨before, other, after, rfl, agrees_of_sortKeys_eq value other sameValue.symm, ?_⟩
      refine agreesMembers_of_perm rest (before ++ after) ?_
      rw [List.map_cons, List.map_append, List.map_cons, same] at perm
      rw [List.map_append]
      exact (perm.trans List.perm_middle).cons_inv
end

/-- Members in the order of their keys, which are all different. -/
def Ordered (members : List (String × Json)) : Prop :=
  members.Pairwise fun member other => member.1 < other.1

theorem ordered_insertMember {member : String × Json} {members : List (String × Json)}
    (absent : member.1 ∉ members.map Prod.fst) (ordered : Ordered members) :
    Ordered (insertMember member members) := by
  induction members with
  | nil => exact List.pairwise_singleton _ _
  | cons other rest ih =>
      rw [List.map_cons, List.mem_cons, not_or] at absent
      obtain ⟨first, later⟩ := List.pairwise_cons.1 ordered
      rw [insertMember]
      split_ifs with smaller
      · refine List.pairwise_cons.2 ⟨fun entry inside => ?_, ih absent.2 later⟩
        rcases List.mem_cons.1 ((insertMember_perm member rest).subset inside) with rfl | old
        · exact smaller
        · exact first entry old
      · have greater : member.1 < other.1 :=
          lt_of_le_of_ne (not_lt.1 smaller) absent.1
        refine List.pairwise_cons.2 ⟨fun entry inside => ?_, ordered⟩
        rcases List.mem_cons.1 inside with rfl | old
        · exact greater
        · exact lt_trans greater (first entry old)

theorem ordered_sortMembers {members : List (String × Json)}
    (distinct : (members.map Prod.fst).Nodup) : Ordered (sortMembers members) := by
  induction members with
  | nil => exact List.Pairwise.nil
  | cons member rest ih =>
      obtain ⟨absent, distinct⟩ := List.nodup_cons.1 distinct
      refine ordered_insertMember (fun inside => absent ?_) (ih distinct)
      rw [← map_fst_map_sortMember]
      exact ((sortMembers_perm rest).map Prod.fst).subset inside

/-- Members with different keys are sorted to one list, however they are arranged. -/
theorem sortMembers_eq_of_perm {members others : List (String × Json)}
    (distinct : (members.map Prod.fst).Nodup)
    (perm : (members.map sortMember).Perm (others.map sortMember)) :
    sortMembers members = sortMembers others := by
  have keys := perm.map Prod.fst
  rw [map_fst_map_sortMember, map_fst_map_sortMember] at keys
  refine List.Perm.eq_of_pairwise (fun _ _ _ _ less greater => absurd less (lt_asymm greater))
    (ordered_sortMembers distinct) (ordered_sortMembers (keys.nodup_iff.1 distinct)) ?_
  exact (sortMembers_perm members).trans (perm.trans (sortMembers_perm others).symm)

mutual
theorem sortKeys_eq_of_agrees : ∀ value other : Json, Readable value → Agrees value other →
    value.sortKeys = other.sortKeys
  | .null, _, _, agrees => congrArg sortKeys agrees
  | .bool _, _, _, agrees => congrArg sortKeys agrees
  | .int _, _, _, agrees => congrArg sortKeys agrees
  | .float _, _, _, agrees => congrArg sortKeys agrees
  | .str _, _, _, agrees => congrArg sortKeys agrees
  | .arr items, other, readable, agrees => by
      cases other with
      | arr others => exact congrArg Json.arr (sortItems_eq_of_agrees items others readable agrees)
      | _ => cases agrees
  | .obj members, other, readable, agrees => by
      cases other with
      | obj others =>
          exact congrArg Json.obj (sortMembers_eq_of_perm readable.1
            (perm_of_agreesMembers members others readable.2 agrees))
      | _ => cases agrees

theorem sortItems_eq_of_agrees : ∀ items others : List Json, ReadableItems items →
    AgreesItems items others → sortItems items = sortItems others
  | [], others, _, agrees => by
      cases others with
      | nil => rfl
      | cons _ _ => cases agrees
  | item :: rest, others, readable, agrees => by
      cases others with
      | nil => cases agrees
      | cons other others =>
          rw [sortItems, sortItems, sortKeys_eq_of_agrees item other readable.1 agrees.1,
            sortItems_eq_of_agrees rest others readable.2 agrees.2]

theorem perm_of_agreesMembers : ∀ members others : List (String × Json),
    ReadableMembers members → AgreesMembers members others →
      (members.map sortMember).Perm (others.map sortMember)
  | [], others, _, agrees => by rw [show others = [] from agrees]
  | (key, value) :: rest, others, readable, agrees => by
      obtain ⟨before, other, after, rfl, agreesHere, agreesLater⟩ := agrees
      have later := perm_of_agreesMembers rest (before ++ after) readable.2 agreesLater
      have here : sortMember (key, value) = sortMember (key, other) :=
        congrArg (Prod.mk key) (sortKeys_eq_of_agrees value other readable.1 agreesHere)
      rw [List.map_append] at later
      rw [List.map_cons, List.map_append, List.map_cons, here]
      exact (later.cons _).trans List.perm_middle.symm
end

/-- **Readable values agree exactly when they are the same once their keys are sorted.** -/
theorem sortKeys_eq_iff {value : Json} (readable : Readable value) (other : Json) :
    value.sortKeys = other.sortKeys ↔ Agrees value other :=
  ⟨agrees_of_sortKeys_eq value other, sortKeys_eq_of_agrees value other readable⟩

/-! ## Sorting keeps values readable -/

theorem ReadableMembers.of_perm {members others : List (String × Json)}
    (perm : members.Perm others) (readable : ReadableMembers members) :
    ReadableMembers others := by
  induction perm with
  | nil => exact trivial
  | cons _ _ ih => exact ⟨readable.1, ih readable.2⟩
  | swap _ _ _ => exact ⟨readable.2.1, readable.1, readable.2.2⟩
  | trans _ _ first second => exact second (first readable)

mutual
theorem readable_sortKeys : ∀ value : Json, Readable value → Readable value.sortKeys
  | .null, readable => readable
  | .bool _, readable => readable
  | .int _, readable => readable
  | .float _, readable => readable
  | .str _, readable => readable
  | .arr items, readable => readableItems_sortItems items readable
  | .obj members, readable => by
      have keys := (sortMembers_perm members).map Prod.fst
      rw [map_fst_map_sortMember] at keys
      exact ⟨keys.nodup_iff.2 readable.1,
        (readableMembers_map_sortMember members readable.2).of_perm (sortMembers_perm members).symm⟩

theorem readableItems_sortItems : ∀ items : List Json, ReadableItems items →
    ReadableItems (sortItems items)
  | [], readable => readable
  | item :: rest, readable =>
    ⟨readable_sortKeys item readable.1, readableItems_sortItems rest readable.2⟩

theorem readableMembers_map_sortMember : ∀ members : List (String × Json),
    ReadableMembers members → ReadableMembers (members.map sortMember)
  | [], readable => readable
  | (_, value) :: rest, readable =>
    ⟨readable_sortKeys value readable.1, readableMembers_map_sortMember rest readable.2⟩
end

/-! ## Members inserted one by one -/

theorem foldr_insertMember_perm (members : List (String × Json)) :
    (members.foldr insertMember []).Perm members := by
  induction members with
  | nil => exact .refl []
  | cons member rest ih => exact (insertMember_perm _ _).trans (ih.cons _)

/-- Members with different keys that are inserted one by one are in order. -/
theorem ordered_foldr_insertMember {members : List (String × Json)}
    (distinct : (members.map Prod.fst).Nodup) : Ordered (members.foldr insertMember []) := by
  induction members with
  | nil => exact List.Pairwise.nil
  | cons member rest ih =>
      obtain ⟨absent, distinct⟩ := List.nodup_cons.1 distinct
      refine ordered_insertMember (fun inside => absent ?_) (ih distinct)
      exact ((foldr_insertMember_perm rest).map Prod.fst).subset inside

end DashboardExport.Json
