import DashboardExport.Proofs.Service.Addresses
import DashboardExport.Proofs.Service.Paths
import DashboardExport.Service.Client

/-!
# What is asked for

The path of an object is read as a text of its own before it is appended, so an id can end
the path early: what stands after a number sign is lost, and what stands after a question
mark becomes a query (`pathOfId`, `queryOfId`).

`Directory` says what the address is like that paths are appended to.  Below it, the
address of an object has the place of its kind and the rest of the id, encoded and with its
dots resolved, and nothing else of the address depends on the id
(`Directory.extend_eq_ok_iff`).
-/

set_option autoImplicit false

namespace DashboardExport.Service

open DashboardExport.Text Percent

/-! ## The text of an object's path -/

theorem splitFirst_append {mark : Char} {front : List Char} (absent : mark ∉ front)
    (rest : List Char) :
    splitFirst mark (front ++ rest) =
      (front ++ (splitFirst mark rest).1, (splitFirst mark rest).2) := by
  by_cases present : mark ∈ rest
  · obtain ⟨before, after, rfl, first⟩ := List.eq_append_cons_of_mem present
    rw [splitFirst_mark first, ← List.append_assoc, splitFirst_mark (by simp [absent, first])]
  · rw [splitFirst_of_not_mem present, splitFirst_of_not_mem (by simp [absent, present])]

theorem splitFirst_marked {mark : Char} (chars : Option (List Char)) :
    splitFirst mark (Address.marked mark chars) = ([], chars) := by
  cases chars with
  | none => rfl
  | some rest => exact splitFirst_mark List.not_mem_nil rest

/-- What stands before a mark is the whole only where there is no mark. -/
theorem length_splitFirst_le (mark : Char) (chars : List Char) :
    (splitFirst mark chars).1.length ≤ chars.length ∧
      ((splitFirst mark chars).1.length = chars.length → mark ∉ chars) := by
  by_cases present : mark ∈ chars
  · obtain ⟨before, after, rfl, first⟩ := List.eq_append_cons_of_mem present
    rw [splitFirst_mark first]
    simp
  · rw [splitFirst_of_not_mem present]
    exact ⟨Nat.le_refl _, fun _ => present⟩

/-- A path that is not the start of an authority is read as a path. -/
theorem ofChars_path {c : Char} (other : c ≠ '/') (rest : List Char) :
    AddressParts.ofChars ('/' :: c :: rest) =
      { scheme := [], authority := []
        path := (splitFirst '?' (splitFirst '#' ('/' :: c :: rest)).1).1
        query := (splitFirst '?' (splitFirst '#' ('/' :: c :: rest)).1).2
        fragment := (splitFirst '#' ('/' :: c :: rest)).2 } := by
  have scheme : splitScheme ('/' :: c :: rest) = ([], '/' :: c :: rest) := by
    have slash : splitFirst ':' (['/'] ++ c :: rest) =
      (['/'] ++ (splitFirst ':' (c :: rest)).1, (splitFirst ':' (c :: rest)).2) :=
      splitFirst_append (by decide) (c :: rest)
    unfold splitScheme
    split
    · next before after same =>
        rw [← List.singleton_append, slash] at same
        rw [← (Prod.mk.inj same).1]
        exact if_neg Bool.false_ne_true
    · rfl
  have authority : splitAuthority ('/' :: c :: rest) = ([], '/' :: c :: rest) := by
    unfold splitAuthority
    split
    · next same =>
        exact absurd (List.cons.inj (List.cons.inj same).2).1 other
    · rfl
  simp only [AddressParts.ofChars, scheme, authority]

/-- The part of an id that becomes part of the path. -/
def pathOfId (id : List Char) : List Char := (splitFirst '?' (splitFirst '#' id).1).1

/-- The part of an id that becomes a query. -/
def queryOfId (id : List Char) : Option (List Char) := (splitFirst '?' (splitFirst '#' id).1).2

theorem pathOfId_of_not_mem {id : List Char} (noHash : '#' ∉ id) (noMark : '?' ∉ id) :
    pathOfId id = id ∧ queryOfId id = none := by
  simp only [pathOfId, queryOfId, splitFirst_of_not_mem noHash, splitFirst_of_not_mem noMark,
    and_self]

/-- The part of an id that becomes part of the path is the whole only where there is no mark. -/
theorem length_pathOfId_le (id : List Char) :
    (pathOfId id).length ≤ id.length ∧
      ((pathOfId id).length = id.length → '#' ∉ id ∧ '?' ∉ id) := by
  obtain ⟨hashLe, noHash⟩ := length_splitFirst_le '#' id
  obtain ⟨markLe, noMark⟩ := length_splitFirst_le '?' (splitFirst '#' id).1
  refine ⟨markLe.trans hashLe, fun whole => ?_⟩
  unfold pathOfId at whole
  have hash := noHash (by omega)
  simp only [splitFirst_of_not_mem hash] at noMark whole
  exact ⟨hash, noMark whole⟩

/-- The place of the objects of a kind. -/
def placeOfKind (kind : RemoteKind) : List Char := kind.plural.toList ++ ['/']

theorem inPath_of_mem_placeOfKind {kind : RemoteKind} {c : Char} (member : c ∈ placeOfKind kind) :
    inPath c = true :=
  List.all_eq_true.1 (by cases kind <;> decide) c member

theorem parts_of_objectPath (kind : RemoteKind) (id : String) :
    AddressParts.ofChars (objectPath kind id).toList =
      { scheme := [], authority := [], path := '/' :: (placeOfKind kind ++ pathOfId id.toList)
        query := queryOfId id.toList, fragment := (splitFirst '#' id.toList).2 } := by
  have whole : (objectPath kind id).toList = '/' :: placeOfKind kind ++ id.toList := by
    simp [objectPath, placeOfKind]
  have noHash : '#' ∉ '/' :: placeOfKind kind := by cases kind <;> decide
  have noMark : '?' ∉ '/' :: placeOfKind kind := by cases kind <;> decide
  have begins : ∃ c rest, placeOfKind kind = c :: rest ∧ c ≠ '/' := by
    cases kind <;> exact ⟨_, _, rfl, by decide⟩
  obtain ⟨c, rest, place, other⟩ := begins
  have relative := ofChars_path other (rest ++ id.toList)
  rw [← List.cons_append, ← place, ← List.cons_append] at relative
  rw [whole, relative, splitFirst_append noHash]
  simp only [splitFirst_append noMark]
  rfl

/-! ## Texts without control characters -/

/-- Whether a character is an ASCII control character. -/
def isControl (c : Char) : Bool := c.toNat < 0x20 || c.toNat == 0x7F

theorem firstControl?_eq_none_iff {position : Nat} {chars : List Char} :
    firstControl? position chars = none ↔ ∀ c ∈ chars, isControl c = false := by
  induction chars generalizing position with
  | nil => simp [firstControl?]
  | cons c rest ih =>
      rw [firstControl?, List.forall_mem_cons]
      change (if isControl c = true then some (c, position)
        else firstControl? (position + 1) rest) = none ↔ _
      cases isControl c with
      | true => simp
      | false => simp [ih]

theorem ofText_eq_ok_iff {text : String} {address : Address} :
    Address.ofText text = .ok address ↔
      text.toList.length ≤ lengthLimit ∧ (∀ c ∈ text.toList, isControl c = false) ∧
        Address.Reads (AddressParts.ofChars text.toList) address := by
  rw [← @firstControl?_eq_none_iff 0, ← Address.ofParts_eq_ok_iff]
  unfold Address.ofText
  by_cases long : lengthLimit < text.toList.length
  · simp [long]
  · simp only [if_neg long]
    cases firstControl? 0 text.toList with
    | none => simp [Nat.not_lt.1 long]
    | some found => simp

/-- The path of an object as an address. -/
theorem ofText_objectPath_iff {kind : RemoteKind} {id : String} {address : Address} :
    Address.ofText (objectPath kind id) = .ok address ↔
      (placeOfKind kind).length + id.toList.length < lengthLimit ∧
        (∀ c ∈ id.toList, isControl c = false) ∧
        address =
          { scheme := [], userInfo := [], host := [], port := none
            path := '/' :: (placeOfKind kind ++ encode inPath (pathOfId id.toList))
            query := (queryOfId id.toList).map (encode inQuery)
            fragment := (splitFirst '#' id.toList).2.map (encode inFragment) } := by
  have whole : (objectPath kind id).toList = '/' :: placeOfKind kind ++ id.toList := by
    simp [objectPath, placeOfKind]
  have parts : Address.ofParts (AddressParts.ofChars (objectPath kind id).toList) =
      .ok { scheme := [], userInfo := [], host := [], port := none
            path := encode inPath ('/' :: (placeOfKind kind ++ pathOfId id.toList))
            query := (queryOfId id.toList).map (encode inQuery)
            fragment := (splitFirst '#' id.toList).2.map (encode inFragment) } := by
    rw [parts_of_objectPath]
    cases kind <;> rfl
  have place : encode inPath (placeOfKind kind) = placeOfKind kind :=
    encode_of_plain fun _ => inPath_of_mem_placeOfKind
  have path : encode inPath ('/' :: (placeOfKind kind ++ pathOfId id.toList)) =
      '/' :: (placeOfKind kind ++ encode inPath (pathOfId id.toList)) := by
    rw [encode_cons, encode_append, place]
    rfl
  have clean : ∀ c ∈ '/' :: placeOfKind kind, isControl c = false := fun c member =>
    Bool.eq_false_iff.2 (List.any_eq_false.1 (by cases kind <;> decide) c member)
  have bound : ('/' :: placeOfKind kind ++ id.toList).length ≤ lengthLimit ↔
      (placeOfKind kind).length + id.toList.length < lengthLimit := by
    rw [List.length_append, List.length_cons]
    omega
  rw [ofText_eq_ok_iff, ← Address.ofParts_eq_ok_iff, parts, path, whole, List.forall_mem_append,
    and_iff_right clean, bound]
  refine and_congr_right fun _ => and_congr_right fun _ => ?_
  exact ⟨fun same => (Except.ok.inj same).symm, fun same => congrArg Except.ok same.symm⟩

/-! ## Below a place -/

theorem hasAuthority_of_named {address : Address} (named : address.host ≠ []) :
    address.hasAuthority = true := by
  rw [Address.hasAuthority, List.isEmpty_eq_false_iff.2 named]
  simp

theorem target_of_rooted {address : Address} (rooted : address.path.head? = some '/')
    (noQuery : address.query = none) : address.target = address.path := by
  obtain ⟨rest, same⟩ := List.head?_eq_some_iff.1 rooted
  rw [Address.target, noQuery, same]
  exact List.append_nil _

/-- An address that objects stand below: it names a host, and its path is a place without dots. -/
structure Directory (base : Address) : Prop where
  settled : base.Settled
  named : base.host ≠ []
  rooted : base.path.head? = some '/'
  plain : ∀ c ∈ base.path, inPath c = true
  place : ∃ place, base.path = place ++ ['/'] ∧ Dotless place
  noQuery : base.query = none
  noFragment : base.fragment = none

namespace Directory

variable {base : Address}

/-- **What is read below a place** differs from it in path and query alone. -/
theorem reads_iff (directory : Directory base) {target : List Char} {result : Address}
    (rooted : (splitFirst '?' target).1.head? = some '/') :
    Address.Reads (base.targetParts target) result ↔ result =
      { base with
        path := encode inPath (resolveDots (splitFirst '?' target).1)
        query := (splitFirst '?' target).2.map (encode inQuery) } := by
  have settled := directory.settled
  have written := settled.toWritten
  have fits : checkPath (splitFirst '?' target).1 base.hasScheme true = .ok () := by
    simp [checkPath, rooted]
  have expected : Address.Reads (base.targetParts target)
      { base with
        path := encode inPath (resolveDots (splitFirst '?' target).1)
        query := (splitFirst '?' target).2.map (encode inQuery) } := by
    constructor <;> simp only [Address.targetParts, Address.ofChars_authority written]
    case scheme => exact written.scheme.symm
    case userInfo => exact (encode_of_plain written.userInfo).symm
    case host => exact settled.hostAgain
    case port => exact settled.portAgain
    case fits =>
      change checkPath _ base.hasScheme base.hasAuthority = _
      rw [hasAuthority_of_named directory.named, fits]
    case path =>
      change _ = encode inPath (if base.hasScheme || base.hasAuthority then _ else _)
      rw [hasAuthority_of_named directory.named, Bool.or_true, if_pos rfl]
    case fragment =>
      rw [directory.noFragment]
      rfl
  constructor
  · intro reads
    have made := Address.ofParts_eq_ok_iff.2 reads
    rw [Address.ofParts_eq_ok_iff.2 expected] at made
    exact (Except.ok.inj made).symm
  · rintro rfl
    exact expected

/-- The path of an object with its dots, as it is appended to a place. -/
def fullPath (base : Address) (kind : RemoteKind) (id : String) : List Char :=
  base.path ++ (placeOfKind kind ++ encode inPath (pathOfId id.toList))

theorem inPath_of_mem_fullPath (directory : Directory base) {kind : RemoteKind} {id : String}
    {c : Char} (member : c ∈ fullPath base kind id) : inPath c = true := by
  rcases List.mem_append.1 member with member | member
  · exact directory.plain c member
  rcases List.mem_append.1 member with member | member
  · exact inPath_of_mem_placeOfKind member
  · exact inPath_of_mem_encode member

/-- A path is appended to a place together with the query after it. -/
theorem splitFirst_target (directory : Directory base) (kind : RemoteKind) (id : String)
    (query : Option (List Char)) :
    splitFirst '?' (fullPath base kind id ++ Address.marked '?' query) =
      (fullPath base kind id, query) := by
  have absent : '?' ∉ fullPath base kind id := fun member =>
    absurd (directory.inPath_of_mem_fullPath member) (by decide)
  rw [splitFirst_append absent, splitFirst_marked, List.append_nil]

/-- What is read with the path of an object appended. -/
theorem withTarget_iff (directory : Directory base) {kind : RemoteKind} {id : String}
    {query : Option (List Char)} {result : Address} :
    base.withTarget (fullPath base kind id ++ Address.marked '?' query) = .ok result ↔
      (fullPath base kind id).length ≤ lengthLimit ∧ (query.getD []).length ≤ lengthLimit ∧
        result = { base with
          path := resolveDots (fullPath base kind id), query := query.map (encode inQuery) } := by
  have split := directory.splitFirst_target kind id query
  have limits : (∀ part ∈ Address.limitedParts
      (base.targetParts (fullPath base kind id ++ Address.marked '?' query)),
        part.2.length ≤ lengthLimit) ↔
      (fullPath base kind id).length ≤ lengthLimit ∧ (query.getD []).length ≤ lengthLimit := by
    simp [Address.limitedParts, Address.targetParts, split, directory.settled.schemeFits,
      directory.settled.authorityFits, directory.noFragment]
  have rooted : (fullPath base kind id).head? = some '/' := by
    obtain ⟨rest, same⟩ := List.head?_eq_some_iff.1 directory.rooted
    rw [fullPath, same]
    rfl
  have kept : encode inPath (resolveDots (fullPath base kind id)) =
      resolveDots (fullPath base kind id) := by
    refine encode_of_plain fun c member => ?_
    rcases mem_of_mem_resolveDots member with rfl | member
    · decide
    · exact directory.inPath_of_mem_fullPath member
  rw [Address.withTarget_eq_ok_iff, limits, directory.reads_iff (by rw [split]; exact rooted),
    split, kept, and_assoc]

/-- **What is asked for**, and when something is. -/
theorem extend_eq_ok_iff (directory : Directory base) {kind : RemoteKind} {id : String}
    {address : Address} :
    base.extend (objectPath kind id) = .ok address ↔
      (placeOfKind kind).length + id.toList.length < lengthLimit ∧
        (∀ c ∈ id.toList, isControl c = false) ∧
        (fullPath base kind id).length ≤ lengthLimit ∧
        (((queryOfId id.toList).map (encode inQuery)).getD []).length ≤ lengthLimit ∧
        address = { base with
          path := resolveDots (fullPath base kind id)
          query := (queryOfId id.toList).map (encode inQuery) } := by
  have appended (query : Option (List Char)) : base.target ++
      List.dropWhile (· == '/') ('/' :: (placeOfKind kind ++ encode inPath (pathOfId id.toList)) ++
        Address.marked '?' query) = fullPath base kind id ++ Address.marked '?' query := by
    have target := target_of_rooted directory.rooted directory.noQuery
    have front (further : List Char) : List.dropWhile (· == '/')
        ('/' :: (placeOfKind kind ++ further)) = placeOfKind kind ++ further := by
      cases kind <;> rfl
    rw [target, List.cons_append, List.append_assoc, front, fullPath, List.append_assoc,
      List.append_assoc]
  have twice : ((queryOfId id.toList).map (encode inQuery)).map (encode inQuery) =
      (queryOfId id.toList).map (encode inQuery) := by
    rw [Option.map_map]
    exact Option.map_congr fun query _ =>
      encode_encode (plain_of_isEscapeChar (by decide)) query
  have extended := @withTarget_iff base directory kind id
    ((queryOfId id.toList).map (encode inQuery)) address
  rw [twice, ← appended] at extended
  unfold Address.extend
  simp only [except_bind_eq_ok_iff, ofText_objectPath_iff]
  constructor
  · rintro ⟨_, ⟨short, clean, rfl⟩, made⟩
    exact ⟨short, clean, extended.1 made⟩
  · rintro ⟨short, clean, fits⟩
    exact ⟨_, ⟨short, clean, rfl⟩, extended.2 fits⟩

end Directory

end DashboardExport.Service
