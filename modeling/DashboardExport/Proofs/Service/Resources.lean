import DashboardExport.Proofs.Service.Answers
import DashboardExport.Proofs.Service.Workspaces

/-!
# Ids that can be asked for

An id becomes part of a path as it is given, and paths are read by the rules for addresses.
So an object is asked for at an address of its own (`IsAddressOf`) exactly when its id
leaves the path as it stands (`Addressable`): a slash, a question mark or a number sign ends
the part, dots stand for another place, an escape is read as the character that it stands
for, control characters are refused, and there is a limit to the length.

That these are all the exceptions rests on lengths: what is read back from a part of the
path has no more characters than the part of the id that it was made of, and it has fewer
when the id holds an escape, so only the whole of the id can be read back as the id
(`Directory.addressable_of_extend`).
-/

set_option autoImplicit false

namespace DashboardExport.Service

open DashboardExport.Text Percent

/-- The addresses that are asked when an object is fetched. -/
def Client.asked (client : Client) (kind : RemoteKind) (id : String) : List Address :=
  let events := match kind with
    | .dashboard => (client.fetcher.dashboard id).events
    | .query => (client.fetcher.query id).events
  events.filterMap fun
    | .requested request => some request.address
    | _ => none

/-- The address of the object of a kind with an id: on the server of the base, below the place of
the kind, a single part of the path that reads as the id, and nothing after it. -/
structure IsAddressOf (base : Address) (kind : RemoteKind) (id : String) (address : Address) :
    Prop where
  server : address.scheme = base.scheme ∧ address.authority = base.authority
  path : ∃ segment, address.path = base.path ++ (placeOfKind kind ++ segment) ∧ '/' ∉ segment ∧
    Percent.decode (String.ofList segment) = id
  noQuery : address.query = none
  noFragment : address.fragment = none

/-- The ids that can be asked for. -/
structure Addressable (base : Address) (kind : RemoteKind) (id : String) : Prop where
  clean : ∀ c ∈ id.toList, isControl c = false
  unmarked : '/' ∉ id.toList ∧ '?' ∉ id.toList ∧ '#' ∉ id.toList
  noEscape : holdsEscape id.toList = false
  noDots : isDots id.toList = false
  fits : base.path.length + (placeOfKind kind).length + (encode inPath id.toList).length ≤
    lengthLimit

theorem Client.asked_eq (client : Client) (kind : RemoteKind) (id : String) :
    client.asked kind id = (client.base.extend (objectPath kind id)).toOption.toList := by
  have told {α : Type} (decode : Json → Decoding.Outcome α) :
      (client.fetch kind decode id).events.filterMap (fun
        | .requested request => some request.address
        | _ => none) = (client.base.extend (objectPath kind id)).toOption.toList := by
    unfold Client.fetch Client.request
    cases client.base.extend (objectPath kind id) <;> rfl
  cases kind with
  | dashboard => exact told Dashboard.decode
  | query => exact told Query.decode

theorem Client.asked_eq_singleton_iff {client : Client} {kind : RemoteKind} {id : String}
    {address : Address} :
    client.asked kind id = [address] ↔
      client.base.extend (objectPath kind id) = .ok address := by
  rw [Client.asked_eq]
  cases client.base.extend (objectPath kind id) <;> simp [Except.toOption]

namespace Directory

variable {base : Address}

/-- The place of the objects of a kind, which is a place without dots. -/
theorem exists_place (directory : Directory base) (kind : RemoteKind) :
    ∃ place, Dotless place ∧ ∀ rest : List Char,
      base.path ++ (placeOfKind kind ++ rest) = place ++ '/' :: rest := by
  obtain ⟨place, same, dotless⟩ := directory.place
  have plural : Dotless kind.plural.toList := by cases kind <;> decide
  refine ⟨place ++ '/' :: kind.plural.toList, dotless_slash.2 ⟨dotless, plural⟩, fun rest => ?_⟩
  rw [same, placeOfKind]
  simp

/-- **An id that can be asked for is asked for** at its address. -/
theorem extend_of_addressable (directory : Directory base) {kind : RemoteKind} {id : String}
    (addressable : Addressable base kind id) :
    base.extend (objectPath kind id) =
      .ok { base with path := base.path ++ (placeOfKind kind ++ encode inPath id.toList) } := by
  obtain ⟨noSlash, noMark, noHash⟩ := addressable.unmarked
  obtain ⟨path, query⟩ := pathOfId_of_not_mem noHash noMark
  have full : fullPath base kind id =
      base.path ++ (placeOfKind kind ++ encode inPath id.toList) := by rw [fullPath, path]
  obtain ⟨place, dotless, below⟩ := directory.exists_place kind
  have single : Dotless (encode inPath id.toList) := by
    rw [dotless_encode, Dotless, pathParts_of_not_mem noSlash]
    simpa using addressable.noDots
  have resolved : resolveDots (fullPath base kind id) = fullPath base kind id := by
    refine resolveDots_of_dotless ?_
    rw [full, below]
    exact dotless_slash.2 ⟨dotless, single⟩
  have longer := length_le_length_encode inPath id.toList
  have something : 0 < base.path.length := by
    obtain ⟨rest, same⟩ := List.head?_eq_some_iff.1 directory.rooted
    simp [same]
  have fits := addressable.fits
  rw [directory.extend_eq_ok_iff, resolved, query, full]
  refine ⟨by omega, addressable.clean, ?_, Nat.zero_le _, ?_⟩
  · rw [List.length_append, List.length_append]
    omega
  · rw [Option.map_none, directory.noQuery]

/-- **What is asked for at an address of an id** can be asked for: the last part of the path comes
from a part of the id, and it reads as the whole id only where that part is the whole. -/
theorem addressable_of_extend (directory : Directory base) {kind : RemoteKind} {id : String}
    {address : Address} (asked : base.extend (objectPath kind id) = .ok address)
    (found : IsAddressOf base kind id address) : Addressable base kind id := by
  obtain ⟨-, clean, fits, -, rfl⟩ := directory.extend_eq_ok_iff.1 asked
  obtain ⟨segment, path, noSlash, reads⟩ := found.path
  obtain ⟨place, dotless, below⟩ := directory.exists_place kind
  simp only [fullPath, below] at path
  obtain ⟨member, noDots⟩ := mem_of_resolveDots_eq dotless noSlash path
  rw [pathParts_encode] at member
  obtain ⟨part, inside, rfl⟩ := List.mem_map.1 member
  -- Each of the steps from the id to the part can only make it shorter.
  have sublist := sublist_of_mem_splitAtEvery inside
  have partLe : part.length ≤ (pathOfId id.toList).length := sublist.length_le
  obtain ⟨pathLe, unmarked⟩ := length_pathOfId_le id.toList
  have readLe := length_readBack_le part
  have readLength : id.toList.length = (readBack part).length := by
    rw [← length_decode_encode, reads]
  obtain ⟨noHash, noMark⟩ := unmarked (by omega)
  obtain ⟨whole, -⟩ := pathOfId_of_not_mem noHash noMark
  rw [whole] at sublist inside partLe
  obtain rfl : part = id.toList := sublist.eq_of_length (by omega)
  refine ⟨clean, ⟨slash_not_mem inside, noMark, noHash⟩, ?_, by rwa [isDots_encode] at noDots, ?_⟩
  · refine Bool.eq_false_iff.2 fun holds => ?_
    have shorter := length_readBack_lt holds
    omega
  · rw [fullPath, whole, List.length_append, List.length_append] at fits
    omega

/-- **An id can be asked for** exactly when its address is asked. -/
theorem exists_isAddressOf_iff (directory : Directory base) {kind : RemoteKind} {id : String} :
    (∃ address, base.extend (objectPath kind id) = .ok address ∧
      IsAddressOf base kind id address) ↔ Addressable base kind id := by
  constructor
  · rintro ⟨address, asked, found⟩
    exact directory.addressable_of_extend asked found
  · intro addressable
    refine ⟨_, directory.extend_of_addressable addressable, ⟨rfl, rfl⟩, ⟨_, rfl, ?_, ?_⟩,
      directory.noQuery, directory.noFragment⟩
    · exact slash_not_mem_encode addressable.unmarked.1
    · rw [(decode_encode_eq_iff _).2 addressable.noEscape, String.ofList_toList]

end Directory

theorem placeOfKind_injective {kind other : RemoteKind} {segment otherSegment : List Char}
    (same : placeOfKind kind ++ segment = placeOfKind other ++ otherSegment) :
    kind = other ∧ segment = otherSegment := by
  cases kind <;> cases other
  · exact ⟨rfl, List.append_cancel_left same⟩
  · exact absurd (List.cons.inj same).1 (by decide)
  · exact absurd (List.cons.inj same).1 (by decide)
  · exact ⟨rfl, List.append_cancel_left same⟩

/-- **An address is the address of one object.** -/
theorem IsAddressOf.unique {base address : Address} {kind other : RemoteKind} {id otherId : String}
    (found : IsAddressOf base kind id address) (again : IsAddressOf base other otherId address) :
    kind = other ∧ id = otherId := by
  obtain ⟨segment, path, -, rfl⟩ := found.path
  obtain ⟨otherSegment, otherPath, -, rfl⟩ := again.path
  rw [path] at otherPath
  obtain ⟨rfl, rfl⟩ := placeOfKind_injective (List.append_cancel_left otherPath)
  exact ⟨rfl, rfl⟩

/-! ## Clients -/

theorem baseAddress_of_open? {host : String} {token : Option String} {transport : Transport}
    {client : Client} (opened : Client.open? host token transport = .ok client) :
    baseAddress host = .ok client.base := by
  unfold Client.open? at opened
  split at opened
  · cases opened
  · next base made =>
      split at opened
      · cases opened
      · cases opened
        exact made

/-- **Which objects are asked for by their ids**: those whose ids hold no character that ends a part
of a path, no escape and no control character, are no dots and leave the path short enough.
Whatever the kind and the id, such an object is asked for at an address of its own, one part below
the place of its kind. -/
theorem Client.asked_iff_addressable {host : String} {token : Option String}
    {transport : Transport} {client : Client}
    (opened : Client.open? host token transport = .ok client)
    (plain : ∀ c ∈ host.toList, c ≠ '?' ∧ c ≠ '#') (named : client.base.host ≠ []) :
    (∃ place, client.base.path = place ++ (servicePath ++ "/").toList) ∧
      (∀ kind id, (∃ address, client.asked kind id = [address] ∧
        IsAddressOf client.base kind id address) ↔ Addressable client.base kind id) ∧
      ∀ kind id other otherId, Addressable client.base kind id →
        Addressable client.base other otherId →
        client.asked kind id = client.asked other otherId → kind = other ∧ id = otherId := by
  obtain ⟨directory, place, path⟩ :=
    directory_of_baseAddress (baseAddress_of_open? opened) plain named
  have found (kind : RemoteKind) (id : String) : (∃ address, client.asked kind id = [address] ∧
      IsAddressOf client.base kind id address) ↔ Addressable client.base kind id := by
    simp only [Client.asked_eq_singleton_iff]
    exact directory.exists_isAddressOf_iff
  refine ⟨⟨place, by rw [path, String.toList_append, toList_servicePath]; rfl⟩, found, ?_⟩
  intro kind id other otherId addressable otherAddressable same
  obtain ⟨address, asked, isAddress⟩ := (found kind id).2 addressable
  obtain ⟨again, otherAsked, isOther⟩ := (found other otherId).2 otherAddressable
  obtain rfl : address = again := by
    rw [asked, otherAsked] at same
    exact (List.cons.inj same).1
  exact isAddress.unique isOther

theorem scalarClient_opened :
    Client.open? "https://h.example" none scalarClient.transport = .ok scalarClient := by
  have base : baseAddress "https://h.example" = .ok scalarClient.base := by decide +kernel
  rw [Client.open?, base]
  rfl

theorem asked_iff_addressable_percent :
    Client.open? "https://h.example" none scalarClient.transport = .ok scalarClient ∧
      (∀ c ∈ "https://h.example".toList, c ≠ '?' ∧ c ≠ '#') ∧ scalarClient.base.host ≠ [] ∧
      Addressable scalarClient.base .query "50% é" ∧
      ∃ address, scalarClient.asked .query "50% é" = [address] ∧
        IsAddressOf scalarClient.base .query "50% é" address := by
  have plain : ∀ c ∈ "https://h.example".toList, c ≠ '?' ∧ c ≠ '#' := fun c member =>
    ⟨ne_of_mem_of_not_mem member (by decide), ne_of_mem_of_not_mem member (by decide)⟩
  have named : scalarClient.base.host ≠ [] := by decide +kernel
  have clean : ∀ c ∈ "50% é".toList, isControl c = false := fun c member =>
    Bool.eq_false_iff.2 (List.any_eq_false.1 (by decide) c member)
  have addressable : Addressable scalarClient.base .query "50% é" :=
    ⟨clean, by decide +kernel, by decide +kernel, by decide +kernel, by decide +kernel⟩
  have answers := Client.asked_iff_addressable scalarClient_opened plain named
  exact ⟨scalarClient_opened, plain, named, addressable, (answers.2.1 .query "50% é").2 addressable⟩

/-- The dots of an id lead to another object, of another kind. -/
theorem asked_elsewhere :
    Client.open? "https://h.example" none scalarClient.transport = .ok scalarClient ∧
      scalarClient.asked .query "../dashboards/d" = scalarClient.asked .dashboard "d" ∧
      ¬∃ address, scalarClient.asked .query "../dashboards/d" = [address] ∧
        IsAddressOf scalarClient.base .query "../dashboards/d" address := by
  have asked : scalarClient.asked .query "../dashboards/d" =
      [{ scalarClient.base with path := "/api/2.0/preview/sql/dashboards/d".toList }] := by
    decide +kernel
  refine ⟨scalarClient_opened, by decide +kernel, ?_⟩
  rintro ⟨address, here, found⟩
  rw [asked] at here
  obtain rfl := (List.cons.inj here).1
  obtain ⟨segment, path, -, -⟩ := found.path
  have below : scalarClient.base.path ++ placeOfKind .query <+:
      "/api/2.0/preview/sql/dashboards/d".toList := by
    refine ⟨segment, ?_⟩
    rw [List.append_assoc]
    exact path.symm
  exact absurd below (by decide +kernel)

end DashboardExport.Service
