import DashboardExport.Proofs.Service.Requests

/-!
# The address of a workspace

A client appends the place of the service to the address of a workspace.  Where that names a
host and has neither a query nor a fragment, the place of the service is the end of the path,
whatever dots the address has before it, and objects stand below it
(`directory_of_baseAddress`).
-/

set_option autoImplicit false

namespace DashboardExport.Service

open DashboardExport.Text Percent

/-! ## The place of the service -/

/-- A text without a query or a fragment that does not end with a slash. -/
structure Workspace (chars : List Char) : Prop where
  plain : ∀ c ∈ chars, c ≠ '?' ∧ c ≠ '#'
  ended : chars.getLast? ≠ some '/'

theorem Workspace.of_suffix {chars rest : List Char} (workspace : Workspace chars)
    (suffix : rest <:+ chars) : Workspace rest where
  plain := fun c member => workspace.plain c (suffix.subset member)
  ended := by
    obtain ⟨front, rfl⟩ := suffix
    cases rest with
    | nil => simp
    | cons c rest => simpa [List.getLast?_append] using workspace.ended

/-- The part of the service's place after its first slash. -/
def serviceParts : List Char := "api/2.0/preview/sql".toList

theorem toList_servicePath : servicePath.toList = '/' :: serviceParts := by decide

theorem exists_splitScheme (chars : List Char) :
    ∃ scheme rest, splitScheme (chars ++ '/' :: serviceParts) =
      (scheme, rest ++ '/' :: serviceParts) ∧ rest <:+ chars := by
  have noColon : ':' ∉ '/' :: serviceParts := by decide
  by_cases colon : ':' ∈ chars
  · obtain ⟨before, after, rfl, absent⟩ := List.eq_append_cons_of_mem colon
    have split : splitFirst ':' (before ++ ':' :: after ++ '/' :: serviceParts) =
        (before, some (after ++ '/' :: serviceParts)) := by
      rw [List.append_assoc, List.cons_append, splitFirst_mark absent]
    rw [splitScheme, split]
    simp only
    split
    · exact ⟨before, after, rfl, ⟨before ++ [':'], by simp⟩⟩
    · exact ⟨[], _, rfl, List.suffix_rfl⟩
  · have absent : ':' ∉ chars ++ '/' :: serviceParts := by
      rw [List.mem_append, not_or]
      exact ⟨colon, noColon⟩
    rw [splitScheme, splitFirst_of_not_mem absent]
    exact ⟨[], chars, rfl, List.suffix_rfl⟩

theorem exists_splitAuthority {chars : List Char} (workspace : Workspace chars) :
    ∃ authority rest, splitAuthority (chars ++ '/' :: serviceParts) =
      (authority, rest ++ '/' :: serviceParts) ∧ rest <:+ chars := by
  unfold splitAuthority
  split
  · next further same =>
      match chars, workspace, same with
      | [], _, same => exact absurd (List.cons.inj (List.cons.inj same).2).1 (by decide)
      | [c], workspace, same =>
          obtain rfl : c = '/' := (List.cons.inj same).1
          exact absurd rfl workspace.ended
      | c :: d :: rest, _, same =>
          obtain rfl : rest ++ '/' :: serviceParts = further :=
            (List.cons.inj (List.cons.inj same).2).2
          have stops :
              (rest ++ '/' :: serviceParts).dropWhile (fun c => !(['/', '?', '#'].contains c)) =
                rest.dropWhile (fun c => !(['/', '?', '#'].contains c)) ++ '/' :: serviceParts := by
            rw [List.dropWhile_append, List.dropWhile_cons_of_neg (by decide)]
            split
            · next empty => rw [List.isEmpty_iff.1 empty, List.nil_append]
            · rfl
          rw [List.span_eq_takeWhile_dropWhile, stops]
          refine ⟨_, _, rfl, (List.dropWhile_suffix _).trans ⟨[c, d], rfl⟩⟩
  · exact ⟨[], chars, rfl, List.suffix_rfl⟩

/-- **The place of the service** ends the path of an address. -/
theorem exists_path_of_workspace {chars : List Char} (workspace : Workspace chars) :
    ∃ place, (AddressParts.ofChars (chars ++ '/' :: serviceParts)).path =
        place ++ '/' :: serviceParts ∧
      (AddressParts.ofChars (chars ++ '/' :: serviceParts)).query = none ∧
      (AddressParts.ofChars (chars ++ '/' :: serviceParts)).fragment = none := by
  obtain ⟨scheme, afterScheme, isScheme, suffix⟩ := exists_splitScheme chars
  obtain ⟨authority, place, isAuthority, inner⟩ :=
    exists_splitAuthority (workspace.of_suffix suffix)
  have plain := (workspace.of_suffix (inner.trans suffix)).plain
  have noHash : '#' ∉ place ++ '/' :: serviceParts := by
    rw [List.mem_append, not_or]
    exact ⟨fun member => (plain '#' member).2 rfl, by decide⟩
  have noMark : '?' ∉ place ++ '/' :: serviceParts := by
    rw [List.mem_append, not_or]
    exact ⟨fun member => (plain '?' member).1 rfl, by decide⟩
  refine ⟨place, ?_⟩
  simp only [AddressParts.ofChars, isScheme, isAuthority, splitFirst_of_not_mem noHash,
    splitFirst_of_not_mem noMark, and_self]

/-- What is read below a place for a text that a host was named in. -/
theorem Address.Reads.hasAuthority_of_host {first second : Address} {target : List Char}
    (reads : Address.Reads (first.targetParts target) second) (named : second.host ≠ []) :
    first.hasAuthority = true := by
  by_contra none
  rw [Address.hasAuthority, Bool.not_eq_true, Bool.or_eq_false_iff, Bool.or_eq_false_iff] at none
  obtain ⟨⟨noUser, noHost⟩, noPort⟩ := none
  have authority : first.authority = [] := by
    simp only [Bool.not_eq_false', List.isEmpty_iff, Option.isSome_eq_false_iff,
      Option.isNone_iff_eq_none] at noUser noHost noPort
    simp [Address.authority, Address.hostChars, Address.portChars, noUser, noHost, noPort]
  have again := reads.host
  rw [Address.targetParts, authority] at again
  exact named (Except.ok.inj again).symm

/-- A path that an authority stands before begins with a slash. -/
theorem rooted_of_checkPath {path : List Char} {hasScheme : Bool}
    (fits : checkPath path hasScheme true = .ok ()) (something : path ≠ []) :
    path.head? = some '/' := by
  unfold checkPath at fits
  split at fits
  · cases fits
  · next unrooted =>
      simpa [something] using unrooted

/-- **The path of an address that has an authority**: it is rooted and encoded, it has no dots, and
what its end was given without dots is its end. -/
theorem Address.Reads.path_of_authority {parts : AddressParts} {address : Address}
    (reads : Address.Reads parts address) (authority : address.hasAuthority = true)
    {before after : List Char} (same : parts.path = before ++ '/' :: after)
    (dotless : Dotless after) (plain : ∀ c ∈ after, inPath c = true) :
    address.path.head? = some '/' ∧ Dotless address.path ∧ (∀ c ∈ address.path, inPath c = true) ∧
      ∃ place, address.path = place ++ '/' :: after := by
  have fits := reads.fits
  have path := reads.path
  rw [authority] at fits path
  rw [Bool.or_true, if_pos rfl] at path
  have rooted := rooted_of_checkPath fits (by rw [same]; simp)
  rw [same] at rooted path
  have start : before = [] ∨ before.head? = some '/' := by
    cases before with
    | nil => exact .inl rfl
    | cons c rest => exact .inr rooted
  obtain ⟨place, resolved, placeRooted⟩ := exists_resolveDots_append start dotless
  have slash : encode inPath ('/' :: after) = '/' :: after :=
    encode_of_plain (List.forall_mem_cons.2 ⟨by decide, plain⟩)
  have whole : address.path = encode inPath place ++ '/' :: after := by
    rw [path, resolved, encode_append, slash]
  refine ⟨?_, ?_, ?_, _, whole⟩
  · rw [whole]
    rcases placeRooted with rfl | placeRooted
    · rfl
    · obtain ⟨rest, rfl⟩ := List.head?_eq_some_iff.1 placeRooted
      rfl
  · rw [path, dotless_encode]
    exact dotless_resolveDots _
  · rw [path]
    exact fun c member => inPath_of_mem_encode member

theorem workspace_of_host {host : String} (plain : ∀ c ∈ host.toList, c ≠ '?' ∧ c ≠ '#') :
    Workspace (dropTrailing (· == '/') host.toList) where
  plain c member := by
    have inside := (List.dropWhile_suffix _).subset (List.mem_reverse.1 member)
    exact plain c (List.mem_reverse.1 inside)
  ended := by
    have ends := List.head?_dropWhile_not (· == '/') host.toList.reverse
    rw [dropTrailing, List.getLast?_reverse]
    intro slash
    rw [slash] at ends
    cases ends

theorem Address.hasAuthority_of_asDirectory {address result : Address}
    (made : address.asDirectory = .ok result) (named : result.host ≠ []) :
    address.hasAuthority = true := by
  unfold Address.asDirectory at made
  split at made
  · rw [Except.ok.inj made]
    exact hasAuthority_of_named named
  · exact (Address.withTarget_eq_ok_iff.1 made).2.hasAuthority_of_host named

/-- The place of the service gets a slash behind it. -/
theorem Address.asDirectory_of_path {address : Address} {start : List Char}
    (rooted : address.path.head? = some '/') (noQuery : address.query = none)
    (path : address.path = start ++ '/' :: serviceParts) :
    address.asDirectory = address.withTarget (address.path ++ ['/']) := by
  have target : address.target = address.path := target_of_rooted rooted noQuery
  have last : (address.target.getLast? == some '/') = false := by
    have letter : serviceParts.getLast? = some 'l' := by decide
    rw [target, path, List.getLast?_append, List.getLast?_cons, letter]
    rfl
  unfold Address.asDirectory
  rw [last, if_neg Bool.false_ne_true, target]

/-- What is behind a path that is encoded is no query. -/
theorem splitFirst_slashed {path : List Char} (plain : ∀ c ∈ path, inPath c = true) :
    splitFirst '?' (path ++ ['/']) = (path ++ ['/'], none) := by
  refine splitFirst_of_not_mem fun member => ?_
  rcases List.mem_append.1 member with member | member
  · exact absurd (plain '?' member) (by decide)
  · exact absurd (List.mem_singleton.1 member) (by decide)

/-- **A workspace's address is one that objects stand below.** -/
theorem directory_of_baseAddress {host : String} {base : Address}
    (made : baseAddress host = .ok base) (plain : ∀ c ∈ host.toList, c ≠ '?' ∧ c ≠ '#')
    (named : base.host ≠ []) :
    Directory base ∧ ∃ place, base.path = place ++ '/' :: (serviceParts ++ ['/']) := by
  obtain ⟨first, readsText, made⟩ := except_bind_eq_ok_iff.1 made
  obtain ⟨-, -, reads⟩ := ofText_eq_ok_iff.1 readsText
  rw [String.toList_append, String.toList_ofList, toList_servicePath] at reads
  obtain ⟨place, path, query, fragment⟩ := exists_path_of_workspace (workspace_of_host plain)
  -- The host is read first, and what is made of it is read again with a slash behind the path.
  obtain ⟨firstRooted, -, firstPlain, start, firstPath⟩ :=
    reads.path_of_authority (Address.hasAuthority_of_asDirectory made named) path (by decide)
      (List.all_eq_true.1 (by decide))
  have noQuery : first.query = none := by
    rw [reads.query, query]
    rfl
  rw [Address.asDirectory_of_path firstRooted noQuery firstPath] at made
  have split := splitFirst_slashed firstPlain
  obtain ⟨-, again⟩ := Address.withTarget_eq_ok_iff.1 made
  have written : (first.targetParts (first.path ++ ['/'])).path =
      start ++ '/' :: (serviceParts ++ ['/']) := by
    rw [Address.targetParts, split, firstPath, List.append_assoc, List.cons_append]
  obtain ⟨rooted, dotless, basePlain, placeOfBase, basePath⟩ :=
    again.path_of_authority (hasAuthority_of_named named) written (by decide)
      (List.all_eq_true.1 (by decide))
  refine ⟨⟨?_, named, rooted, basePlain, ?_, ?_, ?_⟩, placeOfBase, basePath⟩
  · exact Address.settled_of_withTarget reads.written made
  · refine ⟨placeOfBase ++ '/' :: serviceParts, by rw [basePath]; simp, ?_⟩
    have whole : base.path = (placeOfBase ++ '/' :: serviceParts) ++ '/' :: [] := by
      rw [basePath]
      simp
    rw [whole] at dotless
    exact (dotless_slash.1 dotless).1
  · rw [again.query, Address.targetParts, split]
    rfl
  · rw [again.fragment, Address.targetParts, reads.fragment, fragment]
    rfl

end DashboardExport.Service
