import DashboardExport.Proofs.Service.Hosts
import DashboardExport.Proofs.Text.Integers

/-!
# Addresses read again

An address is put together from its parts and taken apart again each time something is
appended to it.  What reading the parts gives is said once (`Address.ofParts_eq_ok_iff`), and
it is always in its one form (`Address.Written`), so its authority is taken apart as it was
put together (`Address.ofChars_authority`).

The one form is not yet what is read the second time: a host may have capitals in the
escapes it was given, and a scheme that was written in capitals did not imply its port.  An
address that was read from another address is settled: from then on, what is appended is
all that changes (`Address.settled_of_withTarget`).
-/

set_option autoImplicit false

namespace DashboardExport.Service

open DashboardExport.Text Percent

/-! ## Marks -/

theorem splitFirst_of_not_mem {mark : Char} {chars : List Char} (absent : mark ∉ chars) :
    splitFirst mark chars = (chars, none) := by
  have each : ∀ c ∈ chars, (c != mark) = true := fun c member =>
    bne_iff_ne.2 fun same => absent (same ▸ member)
  rw [splitFirst, List.span_eq_takeWhile_dropWhile, List.takeWhile_eq_self_iff.2 each,
    List.dropWhile_eq_nil_iff.2 each]

theorem splitFirst_mark {mark : Char} {before : List Char} (absent : mark ∉ before)
    (after : List Char) : splitFirst mark (before ++ mark :: after) = (before, some after) := by
  have each : ∀ c ∈ before, (c != mark) = true := fun c member =>
    bne_iff_ne.2 fun same => absent (same ▸ member)
  rw [splitFirst, List.span_eq_takeWhile_dropWhile, List.takeWhile_append_of_pos each,
    List.dropWhile_append_of_pos each, List.takeWhile_cons_of_neg (by simp),
    List.dropWhile_cons_of_neg (by simp), List.append_nil]

theorem splitLast?_of_not_mem {mark : Char} {chars : List Char} (absent : mark ∉ chars) :
    splitLast? mark chars = none := by
  rw [splitLast?, splitFirst_of_not_mem (by simpa using absent)]

theorem splitLast?_mark {mark : Char} {after : List Char} (absent : mark ∉ after)
    (before : List Char) : splitLast? mark (before ++ mark :: after) = some (before, after) := by
  rw [splitLast?, List.reverse_append, List.reverse_cons, List.append_assoc,
    List.singleton_append, splitFirst_mark (by simpa using absent)]
  simp

/-- A text that has a mark is split at the last one. -/
theorem exists_last_mark {mark : Char} {chars : List Char} (present : mark ∈ chars) :
    ∃ before after, chars = before ++ mark :: after ∧ mark ∉ after := by
  obtain ⟨left, right, same, absent⟩ := List.eq_append_cons_of_mem (List.mem_reverse.2 present)
  refine ⟨right.reverse, left.reverse, ?_, by simpa using absent⟩
  rw [← List.reverse_reverse chars, same]
  simp

/-! ## Authorities -/

namespace AuthorityParts

/-- The user information stands before the last sign. -/
theorem ofChars_user {rest : List Char} (absent : '@' ∉ rest) (user : List Char) :
    ofChars (user ++ '@' :: rest) = { ofChars rest with userInfo := user } := by
  simp only [ofChars, splitLast?_mark absent, splitLast?_of_not_mem absent, Option.getD_some,
    Option.getD_none]

/-- A host has no sign for user information. -/
theorem at_not_mem_host (chars : List Char) : '@' ∉ (ofChars chars).host := by
  have without {rest : List Char} (absent : '@' ∉ rest) : '@' ∉ (ofChars rest).host := by
    simp only [ofChars, splitLast?_of_not_mem absent, Option.getD_none]
    cases bracketed : splitBracketed? rest with
    | none =>
        rw [Option.getD_none, List.span_eq_takeWhile_dropWhile]
        exact fun member => absent ((List.takeWhile_sublist _).subset member)
    | some parts =>
        unfold splitBracketed? at bracketed
        split at bracketed
        · next inside =>
            obtain ⟨split, isSplit, rfl⟩ := Option.map_eq_some_iff.1 bracketed
            by_cases closes : ']' ∈ '[' :: inside
            · obtain ⟨before, after, same, last⟩ := exists_last_mark closes
              rw [same] at absent isSplit
              rw [splitLast?_mark last] at isSplit
              cases isSplit
              simp only [Option.getD_some]
              rw [List.mem_append, not_or] at absent ⊢
              exact ⟨absent.1, by decide⟩
            · rw [splitLast?_of_not_mem closes] at isSplit
              cases isSplit
        · cases bracketed
  by_cases user : '@' ∈ chars
  · obtain ⟨before, rest, rfl, absent⟩ := exists_last_mark user
    rw [ofChars_user absent]
    exact without absent
  · exact without user

/-- A name ends before the port. -/
theorem ofChars_name {host : List Char} (plain : ∀ c ∈ host, inHost c = true)
    {port : Option (List Char)} (absent : '@' ∉ Address.marked ':' port) :
    ofChars (host ++ Address.marked ':' port) = { userInfo := [], host, port := port.getD [] } := by
  have noUser : '@' ∉ host ++ Address.marked ':' port := by
    rw [List.mem_append, not_or]
    exact ⟨fun member => absurd (plain '@' member) (by decide), absent⟩
  have noBracket : splitBracketed? (host ++ Address.marked ':' port) = none := by
    unfold splitBracketed?
    split
    · next inside opens =>
        cases host with
        | nil => cases port <;> cases opens
        | cons c rest =>
            cases opens
            exact absurd (plain '[' List.mem_cons_self) (by decide)
    · rfl
  have each : ∀ c ∈ host, (c != ':' && c != '@') = true := by
    intro c member
    rw [Bool.and_eq_true, bne_iff_ne, bne_iff_ne]
    constructor <;> rintro rfl <;> exact absurd (plain _ member) (by decide)
  have stops : (host ++ Address.marked ':' port).span (fun c => c != ':' && c != '@') =
      (host, Address.marked ':' port) := by
    have next : (Address.marked ':' port).takeWhile (fun c => c != ':' && c != '@') = [] ∧
        (Address.marked ':' port).dropWhile (fun c => c != ':' && c != '@') =
          Address.marked ':' port := by
      cases port with
      | none => exact ⟨rfl, rfl⟩
      | some text =>
          exact ⟨List.takeWhile_cons_of_neg (by simp), List.dropWhile_cons_of_neg (by simp)⟩
    rw [List.span_eq_takeWhile_dropWhile, List.takeWhile_append_of_pos each,
      List.dropWhile_append_of_pos each, next.1, next.2, List.append_nil]
  simp only [ofChars, splitLast?_of_not_mem noUser, Option.getD_none, noBracket, stops]
  cases port <;> rfl

/-- A bracketed number ends before the port. -/
theorem ofChars_number {number : List Char} (noSign : '@' ∉ number) {port : Option (List Char)}
    (absent : '@' ∉ Address.marked ':' port) (noBracket : ']' ∉ Address.marked ':' port) :
    ofChars ('[' :: (number ++ [']']) ++ Address.marked ':' port) =
      { userInfo := [], host := '[' :: (number ++ [']']), port := port.getD [] } := by
  have whole : '[' :: (number ++ [']']) ++ Address.marked ':' port =
      ('[' :: number) ++ ']' :: Address.marked ':' port := by simp
  have noUser : '@' ∉ ('[' :: number) ++ ']' :: Address.marked ':' port := by
    simp [noSign, absent]
  have bracketed : splitBracketed? (('[' :: number) ++ ']' :: Address.marked ':' port) =
      some ('[' :: number ++ [']'], Address.marked ':' port) := by
    rw [List.cons_append, splitBracketed?, ← List.cons_append, splitLast?_mark noBracket]
    rfl
  rw [whole]
  simp only [ofChars, splitLast?_of_not_mem noUser, Option.getD_none, bracketed, Option.getD_some]
  cases port <;> rfl

end AuthorityParts

/-! ## Written addresses -/

namespace Address

/-- The port as it is written. -/
def portText (address : Address) : Option (List Char) :=
  address.port.map fun port => (toString port).toList

/-- What is known of the scheme and the authority of an address in its one form. -/
structure Written (address : Address) : Prop where
  scheme : address.scheme.map Char.toLower = address.scheme
  userInfo : ∀ c ∈ address.userInfo, inUserInfo c = true
  /-- The host is a name, or a number that is read in brackets. -/
  host : (∀ c ∈ address.host, inHost c = true) ∨
    (readHost ('[' :: (address.host ++ [']'])) = .ok address.host ∧ ':' ∈ address.host ∧
      '@' ∉ address.host)
  port : ∀ port, address.port = some port →
    (Nat.toDigits 10 port.natAbs).length ≤ decimalDigitLimit

theorem portChars_eq (address : Address) :
    address.portChars = marked ':' address.portText := by
  unfold portChars portText
  cases address.port <;> rfl

theorem not_mem_portChars {address : Address} {c : Char} (noColon : c ≠ ':') (noSign : c ≠ '-')
    (noDigit : c.isDigit = false) : c ∉ marked ':' address.portText := by
  unfold portText
  cases address.port with
  | none => exact List.not_mem_nil
  | some port =>
      intro member
      rcases List.mem_cons.1 member with same | member
      · exact noColon same
      · have digits : c ∈ (toString port).toList := member
        have other : c ∉ Nat.toDigits 10 port.natAbs := fun digit => by
          rw [Json.digits_toDigits _ c digit] at noDigit
          cases noDigit
        rw [Json.toList_toString_int] at digits
        split_ifs at digits
        · exact (List.mem_cons.1 digits).elim noSign other
        · exact other digits

/-- **The authority of an address is taken apart as it was put together.** -/
theorem ofChars_authority {address : Address} (written : Written address) :
    AuthorityParts.ofChars address.authority =
      { userInfo := address.userInfo, host := address.hostChars
        port := address.portText.getD [] } := by
  have noSign : '@' ∉ marked ':' address.portText :=
    not_mem_portChars (by decide) (by decide) (by decide)
  have noBracket : ']' ∉ marked ':' address.portText :=
    not_mem_portChars (by decide) (by decide) (by decide)
  have place : '@' ∉ address.hostChars ++ marked ':' address.portText ∧
      AuthorityParts.ofChars (address.hostChars ++ marked ':' address.portText) =
        { userInfo := [], host := address.hostChars, port := address.portText.getD [] } := by
    unfold hostChars
    rcases written.host with plain | ⟨-, colon, noUser⟩
    · have noColon : address.host.contains ':' = false := by
        rw [Bool.eq_false_iff, ne_eq, List.contains_iff_mem]
        exact fun member => absurd (plain ':' member) (by decide)
      rw [noColon, if_neg Bool.false_ne_true]
      refine ⟨?_, AuthorityParts.ofChars_name plain noSign⟩
      rw [List.mem_append, not_or]
      exact ⟨fun member => absurd (plain '@' member) (by decide), noSign⟩
    · rw [if_pos (List.contains_iff_mem.2 colon)]
      exact ⟨by simp [noUser, noSign], AuthorityParts.ofChars_number noUser noSign noBracket⟩
  obtain ⟨absent, parts⟩ := place
  rw [authority, portChars_eq, List.append_assoc]
  split
  · next empty => rw [List.nil_append, parts, List.isEmpty_iff.1 empty]
  · rw [List.append_assoc, List.singleton_append, AuthorityParts.ofChars_user absent, parts]

/-! ## What is read -/

/-- Whether an address has a scheme. -/
def hasScheme (address : Address) : Bool := !address.scheme.isEmpty

/-- Whether an address has an authority. -/
def hasAuthority (address : Address) : Bool :=
  !address.userInfo.isEmpty || !address.host.isEmpty || address.port.isSome

/-- The address that parts are read as. -/
structure Reads (parts : AddressParts) (address : Address) : Prop where
  scheme : address.scheme = parts.scheme.map Char.toLower
  userInfo : address.userInfo =
    encode inUserInfo (AuthorityParts.ofChars parts.authority).userInfo
  host : readHost (AuthorityParts.ofChars parts.authority).host = .ok address.host
  port : readPort parts.scheme (AuthorityParts.ofChars parts.authority).port = .ok address.port
  fits : checkPath parts.path address.hasScheme address.hasAuthority = .ok ()
  path : address.path = encode inPath
    (if address.hasScheme || address.hasAuthority then resolveDots parts.path else parts.path)
  query : address.query = parts.query.map (encode inQuery)
  fragment : address.fragment = parts.fragment.map (encode inFragment)

/-- **What reading the parts of an address gives.** -/
theorem ofParts_eq_ok_iff {parts : AddressParts} {address : Address} :
    ofParts parts = .ok address ↔ Reads parts address := by
  unfold ofParts
  simp only [except_bind_eq_ok_iff]
  constructor
  · rintro ⟨host, readsHost, port, readsPort, _, fits, made⟩
    cases made
    exact ⟨rfl, rfl, readsHost, readsPort, fits, rfl, rfl, rfl⟩
  · rintro ⟨scheme, userInfo, host, port, fits, path, query, fragment⟩
    refine ⟨_, host, _, port, (), ?_, ?_⟩
    · rw [← scheme, ← userInfo]
      exact fits
    · rw [← scheme, ← userInfo, ← query, ← fragment]
      exact congrArg (fun path => Except.ok { address with path }) path.symm

theorem readPort_eq_ok {scheme text : List Char} {port : Int}
    (read : readPort scheme text = .ok (some port)) :
    (Nat.toDigits 10 port.natAbs).length ≤ decimalDigitLimit ∧ impliedPort? scheme ≠ some port := by
  unfold readPort at read
  split at read
  · cases read
  split at read
  · cases read
  · next number isNumber =>
      split at read
      · cases read
      · next other =>
          cases read
          exact ⟨length_toDigits_of_readInteger isNumber, other⟩

/-- A port that was read is read again from the way it is written. -/
theorem readPort_toString {scheme : List Char} {port : Int}
    (short : (Nat.toDigits 10 port.natAbs).length ≤ decimalDigitLimit) :
    readPort scheme (toString port).toList =
      .ok (if impliedPort? scheme = some port then none else some port) := by
  have something : (toString port).toList.isEmpty = false := by
    rw [List.isEmpty_eq_false_iff, Json.toList_toString_int]
    split_ifs
    · exact List.cons_ne_nil _ _
    · exact Nat.toDigits_ne_nil
  rw [readPort, something, if_neg Bool.false_ne_true, String.ofList_toList,
    readInteger_toString short]

/-- **What is read is in its one form.** -/
theorem Reads.written {parts : AddressParts} {address : Address} (reads : Reads parts address) :
    Written address where
  scheme := by
    rw [reads.scheme, List.map_map]
    exact List.map_congr_left fun c _ => toLower_toLower c
  userInfo := by
    rw [reads.userInfo]
    exact fun c member => plain_of_mem_encode (plain_of_isEscapeChar (by decide)) member
  host := by
    rcases readHost_eq_ok reads.host with plain | ⟨same, colon⟩
    · exact .inl plain
    · have noUser := AuthorityParts.at_not_mem_host parts.authority
      rw [same] at noUser
      refine .inr ⟨same ▸ reads.host, colon, fun member => noUser ?_⟩
      simp [member]
  port := fun _ same => (readPort_eq_ok (same ▸ reads.port)).1

/-! ## Reading again -/

/-- The parts of an address with another path and query. -/
def targetParts (address : Address) (target : List Char) : AddressParts where
  scheme := address.scheme
  authority := address.authority
  path := (splitFirst '?' target).1
  query := (splitFirst '?' target).2
  fragment := address.fragment

theorem withTarget_eq_ok_iff {address result : Address} {target : List Char} :
    address.withTarget target = .ok result ↔
      (∀ part ∈ limitedParts (address.targetParts target), part.2.length ≤ lengthLimit) ∧
        Reads (address.targetParts target) result := by
  have limits : (limitedParts (address.targetParts target)).find?
      (fun part => lengthLimit < part.2.length) = none ↔
      ∀ part ∈ limitedParts (address.targetParts target), part.2.length ≤ lengthLimit := by
    simp
  rw [← limits, ← ofParts_eq_ok_iff]
  rcases same : splitFirst '?' target with ⟨path, query⟩
  simp only [withTarget, targetParts, same]
  split
  · next part found => simp [found]
  · next fits => simp [fits]

/-- An address that is read again as it is, as far as scheme and authority go. -/
structure Settled (address : Address) : Prop extends Written address where
  hostAgain : readHost address.hostChars = .ok address.host
  portAgain : readPort address.scheme (address.portText.getD []) = .ok address.port
  schemeFits : address.scheme.length ≤ lengthLimit
  authorityFits : address.authority.length ≤ lengthLimit

theorem hostChars_of_inHost {address : Address} (plain : ∀ c ∈ address.host, inHost c = true) :
    address.hostChars = address.host := by
  refine if_neg fun colon => ?_
  exact absurd (plain ':' (List.contains_iff_mem.1 colon)) (by decide)

theorem hostChars_of_colon {address : Address} (colon : ':' ∈ address.host) :
    address.hostChars = '[' :: (address.host ++ [']']) :=
  if_pos (List.contains_iff_mem.2 colon)

/-- **What an address is read as that is in its one form**: capitals may be left in the escapes of
its host, and its scheme may imply its port. -/
theorem Reads.host_again {first second : Address} {target : List Char} (written : Written first)
    (reads : Reads (first.targetParts target) second) :
    second.hostChars.length = first.hostChars.length ∧
      readHost second.hostChars = .ok second.host := by
  have again := reads.host
  simp only [targetParts, ofChars_authority written] at again
  rcases written.host with plain | ⟨number, colon, -⟩
  · rw [hostChars_of_inHost plain] at again ⊢
    obtain ⟨secondPlain, length, same⟩ := readHost_of_inHost plain again
    rw [hostChars_of_inHost secondPlain]
    exact ⟨length, same⟩
  · rw [hostChars_of_colon colon, number] at again
    have same := Except.ok.inj again
    rw [hostChars_of_colon colon, hostChars_of_colon (same ▸ colon), ← same]
    exact ⟨rfl, number⟩

theorem Reads.port_again {first second : Address} {target : List Char} (written : Written first)
    (reads : Reads (first.targetParts target) second) :
    second.portChars.length ≤ first.portChars.length ∧
      readPort second.scheme (second.portText.getD []) = .ok second.port := by
  have again := reads.port
  simp only [targetParts, ofChars_authority written] at again
  have scheme : second.scheme = first.scheme := reads.scheme.trans written.scheme
  rw [scheme]
  cases here : second.port with
  | none => simp [portChars, portText, here, readPort]
  | some port =>
      obtain ⟨short, other⟩ := readPort_eq_ok (here ▸ again)
      have given : first.port = some port := by
        cases there : first.port with
        | none =>
            rw [portText, there, here] at again
            cases again
        | some number =>
            simp only [portText, there, Option.map_some, Option.getD_some, here] at again
            rw [readPort_toString (written.port number there)] at again
            split at again
            · cases again
            · exact Except.ok.inj again
      constructor
      · rw [portChars, portChars, here, given]
      · simp only [portText, here, Option.map_some, Option.getD_some]
        rw [readPort_toString short, if_neg other]

/-- **An address that is read from another one is settled.** -/
theorem settled_of_withTarget {first second : Address} {target : List Char}
    (written : Written first) (made : first.withTarget target = .ok second) : Settled second := by
  obtain ⟨limits, reads⟩ := withTarget_eq_ok_iff.1 made
  have scheme : second.scheme = first.scheme := reads.scheme.trans written.scheme
  have userInfo : second.userInfo = first.userInfo := by
    rw [reads.userInfo]
    simp only [targetParts, ofChars_authority written]
    exact encode_of_plain written.userInfo
  obtain ⟨hostLength, hostAgain⟩ := reads.host_again written
  obtain ⟨portLength, portAgain⟩ := reads.port_again written
  refine { reads.written with hostAgain, portAgain, schemeFits := ?_, authorityFits := ?_ }
  · rw [scheme]
    exact limits ("scheme", first.scheme) (by simp [limitedParts, targetParts])
  · have first_fits := limits ("authority", first.authority) (by simp [limitedParts, targetParts])
    simp only [authority, List.length_append, userInfo] at first_fits ⊢
    omega

end Address

end DashboardExport.Service
