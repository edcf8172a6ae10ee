import DashboardExport.Text.Encoding
import Mathlib.Data.Nat.Notation

/-!
# Reading UTF-8

One step of the reader takes a byte and some of the bytes after it that continue a sequence,
and gives one entry for them (`takes_decodeUtf8`).  A byte that continues a sequence
where none has begun is an entry of its own, so a byte put in front adds at most one entry
(`length_decodeUtf8_cons_le`), and the bytes of a character are read as that character,
whatever comes after them (`decodeUtf8_utf8EncodeChar`).  So the bytes of a text are read as
its characters (`charsOf_eq`), and it can be encoded unless a lone surrogate is among them
(`encodeUtf8_eq_ok_iff`).
-/

set_option autoImplicit false

namespace DashboardExport.Text

/-! ## Bytes that continue a sequence -/

theorem isContinuation_iff {byte : UInt8} :
    isContinuation byte = true ↔ 0x80 ≤ byte.toNat ∧ byte.toNat ≤ 0xBF := by
  simp [isContinuation, UInt8.le_iff_toNat_le]

theorem fitsSecond_iff {first second : UInt8} :
    fitsSecond first second = true ↔ isContinuation second = true ∧
      (first.toNat = 0xE0 → 0xA0 ≤ second.toNat) ∧ (first.toNat = 0xED → second.toNat < 0xA0) ∧
      (first.toNat = 0xF0 → 0x90 ≤ second.toNat) ∧ (first.toNat = 0xF4 → second.toNat < 0x90) := by
  simp only [fitsSecond, Bool.and_eq_true, Bool.not_eq_true', Bool.and_eq_false_iff,
    beq_eq_false_iff_ne, decide_eq_false_iff_not, UInt8.lt_iff_toNat_lt, UInt8.le_iff_toNat_le,
    ne_eq, ← UInt8.toNat_inj, UInt8.reduceToNat, and_assoc]
  refine and_congr_right fun _ => ?_
  omega

/-! ## One step -/

/-- What a step of the reader gives: one entry for the byte that it begins with and some bytes that
continue a sequence, before the entries of the bytes that are left. -/
def Takes (rest : List UInt8) (entries : List (Option Char)) : Prop :=
  ∃ entry taken remaining, rest = taken ++ remaining ∧
    (∀ next ∈ taken, isContinuation next = true) ∧ entries = entry :: decodeUtf8 remaining

theorem takes_nothing (entry : Option Char) (rest : List UInt8) :
    Takes rest (entry :: decodeUtf8 rest) := ⟨entry, [], rest, rfl, nofun, rfl⟩

theorem Takes.cons {next : UInt8} {rest : List UInt8} {entries : List (Option Char)}
    (continues : isContinuation next = true) (takes : Takes rest entries) :
    Takes (next :: rest) entries := by
  obtain ⟨entry, taken, remaining, rfl, all, same⟩ := takes
  exact ⟨entry, next :: taken, remaining, rfl, List.forall_mem_cons.2 ⟨continues, all⟩, same⟩

/-- **What a step of the reader takes**: besides the first byte only bytes that continue a
sequence. -/
theorem takes_decodeUtf8 (byte : UInt8) (rest : List UInt8) :
    Takes rest (decodeUtf8 (byte :: rest)) := by
  rw [decodeUtf8.eq_def]
  simp only
  -- One case for each form of a first byte, and in it one for each byte that may be missing.
  split
  · exact takes_nothing _ rest
  split
  · cases rest with
    | nil => exact takes_nothing none []
    | cons second rest =>
        dsimp only
        split
        · next continues => exact (takes_nothing _ rest).cons continues
        · exact takes_nothing none _
  split
  · cases rest with
    | nil => exact takes_nothing none []
    | cons second rest =>
        dsimp only
        split
        · next fits =>
            refine Takes.cons (fitsSecond_iff.1 fits).1 ?_
            cases rest with
            | nil => exact takes_nothing none []
            | cons third rest =>
                dsimp only
                split
                · next continues => exact (takes_nothing _ rest).cons continues
                · exact takes_nothing none _
        · exact takes_nothing none _
  split
  · cases rest with
    | nil => exact takes_nothing none []
    | cons second rest =>
        dsimp only
        split
        · next fits =>
            refine Takes.cons (fitsSecond_iff.1 fits).1 ?_
            cases rest with
            | nil => exact takes_nothing none []
            | cons third rest =>
                dsimp only
                split
                · next continues =>
                    refine Takes.cons continues ?_
                    cases rest with
                    | nil => exact takes_nothing none []
                    | cons fourth rest =>
                        dsimp only
                        split
                        · next ends => exact (takes_nothing _ rest).cons ends
                        · exact takes_nothing none _
                · exact takes_nothing none _
        · exact takes_nothing none _
  · exact takes_nothing none rest

theorem decodeUtf8_ascii {byte : UInt8} (ascii : byte.toNat < 128) (rest : List UInt8) :
    decodeUtf8 (byte :: rest) = some (Char.ofNat byte.toNat) :: decodeUtf8 rest := by
  rw [decodeUtf8.eq_def]
  exact if_pos (UInt8.lt_iff_toNat_lt.2 ascii)

/-! ## The number of entries -/

/-- A sequence does not begin with a byte that continues one. -/
theorem decodeUtf8_continuation {byte : UInt8} (continues : isContinuation byte = true)
    (rest : List UInt8) : decodeUtf8 (byte :: rest) = none :: decodeUtf8 rest := by
  obtain ⟨low, high⟩ := isContinuation_iff.1 continues
  rw [decodeUtf8.eq_def]
  simp only [UInt8.lt_iff_toNat_lt, UInt8.le_iff_toNat_le, UInt8.reduceToNat, Bool.and_eq_true,
    decide_eq_true_eq]
  rw [if_neg (by omega), if_neg (by omega), if_neg (by omega), if_neg (by omega)]

theorem length_decodeUtf8_continuations {taken : List UInt8}
    (all : ∀ byte ∈ taken, isContinuation byte = true) (rest : List UInt8) :
    (decodeUtf8 (taken ++ rest)).length = taken.length + (decodeUtf8 rest).length := by
  induction taken with
  | nil => simp
  | cons byte taken ih =>
      obtain ⟨here, later⟩ := List.forall_mem_cons.1 all
      rw [List.cons_append, decodeUtf8_continuation here, List.length_cons, ih later,
        List.length_cons]
      omega

/-- **A byte put in front adds at most one entry.** -/
theorem length_decodeUtf8_cons_le (byte : UInt8) (rest : List UInt8) :
    (decodeUtf8 (byte :: rest)).length ≤ (decodeUtf8 rest).length + 1 := by
  obtain ⟨entry, taken, remaining, rfl, all, step⟩ := takes_decodeUtf8 byte rest
  rw [step, List.length_cons, length_decodeUtf8_continuations all]
  omega

/-! ## Characters -/

theorem decodeUtf8_two {first second : UInt8} (low : 0xC2 ≤ first.toNat)
    (high : first.toNat ≤ 0xDF) (continues : isContinuation second = true) (rest : List UInt8) :
    decodeUtf8 (first :: second :: rest) =
      some (joinBits (first.toNat % 32) [second]) :: decodeUtf8 rest := by
  rw [decodeUtf8.eq_def]
  simp only [UInt8.lt_iff_toNat_lt, UInt8.le_iff_toNat_le, UInt8.reduceToNat, Bool.and_eq_true,
    decide_eq_true_eq]
  rw [if_neg (by omega), if_pos ⟨low, high⟩, if_pos continues]

theorem decodeUtf8_three {first second third : UInt8} (low : 0xE0 ≤ first.toNat)
    (high : first.toNat ≤ 0xEF) (fits : fitsSecond first second = true)
    (continues : isContinuation third = true) (rest : List UInt8) :
    decodeUtf8 (first :: second :: third :: rest) =
      some (joinBits (first.toNat % 16) [second, third]) :: decodeUtf8 rest := by
  rw [decodeUtf8.eq_def]
  simp only [UInt8.lt_iff_toNat_lt, UInt8.le_iff_toNat_le, UInt8.reduceToNat, Bool.and_eq_true,
    decide_eq_true_eq]
  rw [if_neg (by omega), if_neg (by omega), if_pos ⟨low, high⟩, if_pos fits, if_pos continues]

theorem decodeUtf8_four {first second third fourth : UInt8} (low : 0xF0 ≤ first.toNat)
    (high : first.toNat ≤ 0xF4) (fits : fitsSecond first second = true)
    (continues : isContinuation third = true) (ends : isContinuation fourth = true)
    (rest : List UInt8) :
    decodeUtf8 (first :: second :: third :: fourth :: rest) =
      some (joinBits (first.toNat % 8) [second, third, fourth]) :: decodeUtf8 rest := by
  rw [decodeUtf8.eq_def]
  simp only [UInt8.lt_iff_toNat_lt, UInt8.le_iff_toNat_le, UInt8.reduceToNat, Bool.and_eq_true,
    decide_eq_true_eq]
  rw [if_neg (by omega), if_neg (by omega), if_neg (by omega), if_pos ⟨low, high⟩, if_pos fits,
    if_pos continues, if_pos ends]

theorem toNat_byte {value : Nat} (small : value < 256) : (UInt8.ofNat value).toNat = value := by
  rw [UInt8.toNat_ofNat']
  exact Nat.mod_eq_of_lt small

/-- A byte that carries six bits continues a sequence. -/
theorem isContinuation_bits (value : Nat) :
    isContinuation (UInt8.ofNat (value % 64 + 128)) = true := by
  rw [isContinuation_iff, toNat_byte (by omega)]
  omega

/-- **The bytes of a character are read as that character.** -/
theorem decodeUtf8_utf8EncodeChar (c : Char) (rest : List UInt8) :
    decodeUtf8 (String.utf8EncodeChar c ++ rest) = some c :: decodeUtf8 rest := by
  have valid : c.toNat < 0xD800 ∨ (0xDFFF < c.toNat ∧ c.toNat < 0x110000) := c.valid
  have whole {code : Nat} (same : code = c.toNat) : Char.ofNat code = c := by
    rw [same, Char.ofNat_toNat]
  have value : c.val.toNat = c.toNat := rfl
  unfold String.utf8EncodeChar
  simp only [value]
  split
  · rw [List.singleton_append, decodeUtf8_ascii (by rw [toNat_byte] <;> omega),
      toNat_byte (by omega), whole rfl]
  split
  · simp only [List.cons_append, List.nil_append]
    rw [decodeUtf8_two, joinBits, whole]
    · simp only [List.foldl_cons, List.foldl_nil]
      rw [toNat_byte (by omega), toNat_byte (by omega)]
      omega
    · rw [toNat_byte (by omega)]
      omega
    · rw [toNat_byte (by omega)]
      omega
    · exact isContinuation_bits _
  split
  · simp only [List.cons_append, List.nil_append]
    rw [decodeUtf8_three, joinBits, whole]
    · simp only [List.foldl_cons, List.foldl_nil]
      rw [toNat_byte (by omega), toNat_byte (by omega), toNat_byte (by omega)]
      omega
    · rw [toNat_byte (by omega)]
      omega
    · rw [toNat_byte (by omega)]
      omega
    · refine fitsSecond_iff.2 ⟨isContinuation_bits _, ?_⟩
      rw [toNat_byte (by omega), toNat_byte (by omega)]
      omega
    · exact isContinuation_bits _
  · simp only [List.cons_append, List.nil_append]
    rw [decodeUtf8_four, joinBits, whole]
    · simp only [List.foldl_cons, List.foldl_nil]
      rw [toNat_byte (by omega), toNat_byte (by omega), toNat_byte (by omega),
        toNat_byte (by omega)]
      omega
    · rw [toNat_byte (by omega)]
      omega
    · rw [toNat_byte (by omega)]
      omega
    · refine fitsSecond_iff.2 ⟨isContinuation_bits _, ?_⟩
      rw [toNat_byte (by omega), toNat_byte (by omega)]
      omega
    · exact isContinuation_bits _
    · exact isContinuation_bits _

/-! ## Texts -/

theorem decodeUtf8_flatMap (chars : List Char) :
    decodeUtf8 (chars.flatMap String.utf8EncodeChar) = chars.map some := by
  induction chars with
  | nil => rfl
  | cons c rest ih => rw [List.flatMap_cons, decodeUtf8_utf8EncodeChar, ih, List.map_cons]

/-- **The bytes of a text are read as its characters.** -/
theorem charsOf_eq (text : String) : charsOf text = text.toList := by
  have bytes : text.toUTF8.data.toList = text.toList.flatMap String.utf8EncodeChar := by
    obtain ⟨chars, rfl⟩ : ∃ chars, text = String.ofList chars := ⟨_, String.ofList_toList.symm⟩
    show (String.ofList chars).toByteArray.data.toList = _
    rw [String.toList_ofList, String.toByteArray_ofList, List.utf8Encode, List.data_toByteArray]
  rw [charsOf, bytes, decodeUtf8_flatMap, List.filterMap_map]
  exact List.filterMap_some

/-- **A text can be encoded when it holds no lone surrogate**, and then it is encoded as it is. -/
theorem encodeUtf8_eq_ok_iff {text : String} {contents : List UInt8} :
    encodeUtf8 text = .ok contents ↔
      (∀ c ∈ text.toList, isStandIn c = false) ∧ contents = text.toUTF8.toList := by
  rw [encodeUtf8, ← charsOf_eq, ← unencodable?_eq_none_iff]
  cases unencodable? isStandIn (charsOf text) with
  | none => simp [eq_comm]
  | some fault => simp

end DashboardExport.Text
