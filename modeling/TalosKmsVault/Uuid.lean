/-!
# Node UUID validation

A Go string is its list of bytes. `uuidPattern` and `uuidV4Pattern` are anchored regular
expressions made of counted character classes and optional hyphens, so a pattern is a list of
atoms and `matchAtoms` decides whether some way of taking or skipping each optional hyphen
consumes the whole string. The entropy checks iterate over runes; they are only reached on
strings that passed the format check, which are ASCII, where a rune is a byte, so they are
modelled on bytes.

`GenerateSecureUUIDv4` formats 16 random bytes, with the version nibble set to 4 and the
variant bits to `10`, as lowercase hex in groups 8-4-4-4-12.

**Theorem (`generated_uuid_verdict`).** Every string the generator formats has length 36 and
passes the format and version checks, and is not one repeated character; so the default
validator accepts it exactly when neither `hasSequentialPattern` nor
`hasLowCharacterDiversity` holds of its 32 hex digits. Both can hold: sixteen zero bytes give
`00000000-0000-4000-8000-000000000000`, which has three distinct digits and is rejected
(`zero_bytes_uuid_rejected`).
-/

namespace TalosKmsVault

/-- The byte of an ASCII character. -/
def byte (c : Char) : UInt8 := c.toNat.toUInt8

/-- The bytes of an ASCII string. -/
def bytesOf (s : String) : List UInt8 := s.toList.map byte

/-! ## The two patterns -/

/-- An atom of an anchored pattern: a character class (given by its ranges) repeated `count`
times, or an optional character. -/
inductive Atom
  | cls (ranges : List (Char × Char)) (count : Nat)
  | opt (c : Char)

/-- Whether a byte is in one of the ranges of a class. -/
def inRanges (ranges : List (Char × Char)) (b : UInt8) : Bool :=
  ranges.any fun r => byte r.1 ≤ b && b ≤ byte r.2

/-- Whether the pattern matches the whole string. -/
def matchAtoms : List Atom → List UInt8 → Bool
  | [], s => s.isEmpty
  | .cls ranges count :: p, s =>
    (s.take count).length == count && (s.take count).all (inRanges ranges) &&
      matchAtoms p (s.drop count)
  | .opt c :: p, s => (s.head? == some (byte c) && matchAtoms p s.tail) || matchAtoms p s

/-- `[0-9a-fA-F]`. -/
def hexClass : List (Char × Char) := [('0', '9'), ('a', 'f'), ('A', 'F')]

/-- The RFC 4122 pattern with the given class for the version digit:
`^[0-9a-fA-F]{8}-?[0-9a-fA-F]{4}-?<version>[0-9a-fA-F]{3}-?[89abAB][0-9a-fA-F]{3}-?[0-9a-fA-F]{12}$`. -/
def rfc4122Pattern (version : List (Char × Char)) : List Atom :=
  [.cls hexClass 8, .opt '-', .cls hexClass 4, .opt '-', .cls version 1, .cls hexClass 3, .opt '-',
    .cls [('8', '9'), ('a', 'b'), ('A', 'B')] 1, .cls hexClass 3, .opt '-', .cls hexClass 12]

/-- `uuidPattern`: versions 1 to 5. -/
def uuidPattern : List Atom := rfc4122Pattern [('1', '5')]

def uuidV4Pattern : List Atom := rfc4122Pattern [('4', '4')]

/-! ## The validator -/

/-- The fields of `UUIDValidator` that `ValidateNodeUUID` reads. -/
structure UUIDValidator where
  requireVersion4 : Bool
  checkEntropy : Bool
  allowHyphens : Bool
  maxLength : Int
  deriving DecidableEq, Repr

def newUUIDValidator : UUIDValidator := ⟨true, true, true, 36⟩

/-- `strings.ReplaceAll(uuid, "-", "")`. -/
def removeHyphens (uuid : List UInt8) : List UInt8 := uuid.filter (· != byte '-')

/-- `isRepeatingPattern`: a non-empty string of one repeated character. -/
def isRepeatingPattern (uuid : List UInt8) : Bool :=
  match uuid with
  | [] => false
  | c :: _ => uuid.all (· == c)

/-- The loop of `hasSequentialPattern`, from the count so far and the previous character. -/
def sequentialFrom (count : Nat) : List UInt8 → Bool
  | a :: b :: rest =>
    let count := if b == a + 1 then count + 1 else 0
    4 ≤ count || sequentialFrom count (b :: rest)
  | _ => false

/-- `hasSequentialPattern`: five characters in a row, each one more than the one before. -/
def hasSequentialPattern (uuid : List UInt8) : Bool := sequentialFrom 0 uuid

/-- `hasLowCharacterDiversity`: fewer than 8 distinct characters. -/
def hasLowCharacterDiversity (uuid : List UInt8) : Bool := uuid.eraseDups.length < 8

def hasInsufficientEntropy (cleanUUID : List UInt8) : Bool :=
  isRepeatingPattern cleanUUID || hasSequentialPattern cleanUUID || hasLowCharacterDiversity cleanUUID

def validateEntropy (uuid : List UInt8) : Except String Unit :=
  if hasInsufficientEntropy (removeHyphens uuid) then
    .error "UUID has insufficient entropy: UUID appears to have predictable patterns"
  else .ok ()

def UUIDValidator.validateNodeUUID (v : UUIDValidator) (uuid : List UInt8) : Except String Unit :=
  if uuid = [] then .error "UUID cannot be empty"
  else if v.maxLength < uuid.length then .error "UUID too long"
  else
    let normalizedUUID := if v.allowHyphens then uuid else removeHyphens uuid
    if !matchAtoms uuidPattern normalizedUUID then .error "invalid UUID format: failed format check"
    else if v.requireVersion4 && !matchAtoms uuidV4Pattern normalizedUUID then
      .error "UUID version not supported: UUID v4 required"
    else if v.checkEntropy then validateEntropy normalizedUUID
    else .ok ()

/-! ## The generator -/

/-- The lowercase hex digit of a nibble, as `%x` prints it. -/
def hexDigit (n : Nat) : UInt8 := if n < 10 then (48 + n).toUInt8 else (87 + n).toUInt8

/-- `%02x` of a byte. -/
def hexByte (b : UInt8) : List UInt8 := [hexDigit (b.toNat / 16), hexDigit (b.toNat % 16)]

/-- `%x` of a byte slice. -/
def hexBytes : List UInt8 → List UInt8
  | [] => []
  | b :: bs => hexByte b ++ hexBytes bs

/-- The string `GenerateSecureUUIDv4` formats from the 16 bytes `rand.Read` filled. -/
def formatUUIDv4 (bytes : Fin 16 → UInt8) : List UInt8 :=
  let version := (bytes 6 &&& 0x0f) ||| 0x40
  let variant := (bytes 8 &&& 0x3f) ||| 0x80
  hexBytes [bytes 0, bytes 1, bytes 2, bytes 3] ++ byte '-' :: hexBytes [bytes 4, bytes 5] ++
    byte '-' :: hexBytes [version, bytes 7] ++ byte '-' :: hexBytes [variant, bytes 9] ++
    byte '-' :: hexBytes [bytes 10, bytes 11, bytes 12, bytes 13, bytes 14, bytes 15]

/-- `GenerateSecureUUIDv4`, given what `rand.Read` returned. -/
def generateSecureUUIDv4 (read : Except String (Fin 16 → UInt8)) : Except String (List UInt8) :=
  match read with
  | .ok bytes => .ok (formatUUIDv4 bytes)
  | .error e => .error ("failed to generate random bytes: " ++ e)

/-! ## Hex digits -/

theorem hexDigit_spec : ∀ d : Fin 16, inRanges hexClass (hexDigit d) = true ∧ hexDigit d ≠ byte '-' := by
  decide

theorem isHex_hexDigit {n : Nat} (h : n < 16) : inRanges hexClass (hexDigit n) = true :=
  (hexDigit_spec ⟨n, h⟩).1

theorem hexDigit_ne_hyphen {n : Nat} (h : n < 16) : hexDigit n ≠ byte '-' := (hexDigit_spec ⟨n, h⟩).2

theorem hexByte_spec (b : UInt8) : ∀ x ∈ hexByte b, inRanges hexClass x = true ∧ x ≠ byte '-' := by
  have := b.toNat_lt_size
  simp only [hexByte, List.mem_cons, List.mem_singleton, List.not_mem_nil, or_false]
  rintro x (rfl | rfl)
  · exact ⟨isHex_hexDigit (by simp [UInt8.size] at this; omega),
      hexDigit_ne_hyphen (by simp [UInt8.size] at this; omega)⟩
  · exact ⟨isHex_hexDigit (Nat.mod_lt _ (by decide)), hexDigit_ne_hyphen (Nat.mod_lt _ (by decide))⟩

theorem hexBytes_spec (l : List UInt8) : ∀ x ∈ hexBytes l, inRanges hexClass x = true ∧ x ≠ byte '-' := by
  induction l with
  | nil => simp [hexBytes]
  | cons b bs ih =>
    simp only [hexBytes, List.mem_append]
    rintro x (hx | hx)
    · exact hexByte_spec b x hx
    · exact ih x hx

@[simp] theorem length_hexBytes (l : List UInt8) : (hexBytes l).length = 2 * l.length := by
  induction l with
  | nil => rfl
  | cons b bs ih => simp [hexBytes, hexByte, ih]; omega

/-! ## Matching -/

section Matching

variable {p : List Atom} {xs ys : List UInt8}

theorem matchAtoms_cls {ranges : List (Char × Char)} {count : Nat} (hn : xs.length = count)
    (hx : ∀ x ∈ xs, inRanges ranges x = true) :
    matchAtoms (.cls ranges count :: p) (xs ++ ys) = matchAtoms p ys := by
  subst hn
  simp only [matchAtoms, List.take_left, List.drop_left, List.all_eq_true.2 hx, beq_self_eq_true,
    Bool.true_and]

theorem matchAtoms_cls_one {ranges : List (Char × Char)} {x : UInt8} (hx : inRanges ranges x = true) :
    matchAtoms (.cls ranges 1 :: p) (x :: ys) = matchAtoms p ys := by
  simp [matchAtoms, hx]

theorem matchAtoms_opt_cons {c : Char} (h : matchAtoms p ys = true) :
    matchAtoms (.opt c :: p) (byte c :: ys) = true := by
  simp [matchAtoms, h]

end Matching

/-- A string of the generator's shape matches the RFC 4122 pattern of each version class
containing its version digit. -/
theorem matchAtoms_rfc4122 {version : List (Char × Char)} {g₁ g₂ g₃ g₄ g₅ : List UInt8} {v w : UInt8}
    (h₁ : g₁.length = 8 ∧ ∀ x ∈ g₁, inRanges hexClass x = true) (h₂ : g₂.length = 4 ∧ ∀ x ∈ g₂, inRanges hexClass x = true)
    (h₃ : g₃.length = 3 ∧ ∀ x ∈ g₃, inRanges hexClass x = true) (h₄ : g₄.length = 3 ∧ ∀ x ∈ g₄, inRanges hexClass x = true)
    (h₅ : g₅.length = 12 ∧ ∀ x ∈ g₅, inRanges hexClass x = true) (hv : inRanges version v = true)
    (hw : inRanges [('8', '9'), ('a', 'b'), ('A', 'B')] w = true) :
    matchAtoms (rfc4122Pattern version)
      (g₁ ++ byte '-' :: g₂ ++ byte '-' :: v :: g₃ ++ byte '-' :: w :: g₄ ++ byte '-' :: g₅) = true := by
  simp only [rfc4122Pattern, List.append_assoc, List.cons_append]
  rw [matchAtoms_cls h₁.1 h₁.2]
  refine matchAtoms_opt_cons ?_
  rw [matchAtoms_cls h₂.1 h₂.2]
  refine matchAtoms_opt_cons ?_
  rw [matchAtoms_cls_one hv, matchAtoms_cls h₃.1 h₃.2]
  refine matchAtoms_opt_cons ?_
  rw [matchAtoms_cls_one hw, matchAtoms_cls h₄.1 h₄.2]
  refine matchAtoms_opt_cons ?_
  rw [← List.append_nil g₅, matchAtoms_cls h₅.1 h₅.2]
  rfl

/-! ## What the generator prints -/

theorem or_toNat (a b : UInt8) : (a ||| b).toNat = a.toNat ||| b.toNat := BitVec.toNat_or ..

/-- The version byte is `4` followed by the low nibble of the random byte. -/
theorem toNat_version (b : UInt8) : ((b &&& 0x0f) ||| 0x40).toNat = b.toNat % 16 + 64 := by
  have hor : ∀ x : Fin 16, x.val ||| 64 = x.val + 64 := by decide
  have hand : (b &&& 0x0f).toNat = b.toNat % 16 := by
    rw [UInt8.and_toNat]; exact Nat.and_pow_two_sub_one_eq_mod b.toNat 4
  rw [or_toNat, hand]
  exact hor ⟨_, Nat.mod_lt _ (by decide)⟩

/-- The variant byte is `10` followed by the low six bits of the random byte. -/
theorem toNat_variant (b : UInt8) : ((b &&& 0x3f) ||| 0x80).toNat = b.toNat % 64 + 128 := by
  have hor : ∀ x : Fin 64, x.val ||| 128 = x.val + 128 := by decide
  have hand : (b &&& 0x3f).toNat = b.toNat % 64 := by
    rw [UInt8.and_toNat]; exact Nat.and_pow_two_sub_one_eq_mod b.toNat 6
  rw [or_toNat, hand]
  exact hor ⟨_, Nat.mod_lt _ (by decide)⟩

theorem variantDigit_spec : ∀ d : Fin 4,
    inRanges [('8', '9'), ('a', 'b'), ('A', 'B')] (hexDigit (8 + d)) = true ∧
      hexDigit (8 + d) ≠ hexDigit 4 := by decide

/-- The generator's string, split as the patterns read it. -/
theorem formatUUIDv4_eq (bytes : Fin 16 → UInt8) :
    formatUUIDv4 bytes =
      hexBytes [bytes 0, bytes 1, bytes 2, bytes 3] ++ byte '-' :: hexBytes [bytes 4, bytes 5] ++
        byte '-' :: hexDigit 4 :: (hexDigit ((bytes 6).toNat % 16) :: hexByte (bytes 7)) ++
        byte '-' :: hexDigit (8 + (bytes 8).toNat % 64 / 16) ::
          (hexDigit ((bytes 8).toNat % 16) :: hexByte (bytes 9)) ++
        byte '-' :: hexBytes [bytes 10, bytes 11, bytes 12, bytes 13, bytes 14, bytes 15] := by
  have e₁ : ((bytes 6).toNat % 16 + 64) / 16 = 4 := by omega
  have e₂ : ((bytes 6).toNat % 16 + 64) % 16 = (bytes 6).toNat % 16 := by omega
  have e₃ : ((bytes 8).toNat % 64 + 128) / 16 = 8 + (bytes 8).toNat % 64 / 16 := by omega
  have e₄ : ((bytes 8).toNat % 64 + 128) % 16 = (bytes 8).toNat % 16 := by omega
  simp only [formatUUIDv4, hexBytes, hexByte, toNat_version, toNat_variant, e₁, e₂, e₃, e₄,
    List.append_nil, List.nil_append, List.cons_append, List.append_assoc]

theorem isRepeatingPattern_eq_false {uuid : List UInt8} {x y : UInt8} (hx : x ∈ uuid) (hy : y ∈ uuid)
    (hxy : x ≠ y) : isRepeatingPattern uuid = false := by
  unfold isRepeatingPattern
  split
  · rfl
  · rename_i c _
    refine Bool.eq_false_iff.2 fun h => hxy ?_
    simp only [List.all_eq_true, beq_iff_eq] at h
    rw [h x hx, h y hy]

theorem hexNibbles_spec {d : Nat} (hd : d < 16) (b : UInt8) :
    (hexDigit d :: hexByte b).length = 3 ∧ ∀ x ∈ hexDigit d :: hexByte b, inRanges hexClass x = true := by
  refine ⟨rfl, fun x hx => ?_⟩
  rcases List.mem_cons.1 hx with rfl | hx
  · exact isHex_hexDigit hd
  · exact (hexByte_spec b x hx).1

theorem hexBytes_group (l : List UInt8) :
    (hexBytes l).length = 2 * l.length ∧ ∀ x ∈ hexBytes l, inRanges hexClass x = true :=
  ⟨length_hexBytes l, fun x hx => (hexBytes_spec l x hx).1⟩

/-- **What the validator does with a generated UUID.** The string the generator formats from
any 16 bytes has length 36, passes the format and version checks and is not one repeated
character, so the default validator accepts it exactly when neither the sequential nor the
diversity heuristic holds of its hex digits. -/
theorem generated_uuid_verdict (bytes : Fin 16 → UInt8) :
    generateSecureUUIDv4 (.ok bytes) = .ok (formatUUIDv4 bytes) ∧
    (formatUUIDv4 bytes).length = 36 ∧
    matchAtoms uuidPattern (formatUUIDv4 bytes) = true ∧
    matchAtoms uuidV4Pattern (formatUUIDv4 bytes) = true ∧
    isRepeatingPattern (removeHyphens (formatUUIDv4 bytes)) = false ∧
    (newUUIDValidator.validateNodeUUID (formatUUIDv4 bytes) = .ok () ↔
      hasSequentialPattern (removeHyphens (formatUUIDv4 bytes)) = false ∧
        hasLowCharacterDiversity (removeHyphens (formatUUIDv4 bytes)) = false) := by
  have h8 : (bytes 8).toNat % 64 / 16 < 4 := by omega
  have hw := variantDigit_spec ⟨_, h8⟩
  have h₃ := hexNibbles_spec (Nat.mod_lt (bytes 6).toNat (by decide)) (bytes 7)
  have h₄ := hexNibbles_spec (Nat.mod_lt (bytes 8).toNat (by decide)) (bytes 9)
  have hmatch {version : List (Char × Char)} (hv : inRanges version (hexDigit 4) = true) :
      matchAtoms (rfc4122Pattern version) (formatUUIDv4 bytes) = true := by
    rw [formatUUIDv4_eq]
    exact matchAtoms_rfc4122 (hexBytes_group _) (hexBytes_group _) h₃ h₄ (hexBytes_group _) hv hw.1
  have hlen : (formatUUIDv4 bytes).length = 36 := by
    rw [formatUUIDv4_eq]; simp [hexByte]
  have hm₁ : matchAtoms uuidPattern (formatUUIDv4 bytes) = true := hmatch (by decide)
  have hm₂ : matchAtoms uuidV4Pattern (formatUUIDv4 bytes) = true := hmatch (by decide)
  -- the version digit and the variant digit differ, and neither is a hyphen
  have hrep : isRepeatingPattern (removeHyphens (formatUUIDv4 bytes)) = false := by
    refine isRepeatingPattern_eq_false (x := hexDigit 4) (y := hexDigit (8 + (bytes 8).toNat % 64 / 16))
      ?_ ?_ (Ne.symm hw.2) <;> rw [removeHyphens, List.mem_filter, formatUUIDv4_eq]
    · exact ⟨by simp, by decide⟩
    · exact ⟨by simp, by simpa using hexDigit_ne_hyphen (show 8 + (bytes 8).toNat % 64 / 16 < 16 by omega)⟩
  refine ⟨rfl, hlen, hm₁, hm₂, hrep, ?_⟩
  have hne : formatUUIDv4 bytes ≠ [] := fun h => by simp [h] at hlen
  simp [UUIDValidator.validateNodeUUID, newUUIDValidator, hne, hlen, hm₁, hm₂, validateEntropy,
    hasInsufficientEntropy, hrep]

/-- Sixteen zero bytes. -/
def zeroBytes : Fin 16 → UInt8 := fun _ => 0

/-- The generator prints `00000000-0000-4000-8000-000000000000` from zero bytes, and the
default validator rejects it for its three distinct digits. -/
theorem zero_bytes_uuid_rejected :
    ¬ (∀ (bytes : Fin 16 → UInt8) (u : List UInt8), generateSecureUUIDv4 (.ok bytes) = .ok u →
      newUUIDValidator.validateNodeUUID u = .ok ()) ∧
    generateSecureUUIDv4 (.ok zeroBytes) = .ok (bytesOf "00000000-0000-4000-8000-000000000000") ∧
    newUUIDValidator.validateNodeUUID (bytesOf "00000000-0000-4000-8000-000000000000") =
      .error "UUID has insufficient entropy: UUID appears to have predictable patterns" := by
  have hgen : generateSecureUUIDv4 (.ok zeroBytes) =
      .ok (bytesOf "00000000-0000-4000-8000-000000000000") :=
    congrArg Except.ok (by decide : formatUUIDv4 zeroBytes = bytesOf "00000000-0000-4000-8000-000000000000")
  have hval : newUUIDValidator.validateNodeUUID (bytesOf "00000000-0000-4000-8000-000000000000") =
      .error "UUID has insufficient entropy: UUID appears to have predictable patterns" := by rfl
  refine ⟨fun h => ?_, hgen, hval⟩
  have := h zeroBytes _ hgen
  rw [hval] at this
  cases this

end TalosKmsVault
