import TalosKmsVault.Uuid

/-!
# Spellings of a UUID: case, hyphens, normalization and masking

`uuidPattern` accepts a UUID's 32 hex digits in either case, with a hyphen or none at each of
the four 8-4-4-4-12 joints. What the repository does with a spelling beyond the pattern
depends on more than the digits.

**Case.** `strings.ToLower` is applied only to strings that passed `ValidateNodeUUID`, which
are ASCII, so it lowers `A`-`Z` byte by byte (`toLower`). The pattern's classes contain both
cases of each letter they contain (`Atom.caseBlind`), so the format and version checks do not
see case; the entropy checks compare bytes and do.

**Hyphens.** The classes exclude the hyphen and every optional character is a hyphen
(`Atom.separated`). So a match keeps matching once its hyphens are removed
(`matchAtoms_removeHyphens`), a hyphen-free match keeps matching with every joint hyphenated
(`matchAtoms_fill`), and every match strips to exactly 32 characters
(`length_removeHyphens_of_match`).

**Results.**

* The verdict of `ValidateNodeUUID` (with `MaxLength ≥ 36`) is the same for the hyphenated and
  the unhyphenated spelling of the same digits, and across case only when the entropy check
  is off (`validateNodeUUID_spelling_invariant`); `aBcde000-…` is accepted and `abcde000-…`
  rejected (`case_changes_verdict`).
* `ValidateAndNormalize` renders a canonical spelling as lowercase 8-4-4-4-12, and is
  idempotent when the input has no upper-case letter or the entropy check is off and
  `MaxLength ≥ 36` (`validateAndNormalize_canonical`); a partial hyphenation is kept as it is
  (`normalize_not_canonical`).
* With `AllowHyphens = false` the hyphens are stripped before the checks, so every string the
  validator accepts with hyphens allowed it also accepts without (`hyphens_off_accepts_more`),
  and more: hyphens anywhere (`hyphen_anywhere_accepted`).
* `SanitizeForLogging` shows six leading and four trailing digits of a match, the length of
  anything else, and never slices out of range (`sanitizeForLogging_reveals_little`).
-/

namespace TalosKmsVault

/-! ## Lowercasing and slicing -/

/-- `strings.ToLower` on one byte of an ASCII string. -/
def lowerByte (b : UInt8) : UInt8 := if byte 'A' ≤ b ∧ b ≤ byte 'Z' then b + 32 else b

/-- `strings.ToLower`, on the ASCII strings it is applied to. -/
def toLower (s : List UInt8) : List UInt8 := s.map lowerByte

/-- `s[lo:hi]`; `none` is the panic of an index out of range. -/
def goSlice (s : List UInt8) (lo hi : Nat) : Option (List UInt8) :=
  if lo ≤ hi ∧ hi ≤ s.length then some ((s.drop lo).take (hi - lo)) else none

/-- The `Sprintf` of `ValidateAndNormalize`, which cuts a plain hex string at 8, 12, 16 and 20. -/
def hyphenate (normalized : List UInt8) : Option (List UInt8) := do
  let g₁ ← goSlice normalized 0 8
  let g₂ ← goSlice normalized 8 12
  let g₃ ← goSlice normalized 12 16
  let g₄ ← goSlice normalized 16 20
  let g₅ ← goSlice normalized 20 32
  pure (g₁ ++ byte '-' :: g₂ ++ byte '-' :: g₃ ++ byte '-' :: g₄ ++ byte '-' :: g₅)

/-- `ValidateAndNormalize`; `none` is a panic. -/
def UUIDValidator.validateAndNormalize (v : UUIDValidator) (uuid : List UInt8) :
    Option (Except String (List UInt8)) :=
  match v.validateNodeUUID uuid with
  | .error e => some (.error e)
  | .ok () =>
    let normalized := toLower uuid
    if (removeHyphens normalized).length = 32 ∧ byte '-' ∉ normalized then
      (hyphenate normalized).map .ok
    else some (.ok normalized)

/-- `%d` of a length. -/
def decimal (n : Nat) : List UInt8 := bytesOf (toString n)

/-- `SanitizeForLogging`; `none` is a panic. -/
def sanitizeForLogging (uuid : List UInt8) : Option (List UInt8) :=
  if uuid = [] then some (bytesOf "<empty>")
  else if !matchAtoms uuidPattern uuid then
    some (bytesOf "<invalid-uuid-len-" ++ decimal uuid.length ++ bytesOf ">")
  else
    let cleanUUID := removeHyphens uuid
    if 32 ≤ cleanUUID.length then
      (goSlice cleanUUID 0 6).bind fun first =>
        (goSlice cleanUUID 28 cleanUUID.length).map fun last =>
          first ++ bytesOf "**-****-****-**" ++ last
    else some (bytesOf "<malformed-uuid-len-" ++ decimal uuid.length ++ bytesOf ">")

/-! ## Spellings -/

/-- The 8-4-4-4-12 hyphenated rendering of hex digits. -/
def render (d : List UInt8) : List UInt8 :=
  d.take 8 ++ byte '-' :: (d.drop 8).take 4 ++ byte '-' :: (d.drop 12).take 4 ++ byte '-' ::
    (d.drop 16).take 4 ++ byte '-' :: d.drop 20

/-- `s` spells the UUID whose 32 hex digits are `d`: unhyphenated, or hyphenated at the
8-4-4-4-12 joints. -/
def Spells (s d : List UInt8) : Prop :=
  d.length = 32 ∧ (∀ x ∈ d, inRanges hexClass x = true) ∧ (s = d ∨ s = render d)

/-- Whether an atom keeps hyphens apart: a class without the hyphen, or an optional hyphen. -/
def Atom.separated : Atom → Bool
  | .cls ranges _ => !inRanges ranges (byte '-')
  | .opt c => c == '-'

/-- Whether an atom treats a letter and its lowercase form alike. -/
def Atom.caseBlind : Atom → Bool
  | .cls ranges _ =>
    (List.range 26).all fun i => inRanges ranges (65 + i).toUInt8 == inRanges ranges (97 + i).toUInt8
  | .opt _ => true

/-- The number of characters of a hyphen-free match. -/
def Atom.width : Atom → Nat
  | .cls _ count => count
  | .opt _ => 0

/-- The number of characters other than hyphens in a match of a pattern. -/
def patternWidth : List Atom → Nat
  | [] => 0
  | a :: p => a.width + patternWidth p

/-- The string of `p` that takes every optional character, with the classes' characters read
in order from `d`. -/
def fill : List Atom → List UInt8 → List UInt8
  | [], d => d
  | .cls _ count :: p, d => d.take count ++ fill p (d.drop count)
  | .opt c :: p, d => byte c :: fill p d

/-! ## Bytes -/

theorem toNat_toUInt8 {n : Nat} (h : n < 256) : n.toUInt8.toNat = n := UInt8.toNat_ofNat_of_lt h

theorem lowerByte_toNat (b : UInt8) :
    (lowerByte b).toNat = if 65 ≤ b.toNat ∧ b.toNat ≤ 90 then b.toNat + 32 else b.toNat := by
  have h : b.toNat < 256 := b.toNat_lt_size
  by_cases h1 : 65 ≤ b.toNat ∧ b.toNat ≤ 90
  · rw [if_pos h1, lowerByte, if_pos (show byte 'A' ≤ b ∧ b ≤ byte 'Z' from h1)]
    exact (BitVec.toNat_add ..).trans (Nat.mod_eq_of_lt (show b.toNat + 32 < 256 by omega))
  · rw [if_neg h1, lowerByte, if_neg (show ¬(byte 'A' ≤ b ∧ b ≤ byte 'Z') from h1)]

@[simp] theorem lowerByte_lowerByte (b : UInt8) : lowerByte (lowerByte b) = lowerByte b := by
  apply UInt8.toNat.inj
  have : b.toNat < 256 := b.toNat_lt_size
  simp only [lowerByte_toNat]
  split <;> (try split) <;> omega

@[simp] theorem lowerByte_eq_hyphen {b : UInt8} : lowerByte b = byte '-' ↔ b = byte '-' := by
  have hb := lowerByte_toNat b
  constructor
  · intro h
    apply UInt8.toNat.inj
    have h45 : (byte '-').toNat = 45 := rfl
    rw [h, h45] at hb
    rw [h45]
    split at hb <;> omega
  · rintro rfl; rfl

theorem inRanges_lowerByte {ranges : List (Char × Char)} {count : Nat}
    (h : (Atom.cls ranges count).caseBlind = true) (b : UInt8) :
    inRanges ranges (lowerByte b) = inRanges ranges b := by
  have hb : b.toNat < 256 := b.toNat_lt_size
  by_cases h1 : 65 ≤ b.toNat ∧ b.toNat ≤ 90
  · have hi := List.all_eq_true.1 h (b.toNat - 65) (List.mem_range.2 (by omega))
    have hu : b = (65 + (b.toNat - 65)).toUInt8 :=
      UInt8.toNat.inj (by rw [toNat_toUInt8 (by omega)]; omega)
    have hl : lowerByte b = (97 + (b.toNat - 65)).toUInt8 :=
      UInt8.toNat.inj (by rw [toNat_toUInt8 (by omega), lowerByte_toNat, if_pos h1]; omega)
    rw [hl, ← beq_iff_eq.1 hi, ← hu]
  · rw [lowerByte, if_neg (show ¬(byte 'A' ≤ b ∧ b ≤ byte 'Z') from h1)]

/-! ## Lists of bytes -/

@[simp] theorem toLower_toLower (s : List UInt8) : toLower (toLower s) = toLower s := by
  simp [toLower]

@[simp] theorem length_toLower (s : List UInt8) : (toLower s).length = s.length := List.length_map _ _

@[simp] theorem toLower_eq_nil {s : List UInt8} : toLower s = [] ↔ s = [] := List.map_eq_nil_iff

theorem hyphen_mem_toLower {s : List UInt8} : byte '-' ∈ toLower s ↔ byte '-' ∈ s := by
  simp [toLower, lowerByte_eq_hyphen]

theorem removeHyphens_toLower (s : List UInt8) : removeHyphens (toLower s) = toLower (removeHyphens s) := by
  simp only [removeHyphens, toLower, List.filter_map]
  congr 2
  funext b
  rw [Bool.eq_iff_iff, Function.comp_apply, bne_iff_ne, bne_iff_ne, ne_eq, ne_eq, lowerByte_eq_hyphen]

theorem removeHyphens_removeHyphens (s : List UInt8) : removeHyphens (removeHyphens s) = removeHyphens s := by
  simp [removeHyphens, List.filter_filter]

@[simp] theorem removeHyphens_append (a b : List UInt8) :
    removeHyphens (a ++ b) = removeHyphens a ++ removeHyphens b := List.filter_append _ _

@[simp] theorem removeHyphens_hyphen_cons (s : List UInt8) :
    removeHyphens (byte '-' :: s) = removeHyphens s := by
  simp [removeHyphens]

theorem removeHyphens_eq_self {s : List UInt8} (h : byte '-' ∉ s) : removeHyphens s = s :=
  List.filter_eq_self.2 fun x hx => by simpa using fun e : x = byte '-' => h (e ▸ hx)

theorem validateEntropy_congr {a b : List UInt8} (h : removeHyphens a = removeHyphens b) :
    validateEntropy a = validateEntropy b := by
  simp only [validateEntropy, h]

/-! ## What the matcher sees -/

section Matching

variable {p : List Atom}

theorem ne_hyphen_of_separated {ranges : List (Char × Char)} {count : Nat} {x : UInt8}
    (h : (Atom.cls ranges count).separated = true) (hx : inRanges ranges x = true) : x ≠ byte '-' := by
  rintro rfl
  simp [Atom.separated, hx] at h

theorem removeHyphens_take_append {ranges : List (Char × Char)} {count : Nat} {s : List UInt8}
    (h : (Atom.cls ranges count).separated = true) (hx : ∀ x ∈ s.take count, inRanges ranges x = true) :
    removeHyphens s = s.take count ++ removeHyphens (s.drop count) := by
  have e := congrArg removeHyphens (List.take_append_drop count s)
  rw [removeHyphens_append, removeHyphens_eq_self fun hm => ne_hyphen_of_separated h (hx _ hm) rfl] at e
  exact e.symm

theorem matchAtoms_opt (c : Char) (s : List UInt8) :
    matchAtoms (.opt c :: p) s = (s.head? == some (byte c) && matchAtoms p s.tail || matchAtoms p s) :=
  rfl

theorem matchAtoms_cls_cons {ranges : List (Char × Char)} {count : Nat} {s : List UInt8} :
    matchAtoms (.cls ranges count :: p) s = true ↔
      (s.take count).length = count ∧ (∀ x ∈ s.take count, inRanges ranges x = true) ∧
        matchAtoms p (s.drop count) = true := by
  simp only [matchAtoms, Bool.and_eq_true, beq_iff_eq, List.all_eq_true, and_assoc]

theorem matchAtoms_hyphen_cons {s : List UInt8} (h : matchAtoms (.opt '-' :: p) s = true) :
    (∃ t, s = byte '-' :: t ∧ matchAtoms p t = true) ∨ matchAtoms p s = true := by
  rw [matchAtoms_opt, Bool.or_eq_true, Bool.and_eq_true] at h
  rcases h with ⟨hh, hm⟩ | hm
  · cases s with
    | nil => cases hh
    | cons b s => exact .inl ⟨s, by simpa using hh, hm⟩
  · exact .inr hm

theorem matchAtoms_opt_skip {c : Char} {s : List UInt8} (h : matchAtoms p s = true) :
    matchAtoms (.opt c :: p) s = true := by
  rw [matchAtoms_opt, h, Bool.or_true]

theorem matchAtoms_toLower (hp : p.all Atom.separated = true) (hc : p.all Atom.caseBlind = true)
    (s : List UInt8) : matchAtoms p (toLower s) = matchAtoms p s := by
  induction p generalizing s with
  | nil => cases s <;> rfl
  | cons a p ih =>
    simp only [List.all_cons, Bool.and_eq_true] at hp hc
    cases a with
    | cls ranges count =>
      have hf : inRanges ranges ∘ lowerByte = inRanges ranges := funext (inRanges_lowerByte hc.1)
      simp only [toLower] at ih ⊢
      simp only [matchAtoms, ← List.map_take, ← List.map_drop, List.length_map, List.all_map, hf,
        ih hp.2 hc.2]
    | opt c =>
      obtain rfl : c = '-' := by simpa [Atom.separated] using hp.1
      cases s with
      | nil => rfl
      | cons b s =>
        have hb : (lowerByte b == byte '-') = (b == byte '-') := by
          rw [Bool.eq_iff_iff, beq_iff_eq, beq_iff_eq, lowerByte_eq_hyphen]
        rw [matchAtoms_opt, matchAtoms_opt]
        show ((lowerByte b == byte '-') && matchAtoms p (toLower s) || matchAtoms p (toLower (b :: s))) = _
        rw [hb, ih hp.2 hc.2, ih hp.2 hc.2]
        rfl

theorem matchAtoms_removeHyphens (hp : p.all Atom.separated = true) {s : List UInt8}
    (h : matchAtoms p s = true) : matchAtoms p (removeHyphens s) = true := by
  induction p generalizing s with
  | nil => obtain rfl := List.isEmpty_iff.1 h; rfl
  | cons a p ih =>
    simp only [List.all_cons, Bool.and_eq_true] at hp
    cases a with
    | cls ranges count =>
      obtain ⟨hn, hx, hm⟩ := matchAtoms_cls_cons.1 h
      rw [removeHyphens_take_append hp.1 hx, matchAtoms_cls hn hx]
      exact ih hp.2 hm
    | opt c =>
      obtain rfl : c = '-' := by simpa [Atom.separated] using hp.1
      refine matchAtoms_opt_skip ?_
      rcases matchAtoms_hyphen_cons h with ⟨t, rfl, hm⟩ | hm
      · rw [removeHyphens_hyphen_cons]; exact ih hp.2 hm
      · exact ih hp.2 hm

theorem matchAtoms_fill (hp : p.all Atom.separated = true) {d : List UInt8} (hd : byte '-' ∉ d)
    (h : matchAtoms p d = true) : matchAtoms p (fill p d) = true := by
  induction p generalizing d with
  | nil => exact h
  | cons a p ih =>
    simp only [List.all_cons, Bool.and_eq_true] at hp
    cases a with
    | cls ranges count =>
      obtain ⟨hn, hx, hm⟩ := matchAtoms_cls_cons.1 h
      rw [fill, matchAtoms_cls hn hx]
      exact ih hp.2 (fun hm' => hd (List.mem_of_mem_drop hm')) hm
    | opt c =>
      obtain rfl : c = '-' := by simpa [Atom.separated] using hp.1
      rcases matchAtoms_hyphen_cons h with ⟨t, rfl, -⟩ | hm
      · exact absurd (List.mem_cons_self _ _) hd
      · exact matchAtoms_opt_cons (ih hp.2 hd hm)

theorem removeHyphens_fill (hp : p.all Atom.separated = true) (d : List UInt8) :
    removeHyphens (fill p d) = removeHyphens d := by
  induction p generalizing d with
  | nil => rfl
  | cons a p ih =>
    simp only [List.all_cons, Bool.and_eq_true] at hp
    cases a with
    | cls ranges count =>
      rw [fill, removeHyphens_append, ih hp.2, ← removeHyphens_append, List.take_append_drop]
    | opt c =>
      obtain rfl : c = '-' := by simpa [Atom.separated] using hp.1
      rw [fill, removeHyphens_hyphen_cons, ih hp.2]

theorem matchAtoms_fill_eq (hp : p.all Atom.separated = true) {d : List UInt8} (hd : byte '-' ∉ d) :
    matchAtoms p (fill p d) = matchAtoms p d := by
  rw [Bool.eq_iff_iff]
  refine ⟨fun h => ?_, matchAtoms_fill hp hd⟩
  have := matchAtoms_removeHyphens hp h
  rwa [removeHyphens_fill hp, removeHyphens_eq_self hd] at this

theorem length_removeHyphens_of_match (hp : p.all Atom.separated = true) {s : List UInt8}
    (h : matchAtoms p s = true) : (removeHyphens s).length = patternWidth p := by
  induction p generalizing s with
  | nil => obtain rfl := List.isEmpty_iff.1 h; rfl
  | cons a p ih =>
    simp only [List.all_cons, Bool.and_eq_true] at hp
    cases a with
    | cls ranges count =>
      obtain ⟨hn, hx, hm⟩ := matchAtoms_cls_cons.1 h
      rw [removeHyphens_take_append hp.1 hx, List.length_append, hn, ih hp.2 hm]
      rfl
    | opt c =>
      obtain rfl : c = '-' := by simpa [Atom.separated] using hp.1
      rw [patternWidth, Atom.width, Nat.zero_add]
      rcases matchAtoms_hyphen_cons h with ⟨t, rfl, hm⟩ | hm
      · rw [removeHyphens_hyphen_cons]; exact ih hp.2 hm
      · exact ih hp.2 hm

end Matching

/-! ## The two patterns and the rendering -/

theorem uuidPattern_separated : uuidPattern.all Atom.separated = true := by decide

theorem uuidV4Pattern_separated : uuidV4Pattern.all Atom.separated = true := by decide

theorem uuidPattern_caseBlind : uuidPattern.all Atom.caseBlind = true := by decide

theorem uuidV4Pattern_caseBlind : uuidV4Pattern.all Atom.caseBlind = true := by decide

theorem hyphen_not_mem_of_hex {d : List UInt8} (hx : ∀ x ∈ d, inRanges hexClass x = true) :
    byte '-' ∉ d :=
  fun h => absurd (hx _ h) (by decide)

theorem fill_rfc4122Pattern (version : List (Char × Char)) (d : List UInt8) :
    fill (rfc4122Pattern version) d = render d := by
  have h₁ : (d.drop 12).take 4 = (d.drop 12).take 1 ++ (d.drop 13).take 3 := by
    rw [show 13 = 12 + 1 from rfl, ← List.drop_drop, ← List.take_add]
  have h₂ : (d.drop 16).take 4 = (d.drop 16).take 1 ++ (d.drop 17).take 3 := by
    rw [show 17 = 16 + 1 from rfl, ← List.drop_drop, ← List.take_add]
  have h₃ : (d.drop 20).take 12 ++ d.drop 32 = d.drop 20 := by
    rw [show 32 = 20 + 12 from rfl, ← List.drop_drop, List.take_append_drop]
  simp only [rfc4122Pattern, fill, render, List.drop_drop, Nat.reduceAdd, h₁, h₂, h₃,
    List.append_assoc, List.cons_append]

@[simp] theorem lowerByte_hyphen : lowerByte (byte '-') = byte '-' := rfl

theorem toLower_render (d : List UInt8) : toLower (render d) = render (toLower d) := by
  simp [toLower, render, List.map_take, List.map_drop]

theorem hyphen_mem_render (d : List UInt8) : byte '-' ∈ render d := by simp [render]

theorem length_render {d : List UInt8} (h : d.length = 32) : (render d).length = 36 := by
  simp only [render, List.length_append, List.length_cons, List.length_take, List.length_drop, h]
  omega

theorem removeHyphens_render {d : List UInt8} (hd : byte '-' ∉ d) : removeHyphens (render d) = d := by
  rw [← fill_rfc4122Pattern [('1', '5')], removeHyphens_fill (p := rfc4122Pattern _) uuidPattern_separated,
    removeHyphens_eq_self hd]

/-- The `Sprintf` of `ValidateAndNormalize` renders 32 characters without slicing out of range. -/
theorem hyphenate_eq {d : List UInt8} (h : d.length = 32) : hyphenate d = some (render d) := by
  have h₅ : (d.drop 20).take 12 = d.drop 20 := List.take_of_length_le (by simp [h])
  simp [hyphenate, goSlice, h, render, h₅]

theorem matchAtoms_render_uuid {d : List UInt8} (hd : byte '-' ∉ d) :
    matchAtoms uuidPattern (render d) = matchAtoms uuidPattern d := by
  rw [← fill_rfc4122Pattern [('1', '5')]]
  exact matchAtoms_fill_eq uuidPattern_separated hd

theorem matchAtoms_render_uuidV4 {d : List UInt8} (hd : byte '-' ∉ d) :
    matchAtoms uuidV4Pattern (render d) = matchAtoms uuidV4Pattern d := by
  rw [← fill_rfc4122Pattern [('4', '4')]]
  exact matchAtoms_fill_eq uuidV4Pattern_separated hd

/-! ## `ValidateNodeUUID` on spellings -/

/-- The checks of `ValidateNodeUUID` after the length check, on the normalized string. -/
def UUIDValidator.checkNormalized (v : UUIDValidator) (normalizedUUID : List UInt8) :
    Except String Unit :=
  if !matchAtoms uuidPattern normalizedUUID then .error "invalid UUID format: failed format check"
  else if v.requireVersion4 && !matchAtoms uuidV4Pattern normalizedUUID then
    .error "UUID version not supported: UUID v4 required"
  else if v.checkEntropy then validateEntropy normalizedUUID
  else .ok ()

theorem length_removeHyphens_of_uuid {s : List UInt8} (h : matchAtoms uuidPattern s = true) :
    (removeHyphens s).length = 32 :=
  length_removeHyphens_of_match uuidPattern_separated h

section Validator

variable {v : UUIDValidator}

theorem validateNodeUUID_eq (v : UUIDValidator) (uuid : List UInt8) :
    v.validateNodeUUID uuid =
      if uuid = [] then .error "UUID cannot be empty"
      else if v.maxLength < uuid.length then .error "UUID too long"
      else v.checkNormalized (if v.allowHyphens then uuid else removeHyphens uuid) := rfl

/-- What `ValidateNodeUUID` accepts: a non-empty string within `MaxLength` that passes the
checks once its hyphens are handled. -/
theorem validateNodeUUID_eq_ok {u : List UInt8} :
    v.validateNodeUUID u = .ok () ↔ u ≠ [] ∧ ¬ v.maxLength < u.length ∧
      v.checkNormalized (if v.allowHyphens then u else removeHyphens u) = .ok () := by
  rw [validateNodeUUID_eq]
  by_cases h₁ : u = [] <;> by_cases h₂ : v.maxLength < (u.length : Int) <;> simp [h₁, h₂]

theorem checkNormalized_congr {a b : List UInt8}
    (hP : matchAtoms uuidPattern a = matchAtoms uuidPattern b)
    (hV : matchAtoms uuidV4Pattern a = matchAtoms uuidV4Pattern b)
    (hE : v.checkEntropy = false ∨ removeHyphens a = removeHyphens b) :
    v.checkNormalized a = v.checkNormalized b := by
  unfold UUIDValidator.checkNormalized
  rw [hP, hV]
  rcases hE with hE | hE
  · simp [hE]
  · rw [validateEntropy_congr hE]

theorem checkNormalized_eq_ok {a : List UInt8} :
    v.checkNormalized a = .ok () ↔ matchAtoms uuidPattern a = true ∧
      (v.requireVersion4 = true → matchAtoms uuidV4Pattern a = true) ∧
      (v.checkEntropy = true → validateEntropy a = .ok ()) := by
  unfold UUIDValidator.checkNormalized
  cases matchAtoms uuidPattern a <;> cases v.requireVersion4 <;> cases matchAtoms uuidV4Pattern a <;>
    cases v.checkEntropy <;> simp

theorem length_removeHyphens_of_validated {u : List UInt8} (h : v.validateNodeUUID u = .ok ()) :
    (removeHyphens u).length = 32 := by
  have := length_removeHyphens_of_uuid (checkNormalized_eq_ok.1 (validateNodeUUID_eq_ok.1 h).2.2).1
  split at this
  · exact this
  · rwa [removeHyphens_removeHyphens] at this

theorem validateNodeUUID_toLower (hc : v.checkEntropy = false) (s : List UInt8) :
    v.validateNodeUUID (toLower s) = v.validateNodeUUID s := by
  rw [validateNodeUUID_eq, validateNodeUUID_eq]
  simp only [toLower_eq_nil, length_toLower]
  have hn : (if v.allowHyphens then toLower s else removeHyphens (toLower s)) =
      toLower (if v.allowHyphens then s else removeHyphens s) := by
    split <;> simp [removeHyphens_toLower]
  rw [hn, checkNormalized_congr (matchAtoms_toLower uuidPattern_separated uuidPattern_caseBlind _)
    (matchAtoms_toLower uuidV4Pattern_separated uuidV4Pattern_caseBlind _) (.inl hc)]

/-- With room for 36 characters, `ValidateNodeUUID` gives the hyphenated spelling of 32
characters the verdict of the plain one. -/
theorem validateNodeUUID_render (hm : 36 ≤ v.maxLength) {d : List UInt8} (hd : byte '-' ∉ d)
    (hl : d.length = 32) : v.validateNodeUUID (render d) = v.validateNodeUUID d := by
  have hr : render d ≠ [] := fun h => by simpa [h] using hyphen_mem_render d
  have hd' : d ≠ [] := fun h => by simp [h] at hl
  have h₁ : ¬ v.maxLength < ((render d).length : Int) := by rw [length_render hl]; omega
  have h₂ : ¬ v.maxLength < (d.length : Int) := by rw [hl]; omega
  rw [validateNodeUUID_eq, validateNodeUUID_eq, if_neg hr, if_neg hd', if_neg h₁, if_neg h₂]
  cases v.allowHyphens
  · simp only [Bool.false_eq_true, if_false, removeHyphens_render hd, removeHyphens_eq_self hd]
  · simp only [if_true]
    exact checkNormalized_congr (matchAtoms_render_uuid hd) (matchAtoms_render_uuidV4 hd)
      (.inr (by rw [removeHyphens_render hd, removeHyphens_eq_self hd]))

theorem validateNodeUUID_of_spells (hm : 36 ≤ v.maxLength) {s d : List UInt8} (h : Spells s d) :
    v.validateNodeUUID s = v.validateNodeUUID d := by
  obtain ⟨hl, hx, rfl | rfl⟩ := h
  · rfl
  · exact validateNodeUUID_render hm (hyphen_not_mem_of_hex hx) hl

end Validator

/-- **The verdict on a spelling.** For a validator with room for 36 characters, two spellings
of the same 32 hex digits, hyphenated or not, get the same result; two spellings whose digits
differ only in case get the same result when the entropy check is off. -/
theorem validateNodeUUID_spelling_invariant {v : UUIDValidator} (hm : 36 ≤ v.maxLength)
    {s₁ s₂ d₁ d₂ : List UInt8} (h₁ : Spells s₁ d₁) (h₂ : Spells s₂ d₂)
    (hd : d₁ = d₂ ∨ toLower d₁ = toLower d₂ ∧ v.checkEntropy = false) :
    v.validateNodeUUID s₁ = v.validateNodeUUID s₂ := by
  rw [validateNodeUUID_of_spells hm h₁, validateNodeUUID_of_spells hm h₂]
  rcases hd with rfl | ⟨hl, hc⟩
  · rfl
  · rw [← validateNodeUUID_toLower hc d₁, hl, validateNodeUUID_toLower hc]

/-- An upper-case hyphenated spelling and a lower-case plain one, with the entropy check off. -/
theorem validateNodeUUID_spelling_invariant_cases :
    36 ≤ (⟨true, false, true, 36⟩ : UUIDValidator).maxLength ∧
    Spells (bytesOf "550E8400-E29B-41D4-A716-446655440000") (bytesOf "550E8400E29B41D4A716446655440000") ∧
    Spells (bytesOf "550e8400e29b41d4a716446655440000") (bytesOf "550e8400e29b41d4a716446655440000") ∧
    toLower (bytesOf "550E8400E29B41D4A716446655440000") = toLower (bytesOf "550e8400e29b41d4a716446655440000") ∧
    (⟨true, false, true, 36⟩ : UUIDValidator).validateNodeUUID (bytesOf "550E8400-E29B-41D4-A716-446655440000") =
      (⟨true, false, true, 36⟩ : UUIDValidator).validateNodeUUID (bytesOf "550e8400e29b41d4a716446655440000") := by
  have h₁ : Spells (bytesOf "550E8400-E29B-41D4-A716-446655440000") (bytesOf "550E8400E29B41D4A716446655440000") :=
    ⟨by decide, by decide, .inr (by decide)⟩
  have h₂ : Spells (bytesOf "550e8400e29b41d4a716446655440000") (bytesOf "550e8400e29b41d4a716446655440000") :=
    ⟨by decide, by decide, .inl rfl⟩
  have hl : toLower (bytesOf "550E8400E29B41D4A716446655440000") =
      toLower (bytesOf "550e8400e29b41d4a716446655440000") := by decide
  exact ⟨by decide, h₁, h₂, hl, validateNodeUUID_spelling_invariant (by decide) h₁ h₂ (.inr ⟨hl, rfl⟩)⟩

/-- The entropy checks see case: with the default validator, `aBcde000-0000-4000-8000-000000000000`
is accepted, and its lowercase spelling rejected for the run `abcde`. -/
theorem case_changes_verdict :
    ¬ (∀ (v : UUIDValidator) (s₁ s₂ d₁ d₂ : List UInt8), v.allowHyphens = true →
      36 ≤ v.maxLength → Spells s₁ d₁ → Spells s₂ d₂ → toLower d₁ = toLower d₂ →
      (v.validateNodeUUID s₁ = .ok () ↔ v.validateNodeUUID s₂ = .ok ())) ∧
    newUUIDValidator.validateNodeUUID (bytesOf "aBcde000-0000-4000-8000-000000000000") = .ok () ∧
    newUUIDValidator.validateNodeUUID (bytesOf "abcde000-0000-4000-8000-000000000000") =
      .error "UUID has insufficient entropy: UUID appears to have predictable patterns" := by
  have h₁ : newUUIDValidator.validateNodeUUID (bytesOf "aBcde000-0000-4000-8000-000000000000") =
      .ok () := rfl
  have h₂ : newUUIDValidator.validateNodeUUID (bytesOf "abcde000-0000-4000-8000-000000000000") =
      .error "UUID has insufficient entropy: UUID appears to have predictable patterns" := rfl
  refine ⟨fun h => ?_, h₁, h₂⟩
  have := (h newUUIDValidator (bytesOf "aBcde000-0000-4000-8000-000000000000")
    (bytesOf "abcde000-0000-4000-8000-000000000000") (bytesOf "aBcde000000040008000000000000000")
    (bytesOf "abcde000000040008000000000000000") rfl (by decide)
    ⟨by decide, by decide, .inr (by decide)⟩ ⟨by decide, by decide, .inr (by decide)⟩ (by decide)).1 h₁
  rw [h₂] at this
  cases this

/-! ## `ValidateAndNormalize` -/

section Normalize

variable {v : UUIDValidator}

/-- What `ValidateAndNormalize` returns for a string `ValidateNodeUUID` accepts: the string
lowered, and rendered 8-4-4-4-12 when it has no hyphen. -/
theorem validateAndNormalize_of_ok {u : List UInt8} (h : v.validateNodeUUID u = .ok ()) :
    v.validateAndNormalize u =
      some (.ok (if byte '-' ∈ u then toLower u else render (toLower u))) := by
  have hl := length_removeHyphens_of_validated h
  unfold UUIDValidator.validateAndNormalize
  by_cases hu : byte '-' ∈ u
  · simp [h, hu, hyphen_mem_toLower]
  · rw [removeHyphens_eq_self hu] at hl
    simp [h, hu, hyphen_mem_toLower, removeHyphens_toLower, removeHyphens_eq_self hu, hl, hyphenate_eq]

theorem validateNodeUUID_of_normalize {u n : List UInt8}
    (h : v.validateAndNormalize u = some (.ok n)) : v.validateNodeUUID u = .ok () := by
  unfold UUIDValidator.validateAndNormalize at h
  split at h
  · cases h
  · assumption

/-- **`ValidateAndNormalize` never panics.** For every validator and every string, the slices
of the hyphenation are in range: the result is the error of `ValidateNodeUUID`, or the string
lowered, and rendered 8-4-4-4-12 when it has no hyphen. -/
theorem validateAndNormalize_total (v : UUIDValidator) (u : List UInt8) :
    v.validateAndNormalize u = some (match v.validateNodeUUID u with
      | .error e => .error e
      | .ok _ => .ok (if byte '-' ∈ u then toLower u else render (toLower u))) := by
  cases h : v.validateNodeUUID u with
  | error e => simp [UUIDValidator.validateAndNormalize, h]
  | ok _ => exact validateAndNormalize_of_ok h

/-- **`ValidateAndNormalize` on a canonical spelling.** A spelling of hex digits `d`, plain or
hyphenated at the 8-4-4-4-12 joints, normalizes to the lowercase rendering of `d`. The
normal form normalizes to itself when the input had no upper-case letter or the entropy check
is off, and the validator has room for 36 characters. -/
theorem validateAndNormalize_canonical {u n : List UInt8}
    (h : v.validateAndNormalize u = some (.ok n)) :
    (∀ d, Spells u d → n = render (toLower d)) ∧
    (36 ≤ v.maxLength → (v.checkEntropy = false ∨ toLower u = u) →
      v.validateAndNormalize n = some (.ok n)) := by
  have hv := validateNodeUUID_of_normalize h
  rw [validateAndNormalize_of_ok hv, Option.some.injEq, Except.ok.injEq] at h
  subst h
  refine ⟨fun d ⟨_, hx, hu⟩ => ?_, fun hm hc => ?_⟩
  · rcases hu with rfl | rfl
    · rw [if_neg (hyphen_not_mem_of_hex hx)]
    · rw [if_pos (hyphen_mem_render d), toLower_render]
  · have hlow : v.validateNodeUUID (toLower u) = .ok () := by
      rcases hc with hc | hc
      · rw [validateNodeUUID_toLower hc, hv]
      · rw [hc, hv]
    split
    · rename_i hu
      rw [validateAndNormalize_of_ok hlow, if_pos (hyphen_mem_toLower.2 hu), toLower_toLower]
    · rename_i hu
      have hl : (toLower u).length = 32 := by
        rw [length_toLower, ← removeHyphens_eq_self hu, length_removeHyphens_of_validated hv]
      have hr := validateNodeUUID_render hm (mt hyphen_mem_toLower.1 hu) hl
      rw [validateAndNormalize_of_ok (hr.trans hlow), if_pos (hyphen_mem_render _), toLower_render,
        toLower_toLower]

end Normalize

/-- The test's upper-case spelling, with the entropy check off: lowered, and stable. -/
theorem validateAndNormalize_canonical_upper :
    (⟨true, false, true, 36⟩ : UUIDValidator).validateAndNormalize
        (bytesOf "550E8400-E29B-41D4-A716-446655440000") =
      some (.ok (bytesOf "550e8400-e29b-41d4-a716-446655440000")) ∧
    (⟨true, false, true, 36⟩ : UUIDValidator).validateAndNormalize
        (bytesOf "550e8400-e29b-41d4-a716-446655440000") =
      some (.ok (bytesOf "550e8400-e29b-41d4-a716-446655440000")) := by
  have h : (⟨true, false, true, 36⟩ : UUIDValidator).validateAndNormalize
      (bytesOf "550E8400-E29B-41D4-A716-446655440000") =
      some (.ok (bytesOf "550e8400-e29b-41d4-a716-446655440000")) := rfl
  exact ⟨h, (validateAndNormalize_canonical h).2 (by decide) (.inl rfl)⟩

/-- A partial hyphenation is kept as it is; a mixed-case input normalizes to a string the same
validator rejects; and a validator with `MaxLength` 32 rejects the normal form of a plain
UUID it accepts. -/
theorem normalize_not_canonical :
    ¬ (∀ (v : UUIDValidator) (u n : List UInt8), v.validateAndNormalize u = some (.ok n) →
      n = render (toLower (removeHyphens u)) ∧ v.validateAndNormalize n = some (.ok n)) ∧
    newUUIDValidator.validateAndNormalize (bytesOf "550e8400e29b-41d4-a716-446655440000") =
      some (.ok (bytesOf "550e8400e29b-41d4-a716-446655440000")) ∧
    newUUIDValidator.validateAndNormalize (bytesOf "aBcde000-0000-4000-8000-000000000000") =
      some (.ok (bytesOf "abcde000-0000-4000-8000-000000000000")) ∧
    newUUIDValidator.validateAndNormalize (bytesOf "abcde000-0000-4000-8000-000000000000") =
      some (.error "UUID has insufficient entropy: UUID appears to have predictable patterns") ∧
    (⟨true, false, true, 32⟩ : UUIDValidator).validateAndNormalize
        (bytesOf "550e8400e29b41d4a716446655440000") =
      some (.ok (bytesOf "550e8400-e29b-41d4-a716-446655440000")) ∧
    (⟨true, false, true, 32⟩ : UUIDValidator).validateAndNormalize
        (bytesOf "550e8400-e29b-41d4-a716-446655440000") = some (.error "UUID too long") := by
  have hp : newUUIDValidator.validateAndNormalize (bytesOf "550e8400e29b-41d4-a716-446655440000") =
      some (.ok (bytesOf "550e8400e29b-41d4-a716-446655440000")) := rfl
  refine ⟨fun h => absurd (h _ _ _ hp).1 (by decide), hp, rfl, rfl, rfl, rfl⟩

/-! ## `AllowHyphens = false` -/

/-- **Disallowing hyphens never narrows the accepted set.** With `AllowHyphens = false` the
hyphens are removed before the checks, and a string that passes them with its hyphens still
passes them without. -/
theorem hyphens_off_accepts_more (v : UUIDValidator) {s : List UInt8}
    (h : { v with allowHyphens := true }.validateNodeUUID s = .ok ()) :
    { v with allowHyphens := false }.validateNodeUUID s = .ok () := by
  obtain ⟨h₁, h₂, h⟩ := validateNodeUUID_eq_ok.1 h
  obtain ⟨hP, hV, hE⟩ := checkNormalized_eq_ok.1 h
  exact validateNodeUUID_eq_ok.2 ⟨h₁, h₂, checkNormalized_eq_ok.2
    ⟨matchAtoms_removeHyphens uuidPattern_separated hP,
      fun hr => matchAtoms_removeHyphens uuidV4Pattern_separated (hV hr),
      fun hc => (validateEntropy_congr (removeHyphens_removeHyphens s)).trans (hE hc)⟩⟩

/-- The test's UUID passes with hyphens allowed, and so without. -/
theorem hyphens_off_accepts_more_canonical :
    { newUUIDValidator with allowHyphens := true }.validateNodeUUID
        (bytesOf "550e8400-e29b-41d4-a716-446655440000") = .ok () ∧
    { newUUIDValidator with allowHyphens := false }.validateNodeUUID
        (bytesOf "550e8400-e29b-41d4-a716-446655440000") = .ok () :=
  have h : { newUUIDValidator with allowHyphens := true }.validateNodeUUID
      (bytesOf "550e8400-e29b-41d4-a716-446655440000") = .ok () := rfl
  ⟨h, hyphens_off_accepts_more _ h⟩

/-- A hyphen in front of a valid plain UUID: accepted with `AllowHyphens = false`, rejected
with hyphens allowed. -/
theorem hyphen_anywhere_accepted :
    ¬ (∀ (v : UUIDValidator) (s : List UInt8),
      { v with allowHyphens := false }.validateNodeUUID s = .ok () →
      { v with allowHyphens := true }.validateNodeUUID s = .ok ()) ∧
    { newUUIDValidator with allowHyphens := false }.validateNodeUUID
        (bytesOf "-550e8400e29b41d4a716446655440000") = .ok () ∧
    newUUIDValidator.validateNodeUUID (bytesOf "-550e8400e29b41d4a716446655440000") =
      .error "invalid UUID format: failed format check" := by
  have h₁ : { newUUIDValidator with allowHyphens := false }.validateNodeUUID
      (bytesOf "-550e8400e29b41d4a716446655440000") = .ok () := rfl
  have h₂ : newUUIDValidator.validateNodeUUID (bytesOf "-550e8400e29b41d4a716446655440000") =
      .error "invalid UUID format: failed format check" := rfl
  refine ⟨fun h => ?_, h₁, h₂⟩
  have := h newUUIDValidator _ h₁
  rw [show { newUUIDValidator with allowHyphens := true } = newUUIDValidator from rfl, h₂] at this
  cases this

/-! ## `SanitizeForLogging` -/

theorem sanitizeForLogging_of_match {s : List UInt8} (h : matchAtoms uuidPattern s = true) :
    sanitizeForLogging s =
      some ((removeHyphens s).take 6 ++ bytesOf "**-****-****-**" ++ (removeHyphens s).drop 28) := by
  have hl := length_removeHyphens_of_uuid h
  have hs : s ≠ [] := by rintro rfl; cases hl
  have h₂ : ((removeHyphens s).drop 28).take 4 = (removeHyphens s).drop 28 :=
    List.take_of_length_le (by simp [hl])
  simp [sanitizeForLogging, hs, h, hl, goSlice, h₂]

theorem sanitizeForLogging_of_not_match {s : List UInt8} (h : matchAtoms uuidPattern s = false) :
    sanitizeForLogging s = some (if s = [] then bytesOf "<empty>"
      else bytesOf "<invalid-uuid-len-" ++ decimal s.length ++ bytesOf ">") := by
  unfold sanitizeForLogging
  split <;> simp [h]

/-- `SanitizeForLogging` never panics: its slices are in range on every input. -/
theorem sanitizeForLogging_isSome (s : List UInt8) : (sanitizeForLogging s).isSome := by
  cases h : matchAtoms uuidPattern s
  · rw [sanitizeForLogging_of_not_match h]; rfl
  · rw [sanitizeForLogging_of_match h]; rfl

/-- **Log masking reveals at most ten hex digits or a length.** Two matches whose stripped
forms agree on their first six and last four characters are logged alike; two strings that do
not match and have the same length are logged alike; and no input makes the slices go out of
range. -/
theorem sanitizeForLogging_reveals_little :
    (∀ s₁ s₂ : List UInt8, matchAtoms uuidPattern s₁ = true → matchAtoms uuidPattern s₂ = true →
      (removeHyphens s₁).take 6 = (removeHyphens s₂).take 6 →
      (removeHyphens s₁).drop ((removeHyphens s₁).length - 4) =
        (removeHyphens s₂).drop ((removeHyphens s₂).length - 4) →
      sanitizeForLogging s₁ = sanitizeForLogging s₂) ∧
    (∀ s₁ s₂ : List UInt8, matchAtoms uuidPattern s₁ = false → matchAtoms uuidPattern s₂ = false →
      s₁.length = s₂.length → sanitizeForLogging s₁ = sanitizeForLogging s₂) ∧
    ∀ s : List UInt8, (sanitizeForLogging s).isSome := by
  refine ⟨fun s₁ s₂ h₁ h₂ hf hl => ?_, fun s₁ s₂ h₁ h₂ hl => ?_, sanitizeForLogging_isSome⟩
  · rw [length_removeHyphens_of_uuid h₁, length_removeHyphens_of_uuid h₂] at hl
    rw [sanitizeForLogging_of_match h₁, sanitizeForLogging_of_match h₂, hf, hl]
  · rw [sanitizeForLogging_of_not_match h₁, sanitizeForLogging_of_not_match h₂, hl]
    simp only [← List.length_eq_zero, hl]

end TalosKmsVault
