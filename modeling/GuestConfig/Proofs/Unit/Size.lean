import GuestConfig.Proofs.Unit.Decimal
import GuestConfig.Unit.Size

/-!
# Sizes are exact

A size is a decimal and a unit, and it counts the whole kibibytes in their product.  A text is
refused for what is wrong with it, the letter at its end first, the decimal then, and the number at
last; no text is refused for what is computed on the way.

A size is written in the largest unit that divides it, so that nothing is lost: what is written
reads back, and no two sizes are written alike.

## What is here

* `SizeUnit.IsLetter` and `SizeUnit.ofLetter?_eq_some_iff` — the letters of the units.
* `SpellsSize` — the texts of sizes.
* `SizeReading` — what comes of reading a text, told without reading it.
* `SizeReading.parseSize_eq`, `exists_sizeReading` — a reading comes out as it is told, and
  something is told of every text.
* `parseSize_eq_iff` — **reading a size is exact.**
* `SizeUnit.kibibytes_le_of_dvd` — no larger unit divides a size than the one that is chosen.
* `spellsSize_formatSize` and `parseSize_formatSize` — **a size reads back.**
* `formatSize_isLossless` — **writing a size loses nothing, and takes the largest unit.**
-/

set_option autoImplicit false

namespace GuestConfig

open Text (digits digitsValue digitsValue_digits isBlank trim)

/-! ## Letters -/

namespace Text

theorem isAlpha_iff {c : Char} :
    c.isAlpha = true ↔ (65 ≤ c.toNat ∧ c.toNat ≤ 90) ∨ (97 ≤ c.toNat ∧ c.toNat ≤ 122) := by
  change (decide (c.val ≥ 'A'.val ∧ c.val ≤ 'Z'.val) ||
    (decide (c.val ≥ 'a'.val) && decide (c.val ≤ 'z'.val))) = true ↔ _
  simp [UInt32.le_iff_toNat_le]

theorem isAlpha_eq_false_of_isDigit {c : Char} (h : c.isDigit = true) : c.isAlpha = false := by
  have hc := isDigit_iff.1 h
  refine Bool.eq_false_iff.2 fun halpha ↦ ?_
  have := isAlpha_iff.1 halpha
  omega

/-- A letter in upper case stands 32 places before the one in lower case. -/
theorem toUpper_eq_or (c : Char) : c.toUpper = c ∨ c.toUpper.toNat + 32 = c.toNat := by
  by_cases h : 'a'.val ≤ c.val ∧ c.val ≤ 'z'.val
  · right
    have hupper : c.toUpper = ⟨c.val + ('A'.val - 'a'.val), _⟩ := dif_pos h
    have hc : 97 ≤ c.val.toNat ∧ c.val.toNat ≤ 122 := by
      simpa [UInt32.le_iff_toNat_le] using h
    have hshift : ('A'.val - 'a'.val).toNat = 4294967264 := by decide +kernel
    change c.toUpper.val.toNat + 32 = c.val.toNat
    rw [congrArg Char.val hupper, UInt32.toNat_add, hshift]
    omega
  · exact .inl (dif_neg h)

end Text

/-! ## Units -/

namespace SizeUnit

/-- A letter stands for a unit, in upper or in lower case. -/
def IsLetter (u : SizeUnit) (c : Char) : Prop :=
  c = u.letter ∨ c = u.letter.toLower

/-- **The letters that are read as a unit.** -/
theorem ofLetter?_eq_some_iff {c : Char} {u : SizeUnit} :
    ofLetter? c = some u ↔ u.IsLetter c := by
  constructor
  · intro h
    have hupper : c.toUpper = u.letter := by
      unfold ofLetter? at h
      split at h
      all_goals first | (obtain rfl := Option.some.inj h; assumption) | cases h
    have hlower : u.letter.toLower.toNat = u.letter.toNat + 32 := by
      cases u <;> rfl
    rw [IsLetter, ← Char.toNat_inj (d := u.letter.toLower), hlower, ← hupper]
    exact (Text.toUpper_eq_or c).imp Eq.symm Eq.symm
  · rintro (rfl | rfl) <;> cases u <;> rfl

theorem IsLetter.isAlpha {u : SizeUnit} {c : Char} (h : u.IsLetter c) : c.isAlpha = true := by
  rcases h with rfl | rfl <;> cases u <;> decide

theorem IsLetter.isBlank_eq_false {u : SizeUnit} {c : Char} (h : u.IsLetter c) :
    isBlank c = false := by
  rcases h with rfl | rfl <;> cases u <;> decide

end SizeUnit

/-! ## Texts of sizes -/

/-- A text spells a size: a decimal, and after it the letter of a unit or nothing, which stands for
kibibytes. -/
inductive SpellsSize : List Char → Decimal → SizeUnit → Prop
  /-- Without a letter. -/
  | bare {cs : List Char} {d : Decimal} (h : Decimal.Spells cs d) : SpellsSize cs d .kibibyte
  /-- With the letter of a unit. -/
  | unit {cs : List Char} {d : Decimal} {u : SizeUnit} {c : Char} (h : Decimal.Spells cs d)
      (hletter : u.IsLetter c) : SpellsSize (cs ++ [c]) d u

/-- A text ends in a letter that stands for no unit. -/
def EndsInOtherLetter (cs : List Char) : Prop :=
  ∃ body c, cs = body ++ [c] ∧ c.isAlpha = true ∧ ∀ u : SizeUnit, ¬u.IsLetter c

section texts

variable {cs body : List Char} {d : Decimal} {u : SizeUnit}

theorem SpellsSize.isDigit_fraction (h : SpellsSize cs d u) :
    ∀ c ∈ d.fraction, c.isDigit = true := by
  cases h with
  | bare h => exact h.isDigit_fraction
  | unit h hletter => exact h.isDigit_fraction

theorem SpellsSize.trim_eq (h : SpellsSize cs d u) : trim cs = cs := by
  refine Text.trim_eq_self_of_all fun c hc ↦ ?_
  cases h with
  | bare h => exact h.isBlank_eq_false hc
  | unit h hletter =>
    rcases List.mem_append.1 hc with hc | hc
    · exact h.isBlank_eq_false hc
    · rw [List.mem_singleton.1 hc]
      exact hletter.isBlank_eq_false

theorem Decimal.Spells.isAlpha_eq_false (h : Decimal.Spells cs d) {c : Char} (hc : c ∈ cs) :
    c.isAlpha = false := by
  rcases h.isDigit_or hc with hdigit | rfl
  · exact Text.isAlpha_eq_false_of_isDigit hdigit
  · decide

theorem SpellsSize.exists_splitUnit? (h : SpellsSize cs d u) :
    ∃ body, splitUnit? cs = some (body, u) ∧ Decimal.Spells body d := by
  cases h with
  | bare h =>
    refine ⟨cs, ?_, h⟩
    rcases List.eq_nil_or_concat' cs with rfl | ⟨init, c, rfl⟩
    · exact splitUnit?_nil
    · have hc : c.isAlpha = false := h.isAlpha_eq_false List.mem_concat_self
      rw [splitUnit?_concat, if_neg (Bool.eq_false_iff.1 hc)]
  | @unit cs _ _ c h hletter =>
    refine ⟨cs, ?_, h⟩
    rw [splitUnit?_concat, if_pos hletter.isAlpha, SizeUnit.ofLetter?_eq_some_iff.2 hletter,
      Option.map_some]

theorem SpellsSize.of_splitUnit? (h : splitUnit? cs = some (body, u))
    (hspelt : Decimal.Spells body d) : SpellsSize cs d u := by
  rcases List.eq_nil_or_concat' cs with rfl | ⟨init, c, rfl⟩
  · cases h
    exact .bare hspelt
  · rw [splitUnit?_concat] at h
    split at h
    · obtain ⟨u, hletter, heq⟩ := Option.map_eq_some_iff.1 h
      cases heq
      exact .unit hspelt (SizeUnit.ofLetter?_eq_some_iff.1 hletter)
    · cases h
      exact .bare hspelt

/-- The last character decides whether there is a letter that stands for no unit. -/
theorem endsInOtherLetter_concat_iff {c : Char} :
    EndsInOtherLetter (cs ++ [c]) ↔ c.isAlpha = true ∧ ∀ u : SizeUnit, ¬u.IsLetter c := by
  constructor
  · rintro ⟨body, c', heq, halpha, hother⟩
    obtain ⟨-, hlast⟩ := List.append_inj' heq rfl
    obtain rfl := List.singleton_inj.1 hlast
    exact ⟨halpha, hother⟩
  · rintro ⟨halpha, hother⟩
    exact ⟨cs, c, rfl, halpha, hother⟩

theorem splitUnit?_eq_none_iff : splitUnit? cs = none ↔ EndsInOtherLetter cs := by
  rcases List.eq_nil_or_concat' cs with rfl | ⟨init, c, rfl⟩
  · refine iff_of_false nofun ?_
    rintro ⟨body, c, heq, -⟩
    exact absurd heq.symm (List.concat_ne_nil c body)
  · rw [splitUnit?_concat, endsInOtherLetter_concat_iff]
    split
    · next halpha =>
      rw [Option.map_eq_none_iff, Option.eq_none_iff_forall_ne_some, and_iff_right halpha]
      exact forall_congr' fun u ↦ not_congr SizeUnit.ofLetter?_eq_some_iff
    · next halpha => exact iff_of_false nofun fun h ↦ halpha h.1

end texts

/-! ## Reading -/

/-- What comes of reading a text as a size: blanks around it do not matter, and then it is a size or
not. -/
inductive SizeReading (s : String) : Except UnitError UInt64 → Prop
  /-- The whole kibibytes in the size fit 64 bits. -/
  | size {d : Decimal} {u : SizeUnit} {k : UInt64} (spelt : SpellsSize (trim s.toList) d u)
      (places : d.fraction.length ≤ 18) (value : ⌊d.toRat * u.kibibytes⌋₊ = k.toNat) :
      SizeReading s (.ok k)
  /-- There is a letter at the end, but no unit. -/
  | unknownSuffix (letter : EndsInOtherLetter (trim s.toList)) :
      SizeReading s (.error (.unknownSuffix s))
  /-- There is no decimal. -/
  | notANumber (noLetter : ¬EndsInOtherLetter (trim s.toList))
      (unspelt : ∀ d u, ¬SpellsSize (trim s.toList) d u) : SizeReading s (.error (.notANumber s))
  /-- The fraction is too long. -/
  | tooPrecise {d : Decimal} {u : SizeUnit} (spelt : SpellsSize (trim s.toList) d u)
      (places : 18 < d.fraction.length) : SizeReading s (.error (.tooPrecise s 18))
  /-- There are too many kibibytes. -/
  | overflow {d : Decimal} {u : SizeUnit} (spelt : SpellsSize (trim s.toList) d u)
      (places : d.fraction.length ≤ 18) (large : 2 ^ 64 ≤ ⌊d.toRat * u.kibibytes⌋₊) :
      SizeReading s (.error (.overflow s))

section reading

variable {s : String} {d : Decimal} {u : SizeUnit}

theorem parseSize_of_spellsSize (h : SpellsSize (trim s.toList) d u) :
    parseSize s =
      if 18 < d.fraction.length then .error (.tooPrecise s 18)
      else match (d.scale? u.kibibytes).bind Word.ofNat? with
        | some kib => .ok kib
        | none => .error (.overflow s) := by
  obtain ⟨body, hsplit, hbody⟩ := h.exists_splitUnit?
  rw [parseSize, hsplit]
  dsimp only
  rw [Decimal.read?_eq_some_iff.2 hbody]
  rfl

/-- With eighteen places the product of a fraction and its unit fits 128 bits. -/
theorem SizeUnit.pow_mul_kibibytes_lt (u : SizeUnit) {places : ℕ} (h : places ≤ 18) :
    10 ^ places * u.kibibytes < 2 ^ 128 :=
  calc 10 ^ places * u.kibibytes
      ≤ 10 ^ 18 * SizeUnit.tebibyte.kibibytes :=
        Nat.mul_le_mul (Nat.pow_le_pow_right (by decide) h) (by cases u <;> decide)
    _ < 2 ^ 128 := by decide

/-- **A text is read as it is told.** -/
theorem SizeReading.parseSize_eq {r : Except UnitError UInt64} (h : SizeReading s r) :
    parseSize s = r := by
  cases h with
  | @size d u k spelt places value =>
    rw [← d.value_eq_floor] at value
    rw [parseSize_of_spellsSize spelt, if_neg (Nat.not_lt.2 places),
      (Decimal.bind_scale?_eq_some_iff spelt.isDigit_fraction u.kibibytes_pos
        (u.pow_mul_kibibytes_lt places)).2 value]
  | unknownSuffix letter => rw [parseSize, splitUnit?_eq_none_iff.2 letter]
  | notANumber noLetter unspelt =>
    obtain ⟨⟨body, u⟩, hsplit⟩ :=
      Option.ne_none_iff_exists'.1 (mt splitUnit?_eq_none_iff.1 noLetter)
    have hread : Decimal.read? body = none := by
      refine Option.eq_none_iff_forall_ne_some.2 fun d hd ↦ unspelt d u ?_
      exact .of_splitUnit? hsplit (Decimal.read?_eq_some_iff.1 hd)
    rw [parseSize, hsplit]
    dsimp only
    rw [hread]
  | tooPrecise spelt places => rw [parseSize_of_spellsSize spelt, if_pos places]
  | @overflow d u spelt places large =>
    rw [← d.value_eq_floor] at large
    rw [parseSize_of_spellsSize spelt, if_neg (Nat.not_lt.2 places),
      (Decimal.bind_scale?_eq_none_iff spelt.isDigit_fraction u.kibibytes_pos
        (u.pow_mul_kibibytes_lt places)).2 large]

theorem SpellsSize.parseSize_eq {k : UInt64} (h : SpellsSize s.toList d u)
    (places : d.fraction.length ≤ 18) (value : ⌊d.toRat * u.kibibytes⌋₊ = k.toNat) :
    parseSize s = .ok k :=
  SizeReading.parseSize_eq (.size (h.trim_eq.symm ▸ h) places value)

theorem exists_sizeReading (s : String) : ∃ r, SizeReading s r := by
  by_cases hspelt : ∃ d u, SpellsSize (trim s.toList) d u
  · obtain ⟨d, u, hspelt⟩ := hspelt
    rcases Nat.lt_or_ge 18 d.fraction.length with hlong | hplaces
    · exact ⟨_, .tooPrecise hspelt hlong⟩
    · rcases Nat.lt_or_ge ⌊d.toRat * u.kibibytes⌋₊ (2 ^ 64) with hsmall | hlarge
      · exact ⟨_, .size hspelt hplaces (UInt64.toNat_ofNat_of_lt' hsmall).symm⟩
      · exact ⟨_, .overflow hspelt hplaces hlarge⟩
  · rw [not_exists] at hspelt
    by_cases hletter : EndsInOtherLetter (trim s.toList)
    · exact ⟨_, .unknownSuffix hletter⟩
    · exact ⟨_, .notANumber hletter fun d ↦ not_exists.1 (hspelt d)⟩

/-- **Reading a size is exact.**  A text comes out as the whole kibibytes in the size that it
spells, or is refused for what is wrong with it. -/
theorem parseSize_eq_iff {r : Except UnitError UInt64} : parseSize s = r ↔ SizeReading s r := by
  refine ⟨?_, SizeReading.parseSize_eq⟩
  rintro rfl
  obtain ⟨r, hreading⟩ := exists_sizeReading s
  rwa [hreading.parseSize_eq]

end reading

/-! ## Writing -/

theorem toList_formatSize (kib : UInt64) :
    (formatSize kib).toList =
      digits (kib.toNat / (largestUnit kib.toNat).kibibytes) ++
        [(largestUnit kib.toNat).letter] := by
  simp [formatSize]

/-- **The unit that is chosen is the largest one that divides the size.** -/
theorem SizeUnit.kibibytes_le_of_dvd {kib : ℕ} (hpos : 0 < kib) {u : SizeUnit}
    (h : u.kibibytes ∣ kib) : u.kibibytes ≤ (largestUnit kib).kibibytes := by
  unfold largestUnit
  rw [if_neg hpos.ne']
  cases u with
  | kibibyte => exact kibibytes_pos _
  | mebibyte =>
    rw [if_pos h]
    split
    · decide
    · split <;> decide
  | gibibyte =>
    rw [if_pos h]
    split <;> decide
  | tebibyte => rw [if_pos h]

/-- **A size is written as what it is.** -/
theorem spellsSize_formatSize (kib : UInt64) :
    SpellsSize (formatSize kib).toList
      ⟨digits (kib.toNat / (largestUnit kib.toNat).kibibytes), []⟩ (largestUnit kib.toNat) := by
  rw [toList_formatSize]
  exact .unit (.whole (Text.digits_ne_nil _) fun c hc ↦ Text.isDigit_of_mem_digits hc) (.inl rfl)

/-- **A size reads back.** -/
theorem parseSize_formatSize (kib : UInt64) : parseSize (formatSize kib) = .ok kib := by
  refine (spellsSize_formatSize kib).parseSize_eq (Nat.zero_le _) ?_
  have hfraction : digitsValue [] = 0 := rfl
  rw [← Decimal.value_eq_floor, Decimal.value_eq, digitsValue_digits, hfraction, Nat.zero_mul,
    Nat.zero_div, Nat.add_zero, Nat.div_mul_cancel (largestUnit_dvd _)]

theorem getLast?_formatSize (kib : UInt64) :
    (formatSize kib).toList.getLast? = some (largestUnit kib.toNat).letter := by
  rw [toList_formatSize, List.getLast?_concat]

/-! ## Reading and writing -/

/-- **Writing a size loses nothing, and takes the largest unit.**  Every size reads back, and one
that is not empty is written in the largest unit that divides it; so a text of a size may be
written anew, and no two sizes are written alike. -/
theorem formatSize_isLossless :
    (∀ k : UInt64, parseSize (formatSize k) = .ok k ∧
      (0 < k → ∃ u : SizeUnit, (formatSize k).toList.getLast? = some u.letter ∧
        u.kibibytes ∣ k.toNat ∧
          ∀ u' : SizeUnit, u'.kibibytes ∣ k.toNat → u'.kibibytes ≤ u.kibibytes)) ∧
    (∀ s k, parseSize s = .ok k → parseSize (formatSize k) = .ok k) ∧
    Function.Injective formatSize := by
  refine ⟨fun k ↦ ⟨parseSize_formatSize k, fun hpos ↦ ?_⟩, fun _ k _ ↦ parseSize_formatSize k,
    fun k l h ↦ ?_⟩
  · exact ⟨largestUnit k.toNat, getLast?_formatSize k, largestUnit_dvd k.toNat,
      fun u' ↦ SizeUnit.kibibytes_le_of_dvd (UInt64.lt_iff_toNat_lt.1 hpos)⟩
  · have hread := parseSize_formatSize k
    rw [h, parseSize_formatSize] at hread
    exact (Except.ok.inj hread).symm

/-- A gibibyte and a half divides into mebibytes only, and so it is written. -/
theorem formatSize_isLossless_half_gibibyte :
    parseSize "1.5G" = .ok 1572864 ∧ formatSize 1572864 = "1536M" ∧
      parseSize (formatSize 1572864) = .ok 1572864 ∧
      ∃ u : SizeUnit, (formatSize 1572864).toList.getLast? = some u.letter ∧
        u.kibibytes ∣ (1572864 : UInt64).toNat ∧
          ∀ u' : SizeUnit, u'.kibibytes ∣ (1572864 : UInt64).toNat → u'.kibibytes ≤ u.kibibytes :=
  have hread : parseSize "1.5G" = .ok 1572864 := by decide +kernel
  ⟨hread, by decide +kernel, formatSize_isLossless.2.1 "1.5G" 1572864 hread,
    (formatSize_isLossless.1 1572864).2 (by decide)⟩

end GuestConfig
