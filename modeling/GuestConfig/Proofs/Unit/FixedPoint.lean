import GuestConfig.Proofs.Unit.Decimal
import GuestConfig.Unit.FixedPoint

/-!
# Fixed-point decimals are exact

A decimal is read as a whole number of `10 ^ -places`, and nothing is rounded: either the decimal is
such a number or it is refused.  How many zeros stand at the end of its fraction does not matter, so
that it is not the length of the fraction which decides, but what is left of it without them.  Its
last digit is not zero then, and a decimal with a longer fraction is no whole number.

Up to nineteen places a unit fits 64 bits, and a fraction scaled by it fits 128.

## What is here

* `dropZeros_append`, `digitsValue_dropZeros` — what `dropZeros` takes away are zeros.
* `Decimal.withoutZeros` and `Decimal.exists_toRat_mul_eq_iff` — **a decimal is a whole number of
  `10 ^ -places` exactly if that many places hold its fraction** without the zeros at its end.
* `FixedPointReading` — what comes of reading a text, told without reading it.
* `FixedPointReading.parseDecimal_eq`, `exists_fixedPointReading` — a reading comes out as it is
  told, and something is told of every text.
* `parseDecimal_formatDecimal` — **a decimal reads back.**
* `parseDecimal_isExact` — **reading is exact, and undoes writing.**
-/

set_option autoImplicit false

namespace GuestConfig

open Text (digits digitsValue digitsValue_digits trim)

/-! ## Zeros at the end of a fraction -/

/-- Only zeros are dropped. -/
theorem dropZeros_append (ds : List Char) :
    ∃ k, ds = dropZeros ds ++ List.replicate k '0' := by
  refine ⟨(ds.reverse.takeWhile (· == '0')).length, ?_⟩
  have hzeros : ds.reverse.takeWhile (· == '0') =
      List.replicate (ds.reverse.takeWhile (· == '0')).length '0' := by
    refine List.eq_replicate_iff.2 ⟨rfl, fun c hc ↦ ?_⟩
    simpa using List.all_eq_true.1 (List.all_takeWhile (l := ds.reverse) (p := (· == '0'))) c hc
  have hsplit := congrArg List.reverse
    (List.takeWhile_append_dropWhile (p := (· == '0')) (l := ds.reverse))
  rw [List.reverse_append, List.reverse_reverse, hzeros, List.reverse_replicate] at hsplit
  exact hsplit.symm

theorem getLast?_dropZeros_ne (ds : List Char) : (dropZeros ds).getLast? ≠ some '0' := by
  rw [dropZeros, List.getLast?_reverse]
  intro hzero
  have hhead := List.head?_dropWhile_not (· == '0') ds.reverse
  rw [hzero] at hhead
  simp at hhead

theorem length_dropZeros_le (ds : List Char) : (dropZeros ds).length ≤ ds.length := by
  obtain ⟨k, hk⟩ := dropZeros_append ds
  have := congrArg List.length hk
  rw [List.length_append] at this
  omega

theorem isDigit_of_mem_dropZeros {ds : List Char} (h : ∀ c ∈ ds, c.isDigit = true) :
    ∀ c ∈ dropZeros ds, c.isDigit = true := by
  obtain ⟨k, hk⟩ := dropZeros_append ds
  exact fun c hc ↦ h c (hk ▸ List.mem_append_left _ hc)

/-- The digits that are left count as many tenths, hundredths and so on as before. -/
theorem digitsValue_dropZeros (ds : List Char) :
    digitsValue (dropZeros ds) * 10 ^ (ds.length - (dropZeros ds).length) = digitsValue ds := by
  obtain ⟨k, hk⟩ := dropZeros_append ds
  have hlength : ds.length - (dropZeros ds).length = k := by
    have := congrArg List.length hk
    rw [List.length_append, List.length_replicate] at this
    omega
  have hvalue := congrArg digitsValue hk
  rw [digitsValue, digitsValue, Nat.ofDigitChars_append, Nat.ofDigitChars_replicate_zero] at hvalue
  rw [hlength, Nat.mul_comm]
  exact hvalue.symm

namespace Decimal

/-- A decimal without the zeros at the end of its fraction. -/
def withoutZeros (d : Decimal) : Decimal :=
  { d with fraction := dropZeros d.fraction }

theorem toRat_withoutZeros (d : Decimal) : d.withoutZeros.toRat = d.toRat := by
  have hlength := length_dropZeros_le d.fraction
  have hvalue : (digitsValue d.fraction : ℚ) = digitsValue (dropZeros d.fraction) *
      10 ^ (d.fraction.length - (dropZeros d.fraction).length) := by
    rw [← digitsValue_dropZeros d.fraction]
    push_cast
    rfl
  have hpow : (10 : ℚ) ^ d.fraction.length =
      10 ^ (d.fraction.length - (dropZeros d.fraction).length) *
        10 ^ (dropZeros d.fraction).length := by
    rw [← pow_add, Nat.sub_add_cancel hlength]
  rw [toRat, toRat, hvalue, hpow]
  simp only [withoutZeros]
  field_simp

/-- A decimal whose fraction has room in `places` is a whole number of `10 ^ -places`. -/
theorem toRat_mul_eq {d : Decimal} {places : ℕ} (h : d.fraction.length ≤ places) :
    d.toRat * 10 ^ places = d.value (10 ^ places) := by
  obtain ⟨k, rfl⟩ := Nat.exists_eq_add_of_le h
  have hvalue : d.value (10 ^ (d.fraction.length + k)) = d.numerator * 10 ^ k := by
    rw [value, pow_add, ← Nat.mul_assoc, Nat.mul_right_comm]
    exact Nat.mul_div_cancel _ (Nat.pow_pos (by decide))
  rw [hvalue, toRat_eq, cast_denominator, pow_add]
  push_cast
  field_simp

/-- A digit that is not zero is not a multiple of ten, and neither are the digits before it with
it. -/
theorem not_ten_dvd_numerator {d : Decimal} {c : Char} (h : d.fraction.getLast? = some c)
    (hdigit : c.isDigit = true) (hzero : c ≠ '0') : ¬10 ∣ d.numerator := by
  obtain ⟨fs, hfs⟩ := List.getLast?_eq_some_iff.1 h
  have hc := Text.isDigit_iff.1 hdigit
  have hne : c.toNat ≠ '0'.toNat := mt Char.toNat_inj.1 hzero
  have hcode : '0'.toNat = 48 := rfl
  rw [numerator, hfs, ← List.append_assoc, digitsValue, Nat.ofDigitChars_append,
    Nat.ofDigitChars_cons, Nat.ofDigitChars_nil]
  omega

/-- **A decimal is a whole number of `10 ^ -places` exactly if its fraction has room there**, but
for the zeros at its end. -/
theorem exists_toRat_mul_eq_iff {d : Decimal} {places : ℕ}
    (hdigits : ∀ c ∈ d.fraction, c.isDigit = true) :
    (∃ n : ℤ, d.toRat * 10 ^ places = n) ↔ (dropZeros d.fraction).length ≤ places := by
  constructor
  · rintro ⟨n, hn⟩
    by_contra hlong
    obtain ⟨k, hk⟩ := Nat.exists_eq_add_of_lt (Nat.not_le.1 hlong)
    -- scaled by its own denominator the decimal is a multiple of ten, so its last digit is zero
    have hden : (d.withoutZeros.denominator : ℚ) = 10 ^ places * 10 ^ k * 10 := by
      rw [cast_denominator, withoutZeros, hk, pow_succ, pow_add]
    have hnumerator : (d.withoutZeros.numerator : ℚ) = n * 10 ^ k * 10 := by
      rw [← toRat_withoutZeros, toRat_eq, hden] at hn
      field_simp at hn
      linarith
    have hdvd : (10 : ℤ) ∣ d.withoutZeros.numerator := by
      refine ⟨n * 10 ^ k, ?_⟩
      rw [mul_comm]
      exact_mod_cast hnumerator
    have hne : dropZeros d.fraction ≠ [] := fun e ↦ by
      rw [e] at hlong
      exact hlong (Nat.zero_le _)
    obtain ⟨c, hc⟩ := Option.ne_none_iff_exists'.1 (mt List.getLast?_eq_none_iff.1 hne)
    exact not_ten_dvd_numerator hc (isDigit_of_mem_dropZeros hdigits c (List.mem_of_getLast? hc))
      (fun e ↦ getLast?_dropZeros_ne d.fraction (e ▸ hc)) (Int.natCast_dvd_natCast.1 hdvd)
  · intro hshort
    refine ⟨d.withoutZeros.value (10 ^ places), ?_⟩
    rw [← toRat_withoutZeros, toRat_mul_eq hshort]
    rfl

end Decimal

/-! ## Reading -/

/-- What comes of reading a text as a whole number of `10 ^ -places`: blanks around it do not
matter, and then it is a decimal or not. -/
inductive FixedPointReading (s : String) (places : ℕ) : Except UnitError UInt64 → Prop
  /-- The decimal is such a number, and the number fits 64 bits. -/
  | number {d : Decimal} {n : UInt64} (spelt : Decimal.Spells (trim s.toList) d)
      (value : d.toRat * 10 ^ places = n.toNat) : FixedPointReading s places (.ok n)
  /-- There is no decimal. -/
  | notANumber (unspelt : ∀ d, ¬Decimal.Spells (trim s.toList) d) :
      FixedPointReading s places (.error (.notANumber s))
  /-- The decimal is no such number. -/
  | tooPrecise {d : Decimal} (spelt : Decimal.Spells (trim s.toList) d)
      (broken : ¬∃ n : ℤ, d.toRat * 10 ^ places = n) :
      FixedPointReading s places (.error (.tooPrecise s places))
  /-- The decimal is such a number, and the number is too large. -/
  | overflow {d : Decimal} {n : ℕ} (spelt : Decimal.Spells (trim s.toList) d)
      (value : d.toRat * 10 ^ places = n) (large : 2 ^ 64 ≤ n) :
      FixedPointReading s places (.error (.overflow s))

section reading

variable {s : String} {places : ℕ} {d : Decimal}

theorem parseDecimal_of_spells (h : Decimal.Spells (trim s.toList) d) :
    parseDecimal s places =
      if places < (dropZeros d.fraction).length then .error (.tooPrecise s places)
      else match (d.withoutZeros.scale? (10 ^ places)).bind Word.ofNat? with
        | some n => .ok n
        | none => .error (.overflow s) := by
  rw [parseDecimal, Decimal.read?_eq_some_iff.2 h]
  rfl

/-- Up to nineteen places the product of a fraction and its unit fits 128 bits. -/
theorem Decimal.pow_mul_pow_lt (hplaces : places ≤ 19)
    (h : (dropZeros d.fraction).length ≤ places) :
    10 ^ d.withoutZeros.fraction.length * 10 ^ places < 2 ^ 128 :=
  calc 10 ^ d.withoutZeros.fraction.length * 10 ^ places
      ≤ 10 ^ 19 * 10 ^ 19 := Nat.mul_le_mul (Nat.pow_le_pow_right (by decide) (h.trans hplaces))
        (Nat.pow_le_pow_right (by decide) hplaces)
    _ < 2 ^ 128 := by decide

/-- **A text is read as it is told.** -/
theorem FixedPointReading.parseDecimal_eq {r : Except UnitError UInt64} (hplaces : places ≤ 19)
    (h : FixedPointReading s places r) : parseDecimal s places = r := by
  have hvalue {d : Decimal} {n : ℕ} (spelt : Decimal.Spells (trim s.toList) d)
      (value : d.toRat * 10 ^ places = n) :
      (dropZeros d.fraction).length ≤ places ∧ d.withoutZeros.value (10 ^ places) = n := by
    have hshort := (Decimal.exists_toRat_mul_eq_iff spelt.isDigit_fraction).1
      ⟨n, value.trans (Int.cast_natCast n).symm⟩
    refine ⟨hshort, ?_⟩
    rw [← d.toRat_withoutZeros, Decimal.toRat_mul_eq hshort] at value
    exact_mod_cast value
  have hpos : 0 < 10 ^ places := Nat.pow_pos (by decide)
  cases h with
  | @number d n spelt value =>
    obtain ⟨hshort, hvalue⟩ := hvalue spelt value
    rw [parseDecimal_of_spells spelt, if_neg (Nat.not_lt.2 hshort),
      (Decimal.bind_scale?_eq_some_iff (isDigit_of_mem_dropZeros spelt.isDigit_fraction) hpos
        (Decimal.pow_mul_pow_lt hplaces hshort)).2 hvalue]
  | notANumber unspelt =>
    have hread : Decimal.read? (trim s.toList) = none :=
      Option.eq_none_iff_forall_ne_some.2 fun d ↦ mt Decimal.read?_eq_some_iff.1 (unspelt d)
    rw [parseDecimal, hread]
  | @tooPrecise d spelt broken =>
    rw [parseDecimal_of_spells spelt, if_pos]
    exact Nat.not_le.1 (mt (Decimal.exists_toRat_mul_eq_iff spelt.isDigit_fraction).2 broken)
  | @overflow d n spelt value large =>
    obtain ⟨hshort, rfl⟩ := hvalue spelt value
    rw [parseDecimal_of_spells spelt, if_neg (Nat.not_lt.2 hshort),
      (Decimal.bind_scale?_eq_none_iff (isDigit_of_mem_dropZeros spelt.isDigit_fraction) hpos
        (Decimal.pow_mul_pow_lt hplaces hshort)).2 large]

theorem exists_fixedPointReading (s : String) (places : ℕ) :
    ∃ r, FixedPointReading s places r := by
  by_cases hspelt : ∃ d, Decimal.Spells (trim s.toList) d
  · obtain ⟨d, hspelt⟩ := hspelt
    by_cases hshort : (dropZeros d.fraction).length ≤ places
    · have hvalue := Decimal.toRat_mul_eq (d := d.withoutZeros) hshort
      rw [d.toRat_withoutZeros] at hvalue
      by_cases hlarge : 2 ^ 64 ≤ d.withoutZeros.value (10 ^ places)
      · exact ⟨_, .overflow hspelt hvalue hlarge⟩
      · have hword : (UInt64.ofNat (d.withoutZeros.value (10 ^ places))).toNat =
            d.withoutZeros.value (10 ^ places) :=
          UInt64.toNat_ofNat_of_lt' (Nat.not_le.1 hlarge)
        exact ⟨_, .number hspelt (hword ▸ hvalue)⟩
    · exact ⟨_, .tooPrecise hspelt
        (mt (Decimal.exists_toRat_mul_eq_iff hspelt.isDigit_fraction).1 hshort)⟩
  · exact ⟨_, .notANumber (not_exists.1 hspelt)⟩

end reading

/-! ## Writing -/

theorem length_padded {places n : Nat} (h : n < 10 ^ places) (hpos : 0 < places) :
    (padded places n).length = places := by
  have hlength : (digits n).length ≤ places := (Nat.length_toDigits_le_iff (by decide) hpos).2 h
  rw [padded, List.length_append, List.length_replicate]
  omega

theorem digitsValue_padded (places n : Nat) : digitsValue (padded places n) = n := by
  rw [padded, digitsValue, Nat.ofDigitChars_append, Nat.ofDigitChars_replicate_zero, Nat.mul_zero]
  exact digitsValue_digits n

theorem isDigit_of_mem_padded {places n : Nat} : ∀ c ∈ padded places n, c.isDigit = true := by
  intro c hc
  rcases List.mem_append.1 hc with hc | hc
  · obtain rfl := List.eq_of_mem_replicate hc
    rfl
  · exact Text.isDigit_of_mem_digits hc

theorem toList_formatDecimal (n places : Nat) :
    (formatDecimal n places).toList =
      if n % 10 ^ places = 0 then digits (n / 10 ^ places)
      else digits (n / 10 ^ places) ++ '.' :: dropZeros (padded places (n % 10 ^ places)) :=
  String.toList_ofList

/-- A number is written as the decimal that it stands for, in no more places than there are. -/
theorem exists_spells_formatDecimal (n places : ℕ) :
    ∃ d, Decimal.Spells (formatDecimal n places).toList d ∧ d.toRat * 10 ^ places = n ∧
      d.fraction.length ≤ places := by
  have hpow : (10 : ℚ) ^ places ≠ 0 := pow_ne_zero _ (by decide)
  have hdivMod : (n : ℚ) = (n / 10 ^ places : ℕ) * 10 ^ places + (n % 10 ^ places : ℕ) := by
    exact_mod_cast (Nat.div_add_mod' n (10 ^ places)).symm
  rw [toList_formatDecimal]
  split
  · next hzero =>
    refine ⟨_, .whole (Text.digits_ne_nil _) fun c hc ↦ Text.isDigit_of_mem_digits hc, ?_,
      Nat.zero_le _⟩
    have hnil : digitsValue [] = 0 := rfl
    rw [hdivMod, hzero, Decimal.toRat, digitsValue_digits, hnil]
    simp
  · next hne =>
    have hlt : n % 10 ^ places < 10 ^ places := Nat.mod_lt _ (Nat.pow_pos (by decide))
    have hpos : 0 < places := Nat.pos_of_ne_zero fun h ↦ hne (by rw [h, pow_zero, Nat.mod_one])
    have hlength := length_padded hlt hpos
    refine ⟨_, .point (.inl (Text.digits_ne_nil _)) (fun c hc ↦ Text.isDigit_of_mem_digits hc)
      (isDigit_of_mem_dropZeros isDigit_of_mem_padded), ?_,
      (length_dropZeros_le _).trans_eq hlength⟩
    have hzeros := Decimal.toRat_withoutZeros
      ⟨digits (n / 10 ^ places), padded places (n % 10 ^ places)⟩
    rw [Decimal.withoutZeros] at hzeros
    rw [hzeros, Decimal.toRat, digitsValue_digits, digitsValue_padded, hlength, add_mul,
      div_mul_cancel₀ _ hpow, ← hdivMod]

theorem isDigit_or_of_mem_formatDecimal {n places : Nat} {c : Char}
    (h : c ∈ (formatDecimal n places).toList) : c.isDigit = true ∨ c = '.' := by
  obtain ⟨d, hspelt, -, -⟩ := exists_spells_formatDecimal n places
  exact hspelt.isDigit_or h

/-- **A decimal reads back.** -/
theorem parseDecimal_formatDecimal {places : ℕ} (hplaces : places ≤ 19) (n : UInt64) :
    parseDecimal (formatDecimal n.toNat places) places = .ok n := by
  obtain ⟨d, hspelt, hvalue, -⟩ := exists_spells_formatDecimal n.toNat places
  rw [← hspelt.trim_eq] at hspelt
  exact FixedPointReading.parseDecimal_eq hplaces (.number hspelt hvalue)

/-- A text is as short as the decimal that it spells can be: no zeros stand at the end of its
fraction, and no point stands at the end of it. -/
def Decimal.IsShort (cs : List Char) : Prop :=
  '.' ∈ cs → cs.getLast? ≠ some '0' ∧ cs.getLast? ≠ some '.'

/-- A number is written as short as can be. -/
theorem isShort_formatDecimal (n places : ℕ) :
    Decimal.IsShort (formatDecimal n places).toList := by
  rw [toList_formatDecimal]
  split
  · exact fun hpoint ↦ absurd hpoint (Text.point_not_mem fun c hc ↦ Text.isDigit_of_mem_digits hc)
  · next hne =>
    intro _
    have hzero := getLast?_dropZeros_ne (padded places (n % 10 ^ places))
    have hdigits : ∀ c ∈ dropZeros (padded places (n % 10 ^ places)), c.isDigit = true :=
      isDigit_of_mem_dropZeros isDigit_of_mem_padded
    -- a fraction that is not zero has a digit left
    have hfraction : dropZeros (padded places (n % 10 ^ places)) ≠ [] := fun hnil ↦ by
      have hvalue := digitsValue_dropZeros (padded places (n % 10 ^ places))
      rw [hnil, digitsValue_padded] at hvalue
      exact hne (hvalue.symm.trans (Nat.zero_mul _))
    obtain ⟨c, hc⟩ := Option.ne_none_iff_exists'.1 (mt List.getLast?_eq_none_iff.1 hfraction)
    rw [List.getLast?_append_cons, List.getLast?_cons, hc]
    rw [hc] at hzero
    have hpoint : c ≠ '.' := by
      rintro rfl
      exact absurd (hdigits _ (List.mem_of_getLast? hc)) (by decide)
    exact ⟨hzero, fun h ↦ hpoint (Option.some.inj h)⟩

/-! ## Reading and writing -/

/-- **Fixed-point decimals are exact**, up to nineteen places.  Every number is written as short as
can be and reads back, and every text is read as what it stands for. -/
theorem parseDecimal_isExact {places : ℕ} (hplaces : places ≤ 19) :
    (∀ n : UInt64, parseDecimal (formatDecimal n.toNat places) places = .ok n ∧
      Decimal.IsShort (formatDecimal n.toNat places).toList) ∧
    ∀ s r, parseDecimal s places = r ↔ FixedPointReading s places r := by
  refine ⟨fun n ↦ ⟨parseDecimal_formatDecimal hplaces n, isShort_formatDecimal n.toNat places⟩,
    fun s r ↦ ⟨?_, FixedPointReading.parseDecimal_eq hplaces⟩⟩
  rintro rfl
  obtain ⟨r, hreading⟩ := exists_fixedPointReading s places
  rwa [hreading.parseDecimal_eq hplaces]

/-- The greatest number is written with all nineteen places, and the next one is too large. -/
theorem parseDecimal_isExact_nineteen :
    formatDecimal 18446744073709551615 19 = "1.8446744073709551615" ∧
      parseDecimal (formatDecimal (18446744073709551615 : UInt64).toNat 19) 19 =
        .ok 18446744073709551615 ∧
      FixedPointReading "1.8446744073709551616" 19
        (.error (.overflow "1.8446744073709551616")) :=
  ⟨by decide +kernel, ((parseDecimal_isExact (by decide)).1 _).1,
    ((parseDecimal_isExact (by decide)).2 _ _).1 (by decide +kernel)⟩

end GuestConfig
