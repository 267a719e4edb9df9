import GuestConfig.Proofs.Unit.FixedPoint
import GuestConfig.Proofs.Unit.Size

/-!
# Sizes in gibibytes

A new disk is asked for in gibibytes with at most three places, although sizes are kept in
kibibytes.  A thousandth of a gibibyte is no whole number of kibibytes, but 1048.576 of them.  So a
size is rounded twice on its way: to the nearest thousandth when it is written, and down to a whole
kibibyte when it is read.  Half a thousandth is 524.288 KiB, and both errors together stay within
525 KiB.  Nothing is lost of an eighth of a gibibyte, which is 125 thousandths.

A size below half a thousandth would be written as nothing at all.  It is written as one thousandth
instead, and sizes still come in the same order as what is written for them.

## What is here

* `gibibyteThousandths_eq` — the thousandths of a size, with the one that is always there;
  `gibibyteThousandths_mono` and `gibibyteThousandths_le` follow.
* `nearest_gibibyteThousandths`, `gibibyteThousandths_of_dvd` — how far off they are.
* `parseSize_formatDecimal` — what is read of a decimal with a unit after it.
* `formatGibibytes_isFaithful` — **a size in gibibytes is the size that is meant**, but for 525 KiB.
-/

set_option autoImplicit false

namespace GuestConfig

/-! ## Thousandths of a gibibyte -/

/-- The thousandths of a size, at least one unless there is no size. -/
theorem gibibyteThousandths_eq (kib : ℕ) :
    gibibyteThousandths kib = if kib = 0 then 0 else max 1 ((kib * 1000 + 524288) / 1048576) := by
  obtain rfl | hpos := Nat.eq_zero_or_pos kib
  · rfl
  · have hunit : SizeUnit.gibibyte.kibibytes = 1048576 := rfl
    rw [gibibyteThousandths, hunit, if_neg hpos.ne']
    split <;> omega

theorem gibibyteThousandths_mono {a b : ℕ} (h : a ≤ b) :
    gibibyteThousandths a ≤ gibibyteThousandths b := by
  have hdiv : (a * 1000 + 524288) / 1048576 ≤ (b * 1000 + 524288) / 1048576 :=
    Nat.div_le_div_right (by omega)
  rw [gibibyteThousandths_eq, gibibyteThousandths_eq]
  split <;> split <;> omega

theorem gibibyteThousandths_eq_zero_iff {kib : ℕ} : gibibyteThousandths kib = 0 ↔ kib = 0 := by
  rw [gibibyteThousandths_eq]
  split <;> omega

/-- There are no more thousandths than kibibytes, so that their number fits whatever the size
fits. -/
theorem gibibyteThousandths_le (kib : ℕ) : gibibyteThousandths kib ≤ kib := by
  rw [gibibyteThousandths_eq]
  split <;> omega

/-- From half a thousandth on a size is rounded to the nearest one. -/
theorem nearest_gibibyteThousandths {kib : ℕ} (h : 525 ≤ kib) :
    gibibyteThousandths kib * 1048576 ≤ kib * 1000 + 524288 ∧
      kib * 1000 < gibibyteThousandths kib * 1048576 + 524288 := by
  rw [gibibyteThousandths_eq]
  split <;> omega

theorem gibibyteThousandths_of_dvd {kib : ℕ} (h : 131072 ∣ kib) :
    gibibyteThousandths kib * 1048576 = kib * 1000 := by
  obtain ⟨m, hm⟩ := h
  have hdiv : (kib * 1000 + 524288) / 1048576 = 125 * m := by omega
  rw [gibibyteThousandths_eq, hdiv]
  split
  · next hzero => rw [hzero]
  · next hne =>
    have hmax : max 1 (125 * m) = 125 * m := max_eq_right (by omega)
    rw [hmax, hm]
    ring

/-! ## Reading -/

/-- **A decimal with a unit after it is read as the whole kibibytes in it.** -/
theorem parseSize_formatDecimal {n places : ℕ} {u : SizeUnit} {k : UInt64} (hplaces : places ≤ 18)
    (h : n * u.kibibytes / 10 ^ places = k.toNat) :
    parseSize (formatDecimal n places ++ String.singleton u.letter) = .ok k := by
  obtain ⟨d, hspelt, hvalue, hlength⟩ := exists_spells_formatDecimal n places
  have hsize : SpellsSize (formatDecimal n places ++ String.singleton u.letter).toList d u := by
    rw [String.toList_append, String.toList_singleton]
    exact .unit hspelt (.inl rfl)
  have hfloor : ⌊d.toRat * u.kibibytes⌋₊ = k.toNat := by
    have hquotient : d.toRat * u.kibibytes =
        ((n * u.kibibytes : ℕ) : ℚ) / ((10 ^ places : ℕ) : ℚ) := by
      rw [eq_div_iff (by positivity)]
      push_cast
      rw [← hvalue]
      ring
    rw [hquotient, Nat.floor_div_eq_div, h]
  exact hsize.parseSize_eq (hlength.trans hplaces) hfloor

theorem parseSize_formatGibibytes {kib read : UInt64}
    (h : gibibyteThousandths kib.toNat * 1048576 / 1000 = read.toNat) :
    parseSize (formatGibibytes kib ++ "G") = .ok read :=
  parseSize_formatDecimal (u := .gibibyte) (by decide) h

theorem toNat_gibibyteThousandths (kib : UInt64) :
    (UInt64.ofNat (gibibyteThousandths kib.toNat)).toNat = gibibyteThousandths kib.toNat :=
  UInt64.toNat_ofNat_of_lt' ((gibibyteThousandths_le _).trans_lt kib.toNat_lt)

theorem parseDecimal_formatGibibytes (kib : UInt64) :
    parseDecimal (formatGibibytes kib) 3 = .ok (UInt64.ofNat (gibibyteThousandths kib.toNat)) := by
  have hread : parseDecimal (formatDecimal (UInt64.ofNat (gibibyteThousandths kib.toNat)).toNat 3) 3
      = .ok (UInt64.ofNat (gibibyteThousandths kib.toNat)) :=
    parseDecimal_formatDecimal (by decide) _
  rwa [toNat_gibibyteThousandths] at hread

/-! ## Reading and writing -/

/-- **A size in gibibytes is the size that is meant**, but for 525 KiB, and it is exact for the
multiples of 128 MiB.  A larger size is never written as a smaller number of gibibytes, and only an
empty one as zero. -/
theorem formatGibibytes_isFaithful :
    (∀ kib : UInt64, 4097 ≤ kib.toNat → kib.toNat < 2 ^ 63 →
      ∃ read : UInt64, parseSize (formatGibibytes kib ++ "G") = .ok read ∧
        |(read.toNat : ℤ) - kib.toNat| ≤ 525 ∧ (131072 ∣ kib.toNat → read = kib)) ∧
    ∀ a b : UInt64, a ≤ b → ∃ m n : UInt64,
      parseDecimal (formatGibibytes a) 3 = .ok m ∧ parseDecimal (formatGibibytes b) 3 = .ok n ∧
        m ≤ n ∧ (m = 0 ↔ a = 0) ∧ (n = 0 ↔ b = 0) := by
  have hzero (kib : UInt64) : UInt64.ofNat (gibibyteThousandths kib.toNat) = 0 ↔ kib = 0 := by
    rw [← UInt64.toNat_inj, toNat_gibibyteThousandths, ← UInt64.toNat_inj]
    exact gibibyteThousandths_eq_zero_iff
  refine ⟨fun kib hlow hhigh ↦ ?_, fun a b hle ↦ ?_⟩
  · obtain ⟨hbelow, habove⟩ := nearest_gibibyteThousandths (show 525 ≤ kib.toNat by omega)
    have hfits : gibibyteThousandths kib.toNat * 1048576 / 1000 < 2 ^ 64 := by omega
    have hread := (UInt64.toNat_ofNat_of_lt' hfits).symm
    refine ⟨_, parseSize_formatGibibytes hread, ?_, fun hdvd ↦ ?_⟩
    · rw [← hread, abs_le]
      omega
    · rw [← UInt64.toNat_inj, ← hread, gibibyteThousandths_of_dvd hdvd,
        Nat.mul_div_cancel _ (by decide)]
  · refine ⟨_, _, parseDecimal_formatGibibytes a, parseDecimal_formatGibibytes b, ?_, hzero a,
      hzero b⟩
    rw [UInt64.le_iff_toNat_le, toNat_gibibyteThousandths, toNat_gibibyteThousandths]
    exact gibibyteThousandths_mono (UInt64.le_iff_toNat_le.1 hle)

/-- Five mebibytes are asked for as five thousandths of a gibibyte, which are 122 KiB more; a
gibibyte and a half is asked for as it is. -/
theorem formatGibibytes_isFaithful_five_mebibytes :
    formatGibibytes 5120 = "0.005" ∧ formatGibibytes 1572864 = "1.5" ∧
      (∃ read : UInt64, parseSize (formatGibibytes 5120 ++ "G") = .ok read ∧
        |(read.toNat : ℤ) - (5120 : UInt64).toNat| ≤ 525) ∧
      parseSize (formatGibibytes 1572864 ++ "G") = .ok 1572864 ∧
      ∃ m n : UInt64, parseDecimal (formatGibibytes 5120) 3 = .ok m ∧
        parseDecimal (formatGibibytes 1572864) 3 = .ok n ∧ m ≤ n ∧ m ≠ 0 := by
  obtain ⟨hsizes, horder⟩ := formatGibibytes_isFaithful
  obtain ⟨near, hnear, hdistance, -⟩ := hsizes 5120 (by decide) (by decide)
  obtain ⟨read, hread, -, heq⟩ := hsizes 1572864 (by decide) (by decide)
  obtain rfl := heq (by decide +kernel)
  obtain ⟨m, n, hm, hn, hle, hzero, -⟩ := horder 5120 1572864 (by decide)
  exact ⟨by decide +kernel, by decide +kernel, ⟨near, hnear, hdistance⟩,
    hread, m, n, hm, hn, hle, mt hzero.1 (by decide)⟩

end GuestConfig
