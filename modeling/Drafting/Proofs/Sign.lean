import Mathlib
import Drafting.Command.Scan
import Drafting.Value.Ops

/-!
# The sign of the numbers a command reads

A command writes its keyword numbers without a sign: `radius 5`, `minor axis 20`.  The
numeral is rounded to the nearest double by `Double.ofDecimal`, which builds the bits, and a
number is compared with zero exactly, by reading the bits back with `Double.decode`.  A numeral
read without a minus is a double whose sign bit is clear, so it is never below zero
(`keywordNumber_not_below_zero`).

The conversion picks an exponent at which the quotient `num * 2 ^ (-e) / den` lies below
`2 ^ 53` (`quotientAt_exponentFor_lt`); rounding adds at most one, and a significand carried
to `2 ^ 53` moves to the next exponent, so the bits stay below those of infinity and far from
the sign bit (`nearestBits_lt`).  Turning bits into a double and back keeps a clear sign bit
(`toBits_ofBits_lt`).
-/

namespace Drafting

namespace Double

/-! ### The quotient at an exponent -/

/-- The whole part of `num * 2 ^ (-e) / den`, as `scaled` keeps it. -/
def quotientAt (num den : Nat) (e : Int) : Nat := (scaled num den e).1 / (scaled num den e).2

theorem bitLength_bounds {n : Nat} (h : n ≠ 0) :
    2 ^ (bitLength n - 1) ≤ n ∧ n < 2 ^ bitLength n := by
  simp only [bitLength, h, if_false, Nat.add_sub_cancel]
  exact ⟨Nat.log2_self_le h, Nat.lt_log2_self⟩

/-- One binary place more halves the quotient. -/
theorem quotientAt_succ (num den : Nat) (e : Int) :
    quotientAt num den (e + 1) = quotientAt num den e / 2 := by
  unfold quotientAt scaled
  by_cases he : 0 ≤ e
  · -- both scales divide: the divisor doubles
    have he' : 0 ≤ e + 1 := by omega
    have hpow : (e + 1).toNat = e.toNat + 1 := by omega
    simp only [he, he', if_true, hpow, Nat.pow_eq, Nat.pow_succ, Nat.div_div_eq_div_mul, Nat.mul_assoc]
  · by_cases he' : 0 ≤ e + 1
    · -- `e = -1`: the numerator loses its one doubling
      have hpow : (-e).toNat = 1 := by omega
      have hzero : (e + 1).toNat = 0 := by omega
      simp only [he, he', if_true, if_false, hpow, hzero, Nat.pow_eq, pow_zero, pow_one, Nat.mul_one,
        Nat.div_div_eq_div_mul]
      rw [Nat.mul_div_mul_right _ _ (by decide : 0 < 2)]
    · -- both scales multiply: the numerator loses one doubling
      have hpow : (-e).toNat = (-(e + 1)).toNat + 1 := by omega
      simp only [he, he', if_false, hpow, Nat.pow_eq, Nat.pow_succ, ← Nat.mul_assoc,
        Nat.div_div_eq_div_mul]
      rw [Nat.mul_div_mul_right _ _ (by decide : 0 < 2)]

/-- A larger exponent never gives a larger quotient. -/
theorem quotientAt_anti (num den : Nat) {e e' : Int} (h : e ≤ e') :
    quotientAt num den e' ≤ quotientAt num den e := by
  induction e', h using Int.leInduction with
  | base => exact Nat.le_refl _
  | succ e' _ ih =>
    rw [quotientAt_succ]
    exact (Nat.div_le_self _ _).trans ih

/-- At the exponent `exponentFor` starts from, the quotient is below `2 ^ 54`: the numerator
is below `2 ^ bitLength num` and the denominator at least `2 ^ (bitLength den - 1)`. -/
theorem quotientAt_start_lt {num den : Nat} (hnum : num ≠ 0) (hden : den ≠ 0) :
    quotientAt num den (Int.ofNat (bitLength num) - Int.ofNat (bitLength den) - 53) < 4 * hidden := by
  obtain ⟨-, hn⟩ := bitLength_bounds hnum
  obtain ⟨hd, -⟩ := bitLength_bounds hden
  have hpos : 0 < bitLength den := by simp [bitLength, hden]
  have hhidden : 4 * hidden = 2 ^ 54 := by decide
  rw [hhidden]
  set e := Int.ofNat (bitLength num) - Int.ofNat (bitLength den) - 53 with he_def
  simp only [Int.ofNat_eq_natCast] at he_def
  unfold quotientAt scaled
  simp only [Nat.pow_eq]
  split_ifs with he
  · -- the denominator is scaled up: `num < 2 ^ 54 * (den * 2 ^ e)`
    have hsplit : bitLength num = 54 + (bitLength den - 1) + e.toNat := by omega
    rw [Nat.div_lt_iff_lt_mul (by positivity)]
    calc num < 2 ^ bitLength num := hn
      _ = 2 ^ 54 * (2 ^ (bitLength den - 1) * 2 ^ e.toNat) := by
        rw [hsplit, pow_add, pow_add, mul_assoc]
      _ ≤ 2 ^ 54 * (den * 2 ^ e.toNat) := by gcongr
  · -- the numerator is scaled up: `num * 2 ^ (-e) < 2 ^ 54 * den`
    have hsplit : bitLength num + (-e).toNat = 54 + (bitLength den - 1) := by omega
    rw [Nat.div_lt_iff_lt_mul (by omega)]
    calc num * 2 ^ (-e).toNat < 2 ^ bitLength num * 2 ^ (-e).toNat := by gcongr
      _ = 2 ^ 54 * 2 ^ (bitLength den - 1) := by rw [← pow_add, hsplit, pow_add]
      _ ≤ 2 ^ 54 * den := by gcongr

/-- At the exponent `exponentFor` picks, the quotient is below `2 ^ 53`: the start is below
`2 ^ 54` and is halved when it is not below `2 ^ 53`, and raising the exponent to the
subnormal one only lowers it. -/
theorem quotientAt_exponentFor_lt {num den : Nat} (hnum : num ≠ 0) (hden : den ≠ 0) :
    quotientAt num den (exponentFor num den) < 2 * hidden := by
  have hstart := quotientAt_start_lt hnum hden
  set e := Int.ofNat (bitLength num) - Int.ofNat (bitLength den) - 53
  have hhalved : quotientAt num den (if quotientAt num den e ≥ 2 * hidden then e + 1 else e) <
      2 * hidden := by
    split_ifs with hbig
    · rw [quotientAt_succ]
      omega
    · omega
  calc quotientAt num den (exponentFor num den)
      ≤ quotientAt num den (if quotientAt num den e ≥ 2 * hidden then e + 1 else e) :=
        quotientAt_anti num den (le_max_left _ _)
    _ < 2 * hidden := hhalved

/-! ### The bits of the nearest double -/

theorem roundHalfEven_le (n d : Nat) : roundHalfEven n d ≤ n / d + 1 := by
  unfold roundHalfEven
  dsimp only
  split_ifs <;> omega

/-- The bits `nearestBits` builds stay below those of infinity: the rounded significand is at
most `2 ^ 53`, and a significand of `2 ^ 53` is carried to the next exponent. -/
theorem nearestBits_lt {num den b : Nat} (hnum : num ≠ 0) (hden : den ≠ 0)
    (h : nearestBits num den = some b) : b < 2047 * hidden := by
  have hle : roundHalfEven (scaled num den (exponentFor num den)).1
      (scaled num den (exponentFor num den)).2 ≤ 2 * hidden :=
    (roundHalfEven_le _ _).trans (quotientAt_exponentFor_lt hnum hden)
  unfold nearestBits at h
  dsimp only at h
  generalize roundHalfEven _ _ = q at h hle
  generalize exponentFor num den = e at h
  obtain ⟨q', e', hcarry, hq'⟩ : ∃ q' e', (if (q == 2 * hidden) = true then (hidden, e + 1)
      else (q, e)) = (q', e') ∧ q' < 2 * hidden := by
    split_ifs with hmax
    · exact ⟨_, _, rfl, by simp only [hidden, Nat.pow_eq]; omega⟩
    · exact ⟨_, _, rfl, by simp at hmax; omega⟩
  rw [hcarry] at h
  dsimp only at h
  -- the biased exponent is below 2047, so the bits are below `2047 * 2 ^ 52`
  have hhidden : hidden = 4503599627370496 := rfl
  rw [hhidden] at h hq' ⊢
  split_ifs at h with hsmall hbig
  · have hb := Option.some.inj h
    omega
  · have hb := Option.some.inj h
    omega

open Float.Model Float.Model.UnpackedFloat in
theorem packComponents_positive_lt (e : BitVec Format.binary64.exponentBits)
    (m : BitVec Format.binary64.mantissaBitsWithoutImplicit) :
    (packComponents Format.binary64 .positive e m).toNat < 2 ^ 63 := by
  have he : e.toNat < 2 ^ 11 := e.isLt
  have hm : m.toNat < 2 ^ 52 := m.isLt
  simp only [packComponents, Sign.toBitVec, BitVec.toNat_append, BitVec.toNat_ofNat, Nat.zero_mod,
    Nat.zero_shiftLeft, Nat.zero_or]
  -- below the clear sign bit, the exponent's 11 bits stand on the mantissa's 52
  rw [← Nat.shiftLeft_add_eq_or_of_lt hm, Nat.shiftLeft_eq]
  omega

open Float.Model Float.Model.UnpackedFloat in
/-- A bit pattern with a clear sign bit is a double with a clear sign bit: reading it keeps
it, or makes it the canonical not-a-number, whose sign bit is clear too. -/
theorem toBits_ofBits_lt (u : UInt64) (h : u.toNat < 2 ^ 63) :
    (Float.ofBits u).toBits.toNat < 2 ^ 63 := by
  have hbits : (Float.ofBits u).toBits.toBitVec =
      (unpack Format.binary64 u.toBitVec).pack Format.binary64 := rfl
  rw [pack_unpack] at hbits
  rw [← UInt64.toNat_toBitVec, hbits]
  split_ifs
  · exact packComponents_positive_lt _ _
  · exact h

theorem toBits_ofBits_ofNat_lt {k : Nat} (h : k < 2 ^ 63) :
    (Float.ofBits (UInt64.ofNat k)).toBits.toNat < 2 ^ 63 := by
  have hsize : k < UInt64.size := by
    simp only [UInt64.size]
    omega
  exact toBits_ofBits_lt _ (by rw [UInt64.toNat_ofNat_of_lt' hsize]; exact h)

theorem zero_toBits_lt : (zero false).toBits.toNat < 2 ^ 63 :=
  toBits_ofBits_ofNat_lt (by decide)

theorem infinity_toBits_lt : (infinity false).toBits.toNat < 2 ^ 63 :=
  toBits_ofBits_ofNat_lt (by decide)

/-- The nearest double to a fraction, taken positive, has a clear sign bit. -/
theorem nearest_toBits_lt (num : Nat) {den : Nat} (hden : den ≠ 0) :
    (nearest false num den).toBits.toNat < 2 ^ 63 := by
  unfold nearest
  by_cases hnum : num = 0
  · rw [if_pos hnum]
    exact zero_toBits_lt
  · rw [if_neg hnum]
    cases hbits : nearestBits num den with
    | none => exact infinity_toBits_lt
    | some b =>
      have hb := nearestBits_lt hnum hden hbits
      have hhidden : hidden = 4503599627370496 := rfl
      rw [hhidden] at hb
      refine toBits_ofBits_ofNat_lt ?_
      simp only [Bool.false_eq_true, if_false]
      omega

/-- A decimal converted without a minus is a double with a clear sign bit. -/
theorem ofDecimal_toBits_lt (digits : Nat) (exp10 : Int) :
    (ofDecimal false digits exp10).toBits.toNat < 2 ^ 63 := by
  unfold ofDecimal
  dsimp only
  split_ifs
  · exact zero_toBits_lt
  · exact infinity_toBits_lt
  · exact nearest_toBits_lt _ one_ne_zero
  · exact nearest_toBits_lt _ (by rw [Nat.pow_eq]; positivity)

/-- The bits of a double with a clear sign bit decode to no negative number. -/
theorem decode_of_toBits_lt {x : Float} (h : x.toBits.toNat < 2 ^ 63) :
    decode x = .nan ∨ decode x = .infinite false ∨ ∃ m e, decode x = .finite false m e := by
  have hdiv : x.toBits.toNat / 2 ^ 63 = 0 := Nat.div_eq_of_lt h
  unfold decode
  simp only [Nat.pow_eq, hdiv]
  split_ifs <;> simp

end Double

/-- A double with a clear sign bit is not below zero: it decodes as a number or infinity of
positive sign, or as not-a-number, which fails every comparison. -/
theorem Num.not_below_zero_of_toBits_lt {x : Float} (h : x.toBits.toNat < 2 ^ 63) :
    Num.holds .lt (.float x) 0 = false := by
  rcases Double.decode_of_toBits_lt h with hd | hd | ⟨m, e, hd⟩
  · simp [Num.holds, Num.compareFloatInt, hd]
  · simp [Num.holds, Num.compareFloatInt, hd]
  · -- a finite number of positive sign compares with zero as greater or equal
    have hlhs : 0 ≤ (m : Int) * (if 0 ≤ e then 2 ^ e.toNat else 1) := by
      split_ifs <;> positivity
    have hnot : compare ((m : Int) * (if 0 ≤ e then 2 ^ e.toNat else 1)) 0 ≠ .lt :=
      fun hc => absurd (Int.compare_eq_lt.mp hc) (not_lt.mpr hlhs)
    simp only [Num.holds, Num.compareFloatInt, hd, Int.pow_eq, Bool.false_eq_true, if_false, one_mul,
      zero_mul]
    split <;> simp_all

namespace Command

/-- A numeral read without its sign is not negative. -/
theorem unsignedAt_negative {cs rest : List Char} {n : Numeral} (h : unsignedAt cs = some (n, rest)) :
    n.negative = false := by
  unfold unsignedAt at h
  dsimp only at h
  split_ifs at h
  split at h
  all_goals
    obtain ⟨rfl, -⟩ := Prod.mk.inj (Option.some.inj h)
    rfl

theorem Numeral.value_not_below_zero {n : Numeral} (h : n.negative = false) :
    Num.holds .lt (.float n.value) 0 = false := by
  apply Num.not_below_zero_of_toBits_lt
  unfold Numeral.value
  rw [h]
  exact Double.ofDecimal_toBits_lt _ _

/-- What a search finds, its reader finds at some place. -/
theorem search_found {α : Type} {m : List Char → Option α} {cs : List Char} {a : α}
    (h : search m cs = some a) : ∃ x, m x = some a := by
  induction cs with
  | nil => exact ⟨[], h⟩
  | cons c rest ih =>
    unfold search at h
    split at h
    · rename_i b hb
      exact ⟨c :: rest, hb.trans h⟩
    · exact ih h

/-- A number read after a keyword is not below zero: the keyword is followed by a numeral
without a sign. -/
theorem keywordNumber_not_below_zero {keyword : String} {extra : Option String} {ignoreCase : Bool}
    {cs : List Char} {x : Float} (h : keywordNumber keyword extra ignoreCase cs = some x) :
    Num.holds .lt (.float x) 0 = false := by
  obtain ⟨at_, hat⟩ := search_found h
  unfold keywordNumberAt at hat
  dsimp only at hat
  -- the keyword matched, with or without its case; what follows is read unsigned
  split_ifs at hat
  all_goals
    obtain ⟨⟨n, rest⟩, hn, hx⟩ := Option.bind_eq_some_iff.mp hat
    rw [← Option.some.inj hx]
    exact Numeral.value_not_below_zero (unsignedAt_negative hn)

end Command

end Drafting
