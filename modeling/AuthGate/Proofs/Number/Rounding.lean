import AuthGate.Number
import Mathlib.Algebra.Order.Round
import Mathlib.Data.Int.Log
import Mathlib.Data.Rat.Floor
import Mathlib.Tactic

namespace AuthGate.Number

lemma power_eq (b : ℕ) (k : ℤ) : power b k = (b : ℚ) ^ k := by
  cases k with
  | ofNat k => simp [power]
  | negSucc k => simp [power, zpow_negSucc, Rat.mkRat_eq_div]

lemma two_zpow_pos (k : ℤ) : (0 : ℚ) < 2 ^ k := by positivity

lemma natLog2_bounds {n : ℕ} (hn : n ≠ 0) : (2 : ℚ) ^ n.log2 ≤ n ∧ (n : ℚ) < 2 ^ (n.log2 + 1) := by
  constructor
  · exact_mod_cast Nat.log2_self_le hn
  · exact_mod_cast Nat.lt_log2_self

lemma log2_eq {q : ℚ} (hq : 0 < q) : log2 q = Int.log 2 q := by
  have hn : q.num.natAbs ≠ 0 := by simpa using hq.ne'
  obtain ⟨hnl, hnu⟩ := natLog2_bounds hn
  obtain ⟨hdl, hdu⟩ := natLog2_bounds q.den_nz
  have hd : (0 : ℚ) < q.den := by exact_mod_cast q.den_pos
  have hval : q = (q.num.natAbs : ℚ) / q.den := by
    conv_lhs => rw [← Rat.num_div_den q]
    rw [Nat.cast_natAbs, abs_of_pos (Rat.num_pos.mpr hq)]
  set a := q.num.natAbs.log2
  set b := q.den.log2
  have hlow : (2 : ℚ) ^ ((a : ℤ) - b - 1) ≤ q := by
    rw [hval, le_div_iff₀ hd, sub_sub, zpow_sub₀ two_ne_zero, div_mul_eq_mul_div,
      div_le_iff₀ (by positivity)]
    refine mul_le_mul (by exact_mod_cast hnl) ?_ hd.le (by positivity)
    exact_mod_cast hdu.le
  have hhigh : q < (2 : ℚ) ^ ((a : ℤ) - b + 1) := by
    rw [hval, div_lt_iff₀ hd, sub_add_eq_add_sub, zpow_sub₀ two_ne_zero, div_mul_eq_mul_div,
      lt_div_iff₀ (by positivity)]
    refine mul_lt_mul (by exact_mod_cast hnu) ?_ (by positivity) (by positivity)
    exact_mod_cast hdl
  have hl : Int.log 2 q ≤ (a : ℤ) - b := by
    have : Int.log 2 q < (a : ℤ) - b + 1 :=
      (Int.lt_zpow_iff_log_lt one_lt_two hq).mp (by exact_mod_cast hhigh)
    omega
  have hg : (a : ℤ) - b - 1 ≤ Int.log 2 q :=
    (Int.zpow_le_iff_le_log one_lt_two hq).mp (by exact_mod_cast hlow)
  have hk : power 2 ((a : ℤ) - b) ≤ q ↔ (a : ℤ) - b ≤ Int.log 2 q := by
    rw [power_eq]
    exact Int.zpow_le_iff_le_log one_lt_two hq
  have hdef : log2 q = if power 2 ((a : ℤ) - b) ≤ q then (a : ℤ) - b else (a : ℤ) - b - 1 := rfl
  rw [hdef]
  split_ifs with h
  · have := hk.mp h
    omega
  · have := mt hk.mpr h
    omega

def lastBit (q : ℚ) : ℤ := max (Int.log 2 q - 52) (-1074)

lemma spacing_eq {q : ℚ} (hq : 0 < q) : spacing q = 2 ^ lastBit q := by
  rw [spacing, power_eq, log2_eq hq, lastBit]
  norm_num

lemma nearest_spec (y : ℚ) : |y - nearest y| ≤ 1 / 2 := by
  have h0 := Int.floor_le y
  have h1 := Int.lt_floor_add_one y
  have hf : y.floor = ⌊y⌋ := rfl
  simp only [nearest, hf]
  split_ifs <;> rw [abs_le] <;> push_cast <;> constructor <;> linarith

lemma nearest_eq {y : ℚ} {m : ℤ} (h : |y - m| < 1 / 2) : nearest y = m := by
  have hs := nearest_spec y
  have hd : |((nearest y - m : ℤ) : ℚ)| < 1 := by
    have : ((nearest y - m : ℤ) : ℚ) = (y - m) - (y - nearest y) := by push_cast; ring
    rw [this]
    calc |(y - m) - (y - nearest y)| ≤ |y - m| + |y - nearest y| := abs_sub _ _
      _ < 1 := by linarith
  have hz : |nearest y - m| < 1 := by exact_mod_cast hd
  have := Int.abs_lt_one_iff.mp hz
  omega

lemma nearest_intCast (m : ℤ) : nearest (m : ℚ) = m := nearest_eq (by simp)

/-- The rationals that are numbers: at most 53 significant bits, the last one not too small, and a
magnitude in range. -/
def IsBinary (q : ℚ) : Prop :=
  ∃ m s : ℤ, q = m * 2 ^ s ∧ |m| < 2 ^ 53 ∧ -1074 ≤ s ∧ |q| < 2 ^ 1024

def rounded (q : ℚ) : ℚ := nearest (q / spacing q) * spacing q

lemma ofRat_pos {q : ℚ} (hq : 0 < q) :
    ofRat q = if 2 ^ 1024 ≤ rounded q then .infinite false else .finite (rounded q) := by
  simp only [ofRat, hq.ne', hq.not_gt, if_false, and_false, power_eq, rounded, decide_false]
  norm_num
  congr

lemma ofRat_neg {q : ℚ} (hq : 0 < q) :
    ofRat (-q) = if 2 ^ 1024 ≤ rounded q then .infinite true
      else if rounded q = 0 then .negZero else .finite (-rounded q) := by
  have hn : -q < 0 := by linarith
  simp only [ofRat, hn.ne, hn, if_true, if_false, and_true, neg_neg, power_eq, rounded, decide_true]
  norm_num

lemma rounded_error {q : ℚ} (hq : 0 < q) : |q - rounded q| ≤ spacing q / 2 := by
  have hs : 0 < spacing q := by rw [spacing_eq hq]; positivity
  have h := nearest_spec (q / spacing q)
  have he : q - rounded q = (q / spacing q - nearest (q / spacing q)) * spacing q := by
    rw [rounded, sub_mul, div_mul_cancel₀ _ hs.ne']
  rw [he, abs_mul, abs_of_pos hs]
  nlinarith

lemma isBinary_multiple {q : ℚ} (h : IsBinary q) (hq : 0 < q) :
    ∃ n : ℤ, q = n * 2 ^ lastBit q := by
  obtain ⟨m, s, rfl, hm, hs, -⟩ := h
  have hm' : (m : ℚ) < 2 ^ 53 := by exact_mod_cast lt_of_abs_lt hm
  have hlog : Int.log 2 ((m : ℚ) * 2 ^ s) < 53 + s := by
    apply (Int.lt_zpow_iff_log_lt one_lt_two hq).mp
    push_cast
    rw [zpow_add₀ two_ne_zero]
    exact mul_lt_mul_of_pos_right (by exact_mod_cast hm') (two_zpow_pos s)
  have hle : lastBit ((m : ℚ) * 2 ^ s) ≤ s := by
    rw [lastBit]
    omega
  refine ⟨m * 2 ^ (s - lastBit ((m : ℚ) * 2 ^ s)).toNat, ?_⟩
  push_cast
  rw [mul_assoc, ← zpow_natCast, Int.toNat_of_nonneg (by omega), ← zpow_add₀ two_ne_zero,
    sub_add_cancel]

lemma rounded_eq {q : ℚ} (h : IsBinary q) (hq : 0 < q) : rounded q = q := by
  obtain ⟨n, hn⟩ := isBinary_multiple h hq
  have hd : q / 2 ^ lastBit q = n := by
    rw [div_eq_iff (two_zpow_pos _).ne']
    exact hn
  rw [rounded, spacing_eq hq, hd, nearest_intCast]
  exact hn.symm

lemma lt_spacing {q : ℚ} (hq : 0 < q) : q < 2 ^ 53 * spacing q := by
  rw [spacing_eq hq]
  have h := Int.lt_zpow_succ_log_self (R := ℚ) one_lt_two q
  push_cast at h
  have hl : Int.log 2 q + 1 ≤ 53 + lastBit q := by
    rw [lastBit]
    omega
  calc q < 2 ^ (Int.log 2 q + 1) := h
    _ ≤ (2 : ℚ) ^ (53 + lastBit q) := zpow_le_zpow_right₀ one_le_two hl
    _ = 2 ^ 53 * 2 ^ lastBit q := by rw [zpow_add₀ two_ne_zero]; norm_cast

lemma nearest_nonneg {y : ℚ} (hy : 0 ≤ y) : 0 ≤ nearest y := by
  have h := (abs_le.mp (nearest_spec y)).2
  have : (-1 : ℚ) < nearest y := by linarith
  have : (-1 : ℤ) < nearest y := by exact_mod_cast this
  omega

lemma rounded_nonneg {q : ℚ} (hq : 0 < q) : 0 ≤ rounded q := by
  have hs : 0 < spacing q := by rw [spacing_eq hq]; positivity
  exact mul_nonneg (by exact_mod_cast nearest_nonneg (div_pos hq hs).le) hs.le

lemma isBinary_rounded {q : ℚ} (hq : 0 < q) (h : rounded q < 2 ^ 1024) : IsBinary (rounded q) := by
  have hs : 0 < spacing q := by rw [spacing_eq hq]; positivity
  set n := nearest (q / spacing q) with hn
  have hn0 : 0 ≤ n := nearest_nonneg (div_pos hq hs).le
  have hlt : q / spacing q < 2 ^ 53 := by
    rw [div_lt_iff₀ hs]
    exact lt_spacing hq
  have hle : n ≤ 2 ^ 53 := by
    have := (abs_le.mp (nearest_spec (q / spacing q))).1
    have : (n : ℚ) < 2 ^ 53 + 1 := by linarith
    have : n < 2 ^ 53 + 1 := by exact_mod_cast this
    omega
  have hval : rounded q = n * 2 ^ lastBit q := by rw [rounded, ← hn, spacing_eq hq]
  have habs : |rounded q| < 2 ^ 1024 := by rwa [abs_of_nonneg (rounded_nonneg hq)]
  have hbit : -1074 ≤ lastBit q := le_max_right _ _
  rcases hle.lt_or_eq with hlt | heq
  · exact ⟨n, lastBit q, hval, by rwa [abs_of_nonneg hn0], hbit, habs⟩
  · -- The largest significand and one more is a power of two, which needs one bit.
    refine ⟨2 ^ 52, lastBit q + 1, ?_, by norm_num, by omega, habs⟩
    rw [hval, heq, zpow_add₀ two_ne_zero]
    push_cast
    ring

lemma IsBinary.neg {q : ℚ} (h : IsBinary q) : IsBinary (-q) := by
  obtain ⟨m, s, rfl, hm, hs, hq⟩ := h
  exact ⟨-m, s, by push_cast; ring, by rwa [abs_neg], hs, by rwa [abs_neg]⟩

lemma isBinary_zero : IsBinary 0 := ⟨0, 0, by simp, by norm_num, by norm_num, by norm_num⟩

lemma IsBinary.lt {q : ℚ} (h : IsBinary q) : |q| < 2 ^ 1024 := h.choose_spec.choose_spec.2.2.2

lemma ofRat_of_isBinary {q : ℚ} (h : IsBinary q) : ofRat q = .finite q := by
  rcases lt_trichotomy q 0 with hq | rfl | hq
  · have hp : 0 < -q := by linarith
    have hr := rounded_eq h.neg hp
    have hl : ¬ 2 ^ 1024 ≤ -q := not_le.mpr (abs_lt.mp h.neg.lt).2
    have := ofRat_neg hp
    rw [neg_neg, hr, if_neg hl, if_neg hp.ne', neg_neg] at this
    exact this
  · rfl
  · have hl : ¬ 2 ^ 1024 ≤ q := not_le.mpr (abs_lt.mp h.lt).2
    rw [ofRat_pos hq, rounded_eq h hq, if_neg hl]

lemma isBinary_of_ofRat {x q : ℚ} (h : ofRat x = .finite q) : IsBinary q := by
  rcases lt_trichotomy x 0 with hx | rfl | hx
  · have hp : 0 < -x := by linarith
    have hr := ofRat_neg hp
    rw [neg_neg, h] at hr
    split_ifs at hr with hl hz
    obtain rfl := Number.finite.inj hr
    exact (isBinary_rounded hp (not_le.mp hl)).neg
  · obtain rfl := Number.finite.inj h
    exact isBinary_zero
  · rw [ofRat_pos hx] at h
    split_ifs at h with hl
    obtain rfl := Number.finite.inj h
    exact isBinary_rounded hx (not_le.mp hl)

lemma two_pow_53_lt : (2 : ℚ) ^ 53 < 2 ^ 1024 := pow_lt_pow_right₀ one_lt_two (by norm_num)

lemma isBinary_intCast {n : ℤ} (h : |n| ≤ 2 ^ 53) : IsBinary n := by
  have habs : |(n : ℚ)| < 2 ^ 1024 := by
    refine lt_of_le_of_lt ?_ two_pow_53_lt
    exact_mod_cast h
  rcases h.lt_or_eq with hlt | heq
  · exact ⟨n, 0, by simp, hlt, by norm_num, habs⟩
  · rcases (abs_eq (by norm_num)).mp heq with rfl | rfl
    · exact ⟨2 ^ 52, 1, by norm_num, by norm_num, by norm_num, habs⟩
    · exact ⟨-2 ^ 52, 1, by norm_num, by norm_num, by norm_num, habs⟩

lemma isBinary_natCast {n : ℕ} (h : n ≤ 2 ^ 53) : IsBinary n := by
  have := isBinary_intCast (n := n) (by rw [abs_of_nonneg (by omega)]; exact_mod_cast h)
  exact_mod_cast this

lemma ofNat_eq {n : ℕ} (h : n ≤ 2 ^ 53) : ofNat n = .finite n := by
  rw [ofNat, ofInt, ← ofRat_of_isBinary (isBinary_natCast h)]
  rfl

lemma IsBinary.floor {q : ℚ} (h : IsBinary q) : IsBinary (q.floor : ℤ) := by
  obtain ⟨m, s, rfl, hm, hs, hq⟩ := h
  change IsBinary (⌊(m : ℚ) * 2 ^ s⌋ : ℤ)
  rcases le_or_gt 0 s with h0 | h0
  · obtain ⟨k, rfl⟩ := Int.eq_ofNat_of_zero_le h0
    have hi : (m : ℚ) * 2 ^ (k : ℤ) = ((m * 2 ^ k : ℤ) : ℚ) := by push_cast; rw [zpow_natCast]
    refine ⟨m, k, ?_, hm, hs, ?_⟩
    · rw [hi, Int.floor_intCast]
    · rw [hi, Int.floor_intCast, ← hi]
      exact hq
  · apply isBinary_intCast
    -- A fraction lies between zero and its significand.
    have h2 : (2 : ℚ) ^ s ≤ 1 := zpow_le_one_of_nonpos₀ one_le_two h0.le
    have h2' := two_zpow_pos s
    have hlow : -|m| ≤ ⌊(m : ℚ) * 2 ^ s⌋ := by
      apply Int.le_floor.mpr
      push_cast
      have := neg_abs_le (m : ℚ)
      nlinarith [abs_nonneg (m : ℚ)]
    have hhigh : ⌊(m : ℚ) * 2 ^ s⌋ ≤ |m| := by
      have : (⌊(m : ℚ) * 2 ^ s⌋ : ℚ) ≤ |(m : ℚ)| := by
        apply (Int.floor_le _).trans
        have := le_abs_self (m : ℚ)
        nlinarith [abs_nonneg (m : ℚ)]
      exact_mod_cast this
    exact (abs_le.mpr ⟨hlow, hhigh⟩).trans hm.le

lemma bounds_of_ofRat {x q : ℚ} (hq : 0 < q) (h : ofRat x = .finite q) :
    0 < x ∧ q / 2 ≤ x ∧ x ≤ 2 * q := by
  have hx : 0 < x := by
    by_contra hx
    rcases (not_lt.mp hx).lt_or_eq with hx | rfl
    · have hp : 0 < -x := by linarith
      have hr := ofRat_neg hp
      rw [neg_neg, h] at hr
      split_ifs at hr
      obtain rfl := Number.finite.inj hr
      linarith [rounded_nonneg hp]
    · obtain rfl := Number.finite.inj h
      exact lt_irrefl _ hq
  rw [ofRat_pos hx] at h
  split_ifs at h with hl
  have hr : rounded x = q := Number.finite.inj h
  have hs : 0 < spacing x := by rw [spacing_eq hx]; positivity
  have hn : 1 ≤ nearest (x / spacing x) := by
    by_contra hn
    have hn : (nearest (x / spacing x) : ℚ) ≤ 0 := by exact_mod_cast (by omega)
    have : rounded x ≤ 0 := mul_nonpos_of_nonpos_of_nonneg hn hs.le
    linarith
  have hq' : spacing x ≤ q := by
    have : (1 : ℚ) ≤ nearest (x / spacing x) := by exact_mod_cast hn
    rw [← hr, rounded]
    nlinarith
  have he := abs_le.mp (rounded_error hx)
  rw [hr] at he
  exact ⟨hx, by linarith, by linarith⟩

lemma ofRat_eq_of_close {x q : ℚ} (h : IsBinary q) (hq : 0 < q) (hx : 0 < x)
    (hs : lastBit x = lastBit q) (hd : |x - q| < spacing x / 2) : ofRat x = .finite q := by
  obtain ⟨n, hn⟩ := isBinary_multiple h hq
  have hp : 0 < spacing x := by rw [spacing_eq hx]; positivity
  have hspace : spacing x = 2 ^ lastBit q := by rw [spacing_eq hx, hs]
  have hnear : nearest (x / spacing x) = n := by
    apply nearest_eq
    have : x / spacing x - n = (x - q) / spacing x := by
      rw [hn, ← hspace]
      field_simp
    rw [this, abs_div, abs_of_pos hp, div_lt_iff₀ hp]
    linarith
  have hr : rounded x = q := by rw [rounded, hnear, hspace]; exact hn.symm
  have hl : ¬ 2 ^ 1024 ≤ q := not_le.mpr (abs_lt.mp h.lt).2
  rw [ofRat_pos hx, hr, if_neg hl]

end AuthGate.Number
