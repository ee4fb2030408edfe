import AuthGate.Proofs.Json.Numeral

namespace AuthGate.Number

lemma spacing_le {q : ℚ} (hq : 1 ≤ q) : spacing q ≤ q := by
  have hpos : 0 < q := zero_lt_one.trans_le hq
  have hlog : 0 ≤ Int.log 2 q := by
    apply (Int.zpow_le_iff_le_log one_lt_two hpos).1
    simpa using hq
  have hbit : lastBit q ≤ Int.log 2 q := by
    rw [lastBit]
    omega
  calc spacing q = 2 ^ lastBit q := spacing_eq hpos
    _ ≤ (2 : ℚ) ^ Int.log 2 q := zpow_le_zpow_right₀ one_le_two hbit
    _ ≤ q := Int.zpow_log_le_self one_lt_two hpos

lemma rounded_pos {q : ℚ} (hq : 1 ≤ q) : 0 < rounded q := by
  have herror := (abs_le.1 (rounded_error (zero_lt_one.trans_le hq))).2
  have hspacing := spacing_le hq
  linarith

lemma rounded_natCast {n : ℕ} (hn : 0 < n) : ∃ k : ℤ, rounded n = k := by
  have hpos : (0 : ℚ) < n := Nat.cast_pos.2 hn
  rw [rounded, spacing_eq hpos]
  rcases le_or_gt 0 (lastBit n) with hbit | hbit
  · obtain ⟨s, hs⟩ := Int.eq_ofNat_of_zero_le hbit
    refine ⟨nearest (n / 2 ^ lastBit n) * 2 ^ s, ?_⟩
    rw [hs]
    push_cast
    rw [zpow_natCast]
  · -- Below the point there is nothing to round.
    obtain ⟨s, hs⟩ := Int.eq_ofNat_of_zero_le (a := -lastBit n) (by omega)
    have hshift : (n : ℚ) / 2 ^ lastBit n = (n * 2 ^ s : ℤ) := by
      rw [div_eq_mul_inv, ← zpow_neg, hs]
      push_cast
      rw [zpow_natCast]
    refine ⟨n, ?_⟩
    rw [hshift, nearest_intCast, ← hshift]
    push_cast
    exact div_mul_cancel₀ _ (two_zpow_pos _).ne'

lemma ofNat_pos {n : ℕ} (hn : 0 < n) :
    ofNat n = if 2 ^ 1024 ≤ rounded n then .infinite false else .finite (rounded n) := by
  rw [ofNat, ofInt, Int.cast_natCast, ofRat_pos (Nat.cast_pos.2 hn)]

lemma isPositiveInteger_finite {q : ℚ} :
    (finite q).isPositiveInteger = true ↔ q.den = 1 ∧ 0 < q := by
  have hlt : lt zero (finite q) = decide (0 < q) := rfl
  rw [isPositiveInteger, hlt, isInteger, Bool.and_eq_true, decide_eq_true_iff, decide_eq_true_iff]

lemma isPositiveInteger_ofNat {n : ℕ} :
    (ofNat n).isPositiveInteger = true ↔ 0 < n ∧ ofNat n ≠ .infinite false := by
  rcases Nat.eq_zero_or_pos n with rfl | hn
  · simp [ofNat, ofInt, ofRat, isPositiveInteger_finite]
  · obtain ⟨k, hk⟩ := rounded_natCast hn
    have hone : (1 : ℚ) ≤ n := by exact_mod_cast hn
    have hpos := rounded_pos hone
    rw [ofNat_pos hn]
    split_ifs with hlarge
    · simp [isPositiveInteger, isInteger]
    · rw [isPositiveInteger_finite]
      have hden : (rounded n).den = 1 := by rw [hk]; exact Rat.den_intCast k
      simp [hden, hpos, hn]

lemma eq_intCast_of_isSafeInteger {n : Number} (h : n.isSafeInteger = true) :
    n = .negZero ∨ ∃ k : ℤ, n = .finite k ∧ |k| ≤ maxSafe := by
  obtain ⟨hint, hsafe⟩ := Bool.and_eq_true_iff.1 h
  cases n with
  | negZero => exact .inl rfl
  | finite q =>
    have hq : (q.num : ℚ) = q := Rat.coe_int_num_of_den_eq_one (of_decide_eq_true hint)
    refine .inr ⟨q.num, congrArg _ hq.symm, ?_⟩
    have hsize : q.num.natAbs ≤ maxSafe := of_decide_eq_true hsafe
    rw [Int.abs_eq_natAbs]
    exact_mod_cast hsize
  | _ => cases hint

lemma isBinary_of_isSafeInteger {n : Number} (h : n.isSafeInteger = true) :
    ∀ q, n = .finite q → IsBinary q := by
  rintro q rfl
  obtain h | ⟨k, hk, hsize⟩ := eq_intCast_of_isSafeInteger h
  · cases h
  · obtain rfl := Number.finite.inj hk
    exact isBinary_intCast (hsize.trans (by decide))

lemma not_isPositiveInteger_ofRat_neg {q : ℚ} (hq : 0 ≤ q) :
    (ofRat (-q)).isPositiveInteger = false := by
  rcases hq.eq_or_lt with rfl | hpos
  · decide
  · have hnonneg := rounded_nonneg hpos
    rw [ofRat_neg hpos, Bool.eq_false_iff]
    split_ifs
    · simp [isPositiveInteger, isInteger]
    · decide
    · rw [ne_eq, isPositiveInteger_finite]
      rintro ⟨-, h⟩
      linarith

lemma not_isPositiveInteger_ofDecimal (ds : List Char) (e : ℤ) :
    (ofDecimal true ds e).isPositiveInteger = false := by
  rw [ofDecimal]
  simp only [if_true]
  split_ifs
  · decide
  · rfl
  · decide
  · rw [neg_one_mul, neg_mul]
    apply not_isPositiveInteger_ofRat_neg
    rw [power_eq]
    positivity

lemma ofDecimal_digits {ds : List Char} (hd : AllDigits ds) :
    ofDecimal false ds 0 = ofNat (digitsValue ds) := by
  have hval := digitsValue_dropZeros ds
  have hall : AllDigits (ds.dropWhile (· = '0')) := hd.mono (List.dropWhile_sublist _).subset
  rw [ofDecimal]
  cases hs : ds.dropWhile (· = '0') with
  | nil =>
    rw [hs] at hval
    rw [← hval]
    rfl
  | cons c cs =>
    rw [hs] at hval hall
    have hc : c ≠ '0' := by
      have := List.head_dropWhile_not (p := (· = '0')) (l := ds) (by rw [hs]; simp)
      simpa [hs] using this
    have hsize : 10 ^ cs.length ≤ digitsValue ds := by
      rw [← hval]
      exact le_digitsValue (hall c List.mem_cons_self) hc
    have hpos : 0 < digitsValue ds := (Nat.pow_pos (by norm_num)).trans_le hsize
    simp only [List.isEmpty_cons, Bool.false_eq_true, if_false]
    split_ifs with hmany hfew
    · rw [ofNat_pos hpos, if_pos]
      by_contra hsmall
      have hone : (1 : ℚ) ≤ digitsValue ds := by exact_mod_cast hpos
      have hrounded : ofRat (digitsValue ds) = .finite (rounded (digitsValue ds)) := by
        rw [ofRat_pos (zero_lt_one.trans_le hone), if_neg hsmall]
      obtain ⟨-, -, hle⟩ := bounds_of_ofRat (rounded_pos hone) hrounded
      have hk : (10 : ℚ) ^ (cs.length : ℤ) ≤ digitsValue ds := by exact_mod_cast hsize
      have hlength := size_le (isBinary_of_ofRat hrounded) hle hk
      rw [List.length_cons] at hmany
      omega
    · rw [List.length_cons] at hfew
      omega
    · rw [hval, power_eq, ofNat, ofInt]
      simp

end AuthGate.Number
