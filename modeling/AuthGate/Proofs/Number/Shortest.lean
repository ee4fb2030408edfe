import AuthGate.Number.Decimal
import AuthGate.Proofs.Number.Rounding

namespace AuthGate.Number

lemma lt_ten_pow_toDigits (n : ℕ) : n < 10 ^ (Nat.toDigits 10 n).length :=
  (Nat.length_toDigits_le_iff (by norm_num) Nat.length_toDigits_pos).mp le_rfl

lemma ten_pow_toDigits_le {n : ℕ} (hn : n ≠ 0) : 10 ^ ((Nat.toDigits 10 n).length - 1) ≤ n := by
  by_cases h : (Nat.toDigits 10 n).length - 1 = 0
  · rw [h]
    omega
  · by_contra hc
    have := (Nat.length_toDigits_le_iff (by norm_num) (by omega)).mpr (not_le.mp hc)
    omega

lemma ten_zpow_log10_le {q : ℚ} (hq : 0 < q) : (10 : ℚ) ^ log10 q ≤ q := by
  have hn : q.num.natAbs ≠ 0 := by simpa using hq.ne'
  have hd : (0 : ℚ) < q.den := by exact_mod_cast q.den_pos
  have hval : q = (q.num.natAbs : ℚ) / q.den := by
    conv_lhs => rw [← Rat.num_div_den q]
    rw [Nat.cast_natAbs, abs_of_pos (Rat.num_pos.mpr hq)]
  have hnl := ten_pow_toDigits_le hn
  have hdu := lt_ten_pow_toDigits q.den
  set a := (Nat.toDigits 10 q.num.natAbs).length with ha
  set b := (Nat.toDigits 10 q.den).length
  have ha1 : 1 ≤ a := Nat.length_toDigits_pos
  have hdef : log10 q = if power 10 ((a : ℤ) - b) ≤ q then (a : ℤ) - b else (a : ℤ) - b - 1 := rfl
  rw [hdef]
  split_ifs with h
  · rwa [power_eq] at h
  · have hexp : (a : ℤ) - b - 1 = ((a - 1 : ℕ) : ℤ) - b := by omega
    have hnl' : (10 : ℚ) ^ (a - 1) ≤ q.num.natAbs := by exact_mod_cast hnl
    have hdu' : (q.den : ℚ) ≤ 10 ^ b := by exact_mod_cast hdu.le
    conv_rhs => rw [hval]
    rw [hexp, zpow_sub₀ (by norm_num), zpow_natCast, zpow_natCast, le_div_iff₀ hd,
      div_mul_eq_mul_div, div_le_iff₀ (by positivity)]
    exact mul_le_mul hnl' hdu' hd.le (by positivity)

lemma floor_div_nonneg {q : ℚ} (hq : 0 < q) (g : ℤ) : 0 ≤ (q / power 10 g).floor := by
  change 0 ≤ ⌊q / power 10 g⌋
  rw [power_eq]
  exact Int.floor_nonneg.mpr (by positivity)

lemma nearest_eq_floor_or (y : ℚ) : nearest y = y.floor ∨ nearest y = y.floor + 1 := by
  simp only [nearest]
  split_ifs <;> simp

lemma ofRat_of_multipleFor {q : ℚ} (hq : 0 < q) {g : ℤ} {m : ℕ} (h : multipleFor q g = some m) :
    ofRat (m * power 10 g) = .finite q := by
  have hlo := floor_div_nonneg hq g
  have hcast : ∀ c : ℤ, 0 ≤ c → ofRat (c * power 10 g) = .finite q →
      ofRat (((c.toNat : ℕ) : ℚ) * power 10 g) = .finite q := by
    intro c hc h
    have : ((c.toNat : ℕ) : ℚ) = c := by exact_mod_cast Int.toNat_of_nonneg hc
    rwa [this]
  simp only [multipleFor] at h
  split at h
  next h0 h1 =>
    simp only [decide_eq_true_eq] at h0 h1
    obtain rfl := Option.some.inj h
    rcases nearest_eq_floor_or (q / power 10 g) with he | he
    · rw [he]
      exact hcast _ hlo h0
    · rw [he]
      exact hcast _ (by omega) h1
  next h0 _ =>
    simp only [decide_eq_true_eq] at h0
    obtain rfl := Option.some.inj h
    exact hcast _ hlo h0
  next _ h1 =>
    simp only [decide_eq_true_eq] at h1
    obtain rfl := Option.some.inj h
    exact hcast _ (by omega) h1
  next => exact absurd h (by simp)

lemma multipleFor_isSome {q : ℚ} {g : ℤ} (c : ℤ)
    (hc : c = (q / power 10 g).floor ∨ c = (q / power 10 g).floor + 1)
    (h : ofRat (c * power 10 g) = .finite q) : ∃ m, multipleFor q g = some m := by
  simp only [multipleFor]
  split
  next => exact ⟨_, rfl⟩
  next => exact ⟨_, rfl⟩
  next => exact ⟨_, rfl⟩
  next h0 h1 =>
    simp only [decide_eq_false_iff_not] at h0 h1
    rcases hc with rfl | rfl
    · exact absurd h h0
    · exact absurd h h1

lemma log_eq_of_bounds {x : ℚ} {l : ℤ} (h0 : (2 : ℚ) ^ l ≤ x) (h1 : x < 2 ^ (l + 1)) :
    Int.log 2 x = l := by
  have hx : 0 < x := (two_zpow_pos l).trans_le h0
  have := (Int.lt_zpow_iff_log_lt one_lt_two hx).mp (by exact_mod_cast h1 : x < ((2 : ℕ) : ℚ) ^ (l + 1))
  have := (Int.zpow_le_iff_le_log one_lt_two hx).mp (by exact_mod_cast h0 : ((2 : ℕ) : ℚ) ^ l ≤ x)
  omega

section Binade

variable {q : ℚ}

lemma binade_bounds (hq : 0 < q) : (2 : ℚ) ^ Int.log 2 q ≤ q ∧ q < 2 ^ (Int.log 2 q + 1) := by
  have h0 := Int.zpow_log_le_self (R := ℚ) one_lt_two hq
  have h1 := Int.lt_zpow_succ_log_self (R := ℚ) one_lt_two q
  exact ⟨by exact_mod_cast h0, by exact_mod_cast h1⟩

lemma lastBit_le_log (h : IsBinary q) (hq : 0 < q) : lastBit q ≤ Int.log 2 q := by
  obtain ⟨n, hn⟩ := isBinary_multiple h hq
  have h1 : (1 : ℚ) ≤ n := by
    have : (0 : ℚ) < n := by
      by_contra hc
      have := mul_nonpos_of_nonpos_of_nonneg (not_lt.mp hc) (two_zpow_pos (lastBit q)).le
      linarith
    exact_mod_cast this
  have hle : (2 : ℚ) ^ lastBit q ≤ q := by
    have := mul_le_mul_of_nonneg_right h1 (two_zpow_pos (lastBit q)).le
    linarith
  exact (Int.zpow_le_iff_le_log one_lt_two hq).mp (by exact_mod_cast hle)

lemma exists_two_zpow_eq_mul {a b : ℤ} (h : b ≤ a) :
    ∃ k : ℕ, (2 : ℚ) ^ a = ((2 ^ k : ℤ) : ℚ) * 2 ^ b := by
  obtain ⟨k, hk⟩ := Int.eq_ofNat_of_zero_le (sub_nonneg.2 h)
  refine ⟨k, ?_⟩
  push_cast
  rw [← zpow_natCast, ← zpow_add₀ two_ne_zero]
  congr 1
  omega

lemma add_spacing_le (h : IsBinary q) (hq : 0 < q) :
    q + 2 ^ lastBit q ≤ 2 ^ (Int.log 2 q + 1) := by
  obtain ⟨n, hn⟩ := isBinary_multiple h hq
  have hle := lastBit_le_log h hq
  obtain ⟨k, hp⟩ := exists_two_zpow_eq_mul (by omega : lastBit q ≤ Int.log 2 q + 1)
  have hlt : n < 2 ^ k := by
    have h1 := (binade_bounds hq).2
    rw [hp] at h1
    conv_lhs at h1 => rw [hn]
    exact_mod_cast lt_of_mul_lt_mul_right h1 (two_zpow_pos (lastBit q)).le
  have hlt' : (n : ℚ) + 1 ≤ ((2 ^ k : ℤ) : ℚ) := by exact_mod_cast hlt
  rw [hp]
  calc q + 2 ^ lastBit q = (n + 1) * 2 ^ lastBit q := by linear_combination hn
    _ ≤ _ := mul_le_mul_of_nonneg_right hlt' (two_zpow_pos _).le

lemma add_spacing_le_of_lt (h : IsBinary q) (hq : 0 < q) (hlt : (2 : ℚ) ^ Int.log 2 q < q) :
    2 ^ Int.log 2 q + 2 ^ lastBit q ≤ q := by
  obtain ⟨n, hn⟩ := isBinary_multiple h hq
  obtain ⟨k, hp⟩ := exists_two_zpow_eq_mul (lastBit_le_log h hq)
  have hgt : 2 ^ k < n := by
    rw [hp] at hlt
    conv_rhs at hlt => rw [hn]
    exact_mod_cast lt_of_mul_lt_mul_right hlt (two_zpow_pos (lastBit q)).le
  have hgt' : ((2 ^ k : ℤ) : ℚ) + 1 ≤ n := by exact_mod_cast hgt
  rw [hp]
  calc _ = (((2 ^ k : ℤ) : ℚ) + 1) * 2 ^ lastBit q := by ring
    _ ≤ n * 2 ^ lastBit q := mul_le_mul_of_nonneg_right hgt' (two_zpow_pos _).le
    _ = q := hn.symm

lemma ofRat_eq_of_binade {x : ℚ} (h : IsBinary q) (hq : 0 < q) (h0 : (2 : ℚ) ^ Int.log 2 q ≤ x)
    (h1 : x < 2 ^ (Int.log 2 q + 1)) (hd : |x - q| < 2 ^ lastBit q / 2) : ofRat x = .finite q := by
  have hx : 0 < x := (two_zpow_pos _).trans_le h0
  have hs : lastBit x = lastBit q := by rw [lastBit, log_eq_of_bounds h0 h1, lastBit]
  exact ofRat_eq_of_close h hq hx hs (by rwa [spacing_eq hx, hs])

end Binade

lemma step_lt_spacing {q : ℚ} (hq : 0 < q) :
    (10 : ℚ) ^ (log10 q + 1 - 17) * 2 ^ 53 < q ∧ q < 2 ^ 53 * 2 ^ lastBit q := by
  constructor
  · have h := ten_zpow_log10_le hq
    have he : (10 : ℚ) ^ (log10 q + 1 - 17) * 10 ^ 16 = 10 ^ log10 q := by
      rw [← zpow_natCast, ← zpow_add₀ (by norm_num)]
      congr 1
      omega
    have hp : (0 : ℚ) < 10 ^ (log10 q + 1 - 17) := by positivity
    nlinarith
  · have := lt_spacing hq
    rwa [spacing_eq hq] at this

lemma upper_neighbour_close {q step x : ℚ} (h : IsBinary q) (hq : 0 < q)
    (hstep : step * 2 ^ 53 < q) (hx : x ≤ q)
    (hup : q < 2 ^ Int.log 2 q + 2 ^ lastBit q ∨ step / 2 < q - x) :
    x + step - q < 2 ^ lastBit q / 2 := by
  rcases hup with hlow | hhalf
  · have heq : (2 : ℚ) ^ Int.log 2 q = q := by
      rcases (binade_bounds hq).1.lt_or_eq with hlt | heq
      · exact absurd (add_spacing_le_of_lt h hq hlt) (not_le.mpr hlow)
      · exact heq
    have hsmall : q ≤ 2 ^ 52 * 2 ^ lastBit q := by
      have hle : (2 : ℚ) ^ Int.log 2 q ≤ 2 ^ (52 + lastBit q) :=
        zpow_le_zpow_right₀ one_le_two (by rw [lastBit]; omega)
      rw [heq, zpow_add₀ two_ne_zero] at hle
      exact_mod_cast hle
    linarith
  · have hwide := (step_lt_spacing hq).2
    linarith

/-- One of the two neighbours with seventeen digits reads back. -/
lemma seventeen_digits {q : ℚ} (h : IsBinary q) (hq : 0 < q) :
    ∃ m, multipleFor q (log10 q + 1 - 17) = some m := by
  obtain ⟨hstep, hsp⟩ := step_lt_spacing hq
  obtain ⟨hb0, hb1⟩ := binade_bounds hq
  have hroom := add_spacing_le h hq
  set step : ℚ := 10 ^ (log10 q + 1 - 17) with hs
  set sp : ℚ := 2 ^ lastBit q
  set c := (q / power 10 (log10 q + 1 - 17)).floor with hc
  have hpos : 0 < step := by positivity
  have hc0 : (c : ℚ) * step ≤ q := by
    have : (c : ℚ) ≤ q / step := by rw [hc, power_eq]; exact Int.floor_le _
    rwa [le_div_iff₀ hpos] at this
  have hc1 : q < (c + 1) * step := by
    have : q / step < c + 1 := by rw [hc, power_eq]; exact Int.lt_floor_add_one _
    rwa [div_lt_iff₀ hpos] at this
  -- The upper neighbour is taken at the start of a binade, where numbers below are denser.
  by_cases hup : q < (2 : ℚ) ^ Int.log 2 q + sp ∨ step / 2 < q - c * step
  · apply multipleFor_isSome (c + 1) (.inr rfl)
    rw [power_eq]
    push_cast
    have hclose := upper_neighbour_close h hq hstep hc0 hup
    apply ofRat_eq_of_binade h hq (by linarith) (by linarith)
    rw [abs_of_pos (by linarith)]
    linarith
  · apply multipleFor_isSome c (.inl rfl)
    rw [power_eq]
    push_cast
    obtain ⟨hl, hm⟩ := not_or.mp hup
    rw [not_lt] at hl hm
    apply ofRat_eq_of_binade h hq (by nlinarith) (by linarith)
    rw [abs_sub_comm, abs_of_nonneg (by linarith)]
    nlinarith

lemma ofRat_shortest {q : ℚ} (h : IsBinary q) (hq : 0 < q) :
    ofRat ((shortest q).1 * power 10 (shortest q).2) = .finite q := by
  set f : ℕ → Option (ℕ × ℤ) := fun n =>
    (multipleFor q (log10 q + 1 - n)).map fun m => (m, log10 q + 1 - n) with hf
  have hdef : shortest q = ((List.range 18).findSome? f).getD
      ((q / power 10 (log10 q + 1 - 17)).floor.toNat, log10 q + 1 - 17) := rfl
  rw [hdef]
  cases hfind : (List.range 18).findSome? f with
  | none =>
    obtain ⟨m, hm⟩ := seventeen_digits h hq
    have h17 := List.findSome?_eq_none_iff.mp hfind 17 (by simp)
    rw [hf] at h17
    simp only [Option.map_eq_none_iff] at h17
    rw [Nat.cast_ofNat, hm] at h17
    exact absurd h17 (by simp)
  | some p =>
    obtain ⟨n, -, hn⟩ := List.exists_of_findSome?_eq_some hfind
    obtain ⟨m, hm, rfl⟩ := Option.map_eq_some_iff.mp hn
    exact ofRat_of_multipleFor hq hm

end AuthGate.Number
