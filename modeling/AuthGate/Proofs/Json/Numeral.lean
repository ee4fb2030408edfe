import AuthGate.Json.Printer
import AuthGate.Json.Parser
import AuthGate.Proofs.Number.Shortest

namespace AuthGate

def AllDigits (ds : List Char) : Prop := ∀ c ∈ ds, c.isDigit = true

lemma allDigits_append {ds es : List Char} : AllDigits (ds ++ es) ↔ AllDigits ds ∧ AllDigits es := by
  simp only [AllDigits, List.mem_append]
  exact ⟨fun h => ⟨fun c hc => h c (.inl hc), fun c hc => h c (.inr hc)⟩,
    fun h c hc => hc.elim (h.1 c) (h.2 c)⟩

lemma allDigits_toDigits (n : ℕ) : AllDigits (Nat.toDigits 10 n) :=
  fun _ hc => Nat.isDigit_of_mem_toDigits (by norm_num) le_rfl hc

lemma allDigits_zeros (n : ℕ) : AllDigits (List.replicate n '0') := by
  intro c hc
  rw [List.eq_of_mem_replicate hc]
  rfl

lemma AllDigits.mono {ds es : List Char} (h : AllDigits es) (hs : ds ⊆ es) : AllDigits ds :=
  fun c hc => h c (hs hc)

lemma digitsValue_append (ds es : List Char) :
    digitsValue (ds ++ es) = digitsValue ds * 10 ^ es.length + digitsValue es := by
  change Nat.ofDigitChars 10 (ds ++ es) 0 = Nat.ofDigitChars 10 ds 0 * _ + Nat.ofDigitChars 10 es 0
  rw [Nat.ofDigitChars_append, Nat.ofDigitChars_eq_ofDigitChars_zero, mul_comm]

lemma digitsValue_toDigits (n : ℕ) : digitsValue (Nat.toDigits 10 n) = n :=
  Nat.ofDigitChars_ten_toDigits

lemma digitsValue_zeros (n : ℕ) : digitsValue (List.replicate n '0') = 0 := by
  change Nat.ofDigitChars 10 _ 0 = 0
  rw [Nat.ofDigitChars_replicate_zero, mul_zero]

lemma digitsValue_cons (c : Char) (ds : List Char) :
    digitsValue (c :: ds) = (c.toNat - '0'.toNat) * 10 ^ ds.length + digitsValue ds := by
  have := digitsValue_append [c] ds
  simpa [digitsValue] using this

lemma digitsValue_dropZeros (ds : List Char) :
    digitsValue (ds.dropWhile (· = '0')) = digitsValue ds := by
  induction ds with
  | nil => rfl
  | cons c ds ih =>
    by_cases hc : c = '0'
    · rw [List.dropWhile_cons_of_pos (by simpa using hc), ih, digitsValue_cons, hc]
      simp
    · rw [List.dropWhile_cons_of_neg (by simpa using hc)]

lemma digit_bounds {c : Char} (h : c.isDigit = true) :
    '0'.toNat ≤ c.toNat ∧ c.toNat - '0'.toNat ≤ 9 ∧ (c ≠ '0' → 1 ≤ c.toNat - '0'.toNat) := by
  have h' : 48 ≤ c.toNat ∧ c.toNat ≤ 57 := Char.isDigit_iff_toNat.mp h
  change 48 ≤ c.toNat ∧ c.toNat - 48 ≤ 9 ∧ (c ≠ '0' → 1 ≤ c.toNat - 48)
  have hz : c ≠ '0' → c.toNat ≠ 48 := fun hne he => hne (Char.toNat_inj.mp he)
  exact ⟨by omega, by omega, fun hne => by have := hz hne; omega⟩

lemma digitsValue_lt {ds : List Char} (h : AllDigits ds) : digitsValue ds < 10 ^ ds.length := by
  induction ds with
  | nil => simp [digitsValue]
  | cons c ds ih =>
    have hc := (digit_bounds (h c List.mem_cons_self)).2.1
    have ht := ih (h.mono (List.subset_cons_self c ds))
    rw [digitsValue_cons, List.length_cons, pow_succ]
    nlinarith

lemma le_digitsValue {c : Char} {ds : List Char} (hd : c.isDigit = true) (hc : c ≠ '0') :
    10 ^ ds.length ≤ digitsValue (c :: ds) := by
  have h := (digit_bounds hd).2.2 hc
  rw [digitsValue_cons]
  nlinarith [Nat.zero_le (digitsValue ds), Nat.pow_pos (n := ds.length) (show 0 < 10 by norm_num)]

lemma head_toDigits {n : ℕ} (hn : n ≠ 0) : (Nat.toDigits 10 n).head? ≠ some '0' := by
  intro h
  cases hds : Nat.toDigits 10 n with
  | nil => exact absurd hds Nat.toDigits_ne_nil
  | cons c ds =>
    rw [hds] at h
    obtain rfl := Option.some.inj h
    have hall := allDigits_toDigits n
    have hlen := Number.ten_pow_toDigits_le hn
    have hval := digitsValue_toDigits n
    rw [hds] at hall hlen hval
    have hlt := digitsValue_lt (hall.mono (List.subset_cons_self _ ds))
    rw [digitsValue_cons] at hval
    simp only [List.length_cons, Nat.add_sub_cancel, Nat.sub_self, zero_mul, zero_add] at hlen hval
    omega

structure Significant (ds : List Char) : Prop where
  all : AllDigits ds
  nonempty : ds ≠ []
  head : ds.head? ≠ some '0'

lemma significant_toDigits {n : ℕ} (hn : n ≠ 0) : Significant (Nat.toDigits 10 n) :=
  ⟨allDigits_toDigits n, Nat.toDigits_ne_nil, head_toDigits hn⟩

lemma significant_dropZeros {ds : List Char} (hd : AllDigits ds) (hv : digitsValue ds ≠ 0) :
    Significant (ds.dropWhile (· = '0')) where
  all := hd.mono (List.dropWhile_sublist _).subset
  nonempty hnil := by
    rw [← digitsValue_dropZeros, hnil] at hv
    exact hv rfl
  head hzero := by
    have := List.head?_dropWhile_not (· = '0') ds
    rw [hzero] at this
    exact absurd this (by decide)

lemma Significant.length_pos {ds : List Char} (h : Significant ds) : 0 < ds.length :=
  List.length_pos_of_ne_nil h.nonempty

lemma Significant.le_value {ds : List Char} (h : Significant ds) :
    10 ^ (ds.length - 1) ≤ digitsValue ds := by
  obtain ⟨hall, hne, hhead⟩ := h
  cases ds with
  | nil => exact absurd rfl hne
  | cons c ds =>
    exact le_digitsValue (hall c List.mem_cons_self) fun hc => hhead (congrArg some hc)

namespace Number

lemma eight_pow_lt_ten_pow : (8 : ℚ) ^ 400 < 10 ^ 400 :=
  pow_lt_pow_left₀ (by norm_num) (by norm_num) (by norm_num)

lemma size_le {v q : ℚ} {k : ℤ} (hq : IsBinary q) (hv : v ≤ 2 * q) (hk : (10 : ℚ) ^ k ≤ v) :
    k < 400 := by
  by_contra hc
  have h1 : (10 : ℚ) ^ (400 : ℤ) ≤ 10 ^ k := zpow_le_zpow_right₀ (by norm_num) (not_lt.mp hc)
  have h2 : (2 : ℚ) * 2 ^ 1024 ≤ 8 ^ 400 := by
    rw [← pow_succ', show (8 : ℚ) = 2 ^ 3 by norm_num, ← pow_mul]
    exact pow_le_pow_right₀ one_le_two (by norm_num)
  have h3 : q < 2 ^ 1024 := (abs_lt.mp hq.lt).2
  have h4 : v < 2 * 2 ^ 1024 := hv.trans_lt ((mul_lt_mul_iff_right₀ two_pos).mpr h3)
  have h5 : (10 : ℚ) ^ (400 : ℤ) ≤ v := h1.trans hk
  exact absurd (h5.trans_lt (h4.trans_le (h2.trans eight_pow_lt_ten_pow.le)))
    (by rw [← zpow_natCast]; exact lt_irrefl _)

lemma le_size {v q : ℚ} {k : ℤ} (h : IsBinary q) (hq : 0 < q) (hv : q / 2 ≤ v)
    (hk : v < (10 : ℚ) ^ k) : -400 ≤ k := by
  by_contra hc
  have h1 : (10 : ℚ) ^ k ≤ 10 ^ (-400 : ℤ) := zpow_le_zpow_right₀ (by norm_num) (by omega)
  have h2 : (10 : ℚ) ^ (-400 : ℤ) ≤ 8 ^ (-400 : ℤ) := by
    rw [zpow_neg, zpow_neg]
    exact inv_anti₀ (by positivity) (by exact_mod_cast eight_pow_lt_ten_pow.le)
  have h3 : (8 : ℚ) ^ (-400 : ℤ) ≤ 2 ^ (-1075 : ℤ) := by
    rw [show (8 : ℚ) = 2 ^ (3 : ℤ) by norm_num, ← zpow_mul]
    exact zpow_le_zpow_right₀ one_le_two (by norm_num)
  have h4 : (2 : ℚ) ^ (-1074 : ℤ) ≤ q := by
    have hl : -1074 ≤ Int.log 2 q := (le_max_right _ _).trans (lastBit_le_log h hq)
    exact (zpow_le_zpow_right₀ one_le_two hl).trans (binade_bounds hq).1
  have h5 : (2 : ℚ) ^ (-1074 : ℤ) = 2 * 2 ^ (-1075 : ℤ) := by
    rw [← zpow_one_add₀ two_ne_zero]
    norm_num
  have : q < 2 * 2 ^ (-1075 : ℤ) := by linarith [h1.trans (h2.trans h3)]
  linarith

lemma size_bounds {ds : List Char} {e : ℤ} {q : ℚ} (hd : Significant ds) (h : IsBinary q) (hq : 0 < q)
    (hv : ofRat (digitsValue ds * 10 ^ e) = .finite q) :
    -400 ≤ (ds.length : ℤ) + e ∧ (ds.length : ℤ) + e ≤ 400 := by
  obtain ⟨-, hlow, hhigh⟩ := bounds_of_ofRat hq hv
  have hten : (10 : ℚ) ≠ 0 := by norm_num
  have hp : (0 : ℚ) < 10 ^ e := by positivity
  have hlt : (digitsValue ds : ℚ) < 10 ^ (ds.length : ℤ) := by
    exact_mod_cast digitsValue_lt hd.all
  have hle : (10 : ℚ) ^ ((ds.length - 1 : ℕ) : ℤ) ≤ digitsValue ds := by
    exact_mod_cast hd.le_value
  have hmin : -400 ≤ (ds.length : ℤ) + e := by
    apply le_size h hq hlow
    rw [zpow_add₀ hten]
    exact mul_lt_mul_of_pos_right hlt hp
  have hmax : ((ds.length - 1 : ℕ) : ℤ) + e < 400 := by
    apply size_le h hhigh
    rw [zpow_add₀ hten]
    exact mul_le_mul_of_nonneg_right hle hp.le
  have hlength := hd.length_pos
  exact ⟨hmin, by omega⟩

lemma ofRat_signed (negative : Bool) {v q : ℚ} (hpos : 0 < v) (hq : 0 < q)
    (hv : ofRat v = .finite q) :
    ofRat ((if negative then -1 else 1) * v) = .finite (if negative then -q else q) := by
  cases negative with
  | false => simpa using hv
  | true =>
    rw [ofRat_pos hpos] at hv
    split_ifs at hv with hl
    have hn := ofRat_neg hpos
    rw [if_neg hl, Number.finite.inj hv, if_neg hq.ne'] at hn
    simpa using hn

lemma ofDecimal_eq (negative : Bool) {ds : List Char} {e : ℤ} {q : ℚ} (hd : AllDigits ds)
    (h : IsBinary q) (hq : 0 < q) (hv : ofRat (digitsValue ds * 10 ^ e) = .finite q) :
    ofDecimal negative ds e = .finite (if negative then -q else q) := by
  have hpos : 0 < (digitsValue ds : ℚ) * 10 ^ e := (bounds_of_ofRat hq hv).1
  have hsignificant : Significant (ds.dropWhile (· = '0')) := significant_dropZeros hd fun hzero => by
    simp [hzero] at hpos
  have hval := digitsValue_dropZeros ds
  obtain ⟨hmin, hmax⟩ := size_bounds hsignificant h hq (by rwa [hval])
  have hsome : ¬ (ds.dropWhile (· = '0')).isEmpty = true := mt List.isEmpty_iff.1 hsignificant.nonempty
  rw [ofDecimal]
  simp only [if_neg hsome, if_neg hmax.not_gt, if_neg hmin.not_gt, hval, power_eq, mul_assoc]
  exact ofRat_signed negative hpos hq hv

end Number

namespace Json

def EndsNumeral (r : List Char) : Prop :=
  ∀ c ∈ r.head?, c.isDigit = false ∧ c ≠ '.' ∧ c ≠ 'e' ∧ c ≠ 'E'

lemma endsNumeral_nil : EndsNumeral [] := by simp [EndsNumeral]

lemma digits_append {ds r : List Char} (h : AllDigits ds) (hr : ∀ c ∈ r.head?, c.isDigit = false) :
    digits (ds ++ r) = (ds, r) := by
  have ht : r.takeWhile Char.isDigit = [] := by
    cases r with
    | nil => rfl
    | cons c r => simp [hr c (by simp)]
  have hd : r.dropWhile Char.isDigit = r := by
    cases r with
    | nil => rfl
    | cons c r => simp [hr c (by simp)]
  rw [digits, List.takeWhile_append_of_pos h, List.dropWhile_append_of_pos h, ht, hd, List.append_nil]

def fractionText (frac : List Char) : List Char := if frac.isEmpty then [] else '.' :: frac

def exponentText : Option ℤ → List Char
  | none => []
  | some e => 'e' :: (if e < 0 then '-' else '+') :: Nat.toDigits 10 e.natAbs

lemma exponent_text (e : ℤ) {r : List Char} (hr : EndsNumeral r) :
    exponent ((if e < 0 then '-' else '+') :: Nat.toDigits 10 e.natAbs ++ r) = some (e, r) := by
  have hd : digits (Nat.toDigits 10 e.natAbs ++ r) = (Nat.toDigits 10 e.natAbs, r) :=
    digits_append (allDigits_toDigits _) fun c hc => (hr c hc).1
  have hu (sign : ℤ) : exponent.unsigned sign (Nat.toDigits 10 e.natAbs ++ r) =
      some (sign * e.natAbs, r) := by
    simp [exponent.unsigned, hd, digitsValue_toDigits]
  split_ifs with he
  · rw [List.cons_append, exponent, hu]
    congr 2
    omega
  · rw [List.cons_append, exponent, hu]
    congr 2
    omega

lemma scale_text (e : Option ℤ) {r : List Char} (hr : EndsNumeral r) :
    scale (exponentText e ++ r) = some (e.getD 0, r) := by
  cases e with
  | none =>
    cases r with
    | nil => rfl
    | cons c r =>
      obtain ⟨-, -, he, hE⟩ := hr c (by simp)
      change scale (c :: r) = some (0, c :: r)
      rw [scale]
      · intro _ h
        exact he (List.cons.inj h).1
      · intro _ h
        exact hE (List.cons.inj h).1
  | some e => exact exponent_text e hr

lemma head_exponentText (e : Option ℤ) {r : List Char} (hr : EndsNumeral r) :
    ∀ c ∈ (exponentText e ++ r).head?, c.isDigit = false ∧ c ≠ '.' := by
  cases e with
  | none => exact fun c hc => ⟨(hr c hc).1, (hr c hc).2.1⟩
  | some e => simp [exponentText]

lemma fraction_text {frac r : List Char} (hf : AllDigits frac)
    (hr : ∀ c ∈ r.head?, c.isDigit = false ∧ c ≠ '.') :
    fraction (fractionText frac ++ r) = some (frac, r) := by
  cases frac with
  | nil =>
    cases r with
    | nil => rfl
    | cons c r =>
      change fraction (c :: r) = some ([], c :: r)
      rw [fraction]
      intro _ h
      exact (hr c (by simp)).2 (List.cons.inj h).1
  | cons d ds =>
    have hd : digits (d :: ds ++ r) = (d :: ds, r) := digits_append hf fun c hc => (hr c hc).1
    rw [List.cons_append] at hd
    simp [fractionText, fraction, hd]

lemma head_fractionText (frac : List Char) {r : List Char} (hr : ∀ c ∈ r.head?, c.isDigit = false) :
    ∀ c ∈ (fractionText frac ++ r).head?, c.isDigit = false := by
  cases frac with
  | nil => exact hr
  | cons d ds => simp [fractionText]

lemma magnitude_text (negative : Bool) {whole frac r : List Char} (e : Option ℤ)
    (hw : AllDigits whole) (hne : whole ≠ []) (hlead : 1 < whole.length → whole.head? ≠ some '0')
    (hf : AllDigits frac) (hr : EndsNumeral r) :
    magnitude negative (whole ++ (fractionText frac ++ (exponentText e ++ r))) =
      some (.ofDecimal negative (whole ++ frac) (e.getD 0 - frac.length), r) := by
  have hguard : ¬ (whole.isEmpty = true ∨ (1 < whole.length ∧ whole.head? = some '0')) := by
    rintro (h | ⟨h, h'⟩)
    · exact hne (List.isEmpty_iff.mp h)
    · exact hlead h h'
  have hexp := head_exponentText e hr
  have hwhole := digits_append hw (head_fractionText frac fun c hc => (hexp c hc).1)
  rw [magnitude, hwhole]
  simp only [hguard, if_false, fraction_text hf hexp, Option.bind_eq_bind, Option.bind_some,
    scale_text e hr]

def Spells (t : List Char) (v : ℚ) : Prop :=
  ∃ (whole frac : List Char) (e : Option ℤ), t = whole ++ (fractionText frac ++ exponentText e) ∧
    AllDigits whole ∧ whole ≠ [] ∧ (1 < whole.length → whole.head? ≠ some '0') ∧ AllDigits frac ∧
    v = digitsValue (whole ++ frac) * 10 ^ (e.getD 0 - frac.length)

lemma spells_toDigits {n : ℕ} (hn : n ≠ 0) : Spells (Nat.toDigits 10 n) n :=
  ⟨Nat.toDigits 10 n, [], none, by simp [fractionText, exponentText], allDigits_toDigits n,
    Nat.toDigits_ne_nil, fun _ => head_toDigits hn, by simp [AllDigits], by
      simp [digitsValue_toDigits]⟩

lemma digitsValue_append_zeros (ds : List Char) (n : ℕ) :
    (digitsValue (ds ++ List.replicate n '0') : ℚ) = digitsValue ds * 10 ^ n := by
  rw [digitsValue_append, digitsValue_zeros, List.length_replicate]
  push_cast
  ring

lemma digitsValue_zeros_append (ds : List Char) (n : ℕ) :
    digitsValue (List.replicate n '0' ++ ds) = digitsValue ds := by
  rw [digitsValue_append, digitsValue_zeros, zero_mul, zero_add]

section

variable {ds : List Char} (h : Significant ds)

include h

lemma spells_padded (k : ℕ) :
    Spells (ds ++ List.replicate k '0') (digitsValue ds * 10 ^ (k : ℤ)) := by
  refine ⟨ds ++ List.replicate k '0', [], none, by simp [fractionText, exponentText],
    allDigits_append.mpr ⟨h.all, allDigits_zeros _⟩, by simp [h.nonempty], ?_,
    by simp [AllDigits], ?_⟩
  · intro _
    rw [List.head?_append_of_ne_nil _ h.nonempty]
    exact h.head
  · rw [List.append_nil, digitsValue_append_zeros]
    simp

lemma spells_pointed {p : ℕ} (hp : 0 < p) (hlt : p < ds.length) {g : ℤ}
    (hg : (ds.length : ℤ) + g = p) :
    Spells (ds.take p ++ '.' :: ds.drop p) (digitsValue ds * 10 ^ g) := by
  refine ⟨ds.take p, ds.drop p, none, by simp [fractionText, exponentText, hlt],
    h.all.mono (List.take_subset _ _), by simp [h.nonempty, hp.ne'], ?_,
    h.all.mono (List.drop_subset _ _), ?_⟩
  · intro _
    rw [List.head?_take, if_neg hp.ne']
    exact h.head
  · rw [List.take_append_drop, List.length_drop]
    congr 2
    simp only [Option.getD_none]
    omega

lemma spells_small {k : ℕ} {g : ℤ} (hg : (ds.length : ℤ) + g = -k) :
    Spells ('0' :: '.' :: (List.replicate k '0' ++ ds)) (digitsValue ds * 10 ^ g) := by
  refine ⟨['0'], List.replicate k '0' ++ ds, none,
    by simp [fractionText, exponentText, h.nonempty], by simp [AllDigits], by simp, by simp,
    allDigits_append.mpr ⟨allDigits_zeros _, h.all⟩, ?_⟩
  have hzeros := digitsValue_zeros_append ds (k + 1)
  rw [List.replicate_succ, List.cons_append] at hzeros
  rw [List.singleton_append, hzeros, List.length_append, List.length_replicate]
  congr 2
  simp only [Option.getD_none]
  omega

lemma spells_scaled {e g : ℤ} (hg : (ds.length : ℤ) + g = e + 1) :
    Spells (ds.take 1 ++ (if ds.length ≤ 1 then [] else '.' :: ds.drop 1) ++
      'e' :: (if e < 0 then '-' else '+') :: Nat.toDigits 10 e.natAbs)
        (digitsValue ds * 10 ^ g) := by
  refine ⟨ds.take 1, ds.drop 1, some e, ?_, h.all.mono (List.take_subset _ _),
    by simp [h.nonempty], ?_, h.all.mono (List.drop_subset _ _), ?_⟩
  · have hd : (ds.drop 1).isEmpty = decide (ds.length ≤ 1) := by
      rw [Bool.eq_iff_iff, List.isEmpty_iff, List.drop_eq_nil_iff, decide_eq_true_eq]
    simp only [fractionText, exponentText, hd, decide_eq_true_eq, List.append_assoc]
  · intro hone
    simp at hone
  · rw [List.take_append_drop, List.length_drop]
    have hlength := h.length_pos
    congr 2
    simp only [Option.getD_some]
    omega

lemma spells_layout (g : ℤ) : Spells (Number.layout ds g) (digitsValue ds * 10 ^ g) := by
  rw [Number.layout]
  by_cases hwhole : 0 ≤ g ∧ (ds.length : ℤ) + g ≤ 21
  · rw [if_pos hwhole]
    obtain ⟨k, rfl⟩ := Int.eq_ofNat_of_zero_le hwhole.1
    exact spells_padded h k
  rw [if_neg hwhole]
  by_cases hpoint : 0 < (ds.length : ℤ) + g ∧ (ds.length : ℤ) + g ≤ 21
  · rw [if_pos hpoint]
    obtain ⟨p, hp⟩ := Int.eq_ofNat_of_zero_le hpoint.1.le
    rw [hp]
    exact spells_pointed h (by omega) (by omega) hp
  rw [if_neg hpoint]
  by_cases hsmall : -6 < (ds.length : ℤ) + g ∧ (ds.length : ℤ) + g ≤ 0
  · rw [if_pos hsmall]
    obtain ⟨k, hk⟩ := Int.eq_ofNat_of_zero_le (Int.neg_nonneg.2 hsmall.2)
    rw [hk]
    exact spells_small h (by omega)
  rw [if_neg hsmall]
  exact spells_scaled h (sub_add_cancel ((ds.length : ℤ) + g) 1).symm

end

lemma spells_magnitudeText {q : ℚ} (h : Number.IsBinary q) (hq : 0 < q) :
    ∃ v, Spells (Number.magnitudeText q) v ∧ Number.ofRat v = .finite q := by
  rcases hsh : Number.shortest q with ⟨m, g⟩
  rw [Number.magnitudeText, hsh]
  split_ifs with hi
  · have hn : q.num.natAbs ≠ 0 := by simpa using hq.ne'
    have hval : ((q.num.natAbs : ℕ) : ℚ) = q := by
      rw [Nat.cast_natAbs, abs_of_pos (Rat.num_pos.mpr hq)]
      exact Rat.coe_int_num_of_den_eq_one hi.1
    refine ⟨_, spells_toDigits hn, ?_⟩
    rw [hval]
    exact Number.ofRat_of_isBinary h
  · have hs := Number.ofRat_shortest h hq
    rw [hsh, Number.power_eq] at hs
    have hm : m ≠ 0 := by
      rintro rfl
      exact absurd (Number.bounds_of_ofRat hq hs).1 (by simp)
    refine ⟨_, spells_layout (significant_toDigits hm) g, ?_⟩
    rw [digitsValue_toDigits]
    exact_mod_cast hs

lemma Spells.magnitude {t r : List Char} {v q : ℚ} (ht : Spells t v) (negative : Bool)
    (h : Number.IsBinary q) (hq : 0 < q) (hv : Number.ofRat v = .finite q) (hr : EndsNumeral r) :
    Json.magnitude negative (t ++ r) = some (.finite (if negative then -q else q), r) := by
  obtain ⟨whole, frac, e, rfl, hw, hne, hlead, hf, rfl⟩ := ht
  rw [List.append_assoc, List.append_assoc, magnitude_text negative e hw hne hlead hf hr,
    Number.ofDecimal_eq negative (allDigits_append.mpr ⟨hw, hf⟩) h hq hv]

lemma Spells.head {t : List Char} {v : ℚ} (ht : Spells t v) (r : List Char) :
    ∃ c s, t ++ r = c :: s ∧ c.isDigit = true := by
  obtain ⟨whole, frac, e, rfl, hw, hne, -⟩ := ht
  cases whole with
  | nil => exact absurd rfl hne
  | cons c cs => exact ⟨c, _, rfl, hw c List.mem_cons_self⟩

theorem numeral_chars {q : ℚ} (h : Number.IsBinary q) {r : List Char} (hr : EndsNumeral r) :
    numeral ((Number.finite q).chars ++ r) = some (.finite q, r) := by
  rw [Number.chars]
  rcases lt_trichotomy q 0 with hq | rfl | hq
  · obtain ⟨v, hs, hv⟩ := spells_magnitudeText h.neg (by linarith)
    rw [if_pos hq, List.cons_append]
    change magnitude true _ = _
    rw [hs.magnitude true h.neg (by linarith) hv hr]
    simp
  · have hzero : AllDigits ['0'] := by simp [AllDigits]
    have hnil : AllDigits [] := by simp [AllDigits]
    exact magnitude_text false none hzero (by simp) (by simp) hnil hr
  · obtain ⟨v, hs, hv⟩ := spells_magnitudeText h hq
    obtain ⟨c, s, hc, hd⟩ := hs.head r
    have hm := hs.magnitude false h hq hv hr
    rw [if_neg hq.not_gt]
    rw [hc] at hm ⊢
    have hminus : c ≠ '-' := fun he => absurd hd (by rw [he]; decide)
    rw [numeral]
    · simpa using hm
    · intro _ he
      exact hminus (List.cons.inj he).1

end Json

end AuthGate
