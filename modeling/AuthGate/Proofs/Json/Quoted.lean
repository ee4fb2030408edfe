import AuthGate.Json.Parser
import AuthGate.Json.Printer
import AuthGate.Proofs.Text.Units

/-! Quoted texts are read back. Half a pair of units, which is quoted where a text is cut, is read as
U+FFFD. -/

namespace AuthGate.Json

lemma hexDigit_value : ∀ n < 16, hexValue (hexDigit n) = some n := by decide

lemma unit_hex4 {n : ℕ} (hn : n < 65536) (r : List Char) : unit (hex4 n ++ r) = some (n, r) := by
  have h (k : ℕ) : hexValue (hexDigit (k % 16)) = some (k % 16) :=
    hexDigit_value _ (Nat.mod_lt _ (by decide))
  simp only [hex4, List.cons_append, List.nil_append, unit, h]
  congr 2
  omega

lemma joinUnits_of_lt {n : ℕ} (hn : n < 0xD800) (r : List Char) :
    joinUnits n r = (Char.ofNat n, r) := by
  unfold joinUnits
  rw [if_neg (by omega), if_neg (by omega)]

lemma string_plain {c : Char} (hq : c ≠ '"') (hb : c ≠ '\\') (h32 : 32 ≤ c.toNat) (fuel : ℕ)
    (seen r : List Char) : string (fuel + 1) seen (c :: r) = string fuel (c :: seen) r := by
  rw [string]
  · rw [if_neg (by simp [hb]; omega)]
  · exact fun h => hq h
  · exact fun _ h => absurd h hb
  · exact fun _ _ h => absurd h hb

lemma string_escape (c : Char) (fuel : ℕ) (seen r : List Char) :
    string (fuel + 1) seen (escape c ++ r) = string fuel (c :: seen) r := by
  rw [escape]
  split_ifs with h1 h2 h3 h4 h5 h6 h7 h8
  iterate 7 subst_vars; simp [string, shortEscape]
  · have hu := unit_hex4 (n := c.toNat) (by omega) r
    have hj := joinUnits_of_lt (n := c.toNat) (by omega) r
    rw [List.cons_append, List.cons_append, string, hu]
    simp [hj]
  · exact string_plain h1 h2 (by omega) fuel seen r

lemma string_escapes (s : List Char) {fuel : ℕ} (hf : s.length < fuel) (seen r : List Char) :
    string fuel seen (s.flatMap escape ++ '"' :: r) = some (.ofList (seen.reverse ++ s), r) := by
  induction s generalizing fuel seen with
  | nil =>
    cases fuel with
    | zero => simp at hf
    | succ fuel => simp [string]
  | cons c s ih =>
    cases fuel with
    | zero => simp at hf
    | succ fuel =>
      rw [List.flatMap_cons, List.append_assoc, string_escape, ih (by simpa using hf)]
      simp

lemma length_le_escapes (s : List Char) : s.length ≤ (s.flatMap escape).length := by
  induction s with
  | nil => simp
  | cons c s ih =>
    have : 1 ≤ (escape c).length := by
      rw [escape]
      split_ifs <;> simp
    simp only [List.flatMap_cons, List.length_append, List.length_cons]
    omega

lemma string_quote (s : String) {fuel : ℕ} (hf : (quote s.toList).length ≤ fuel + 1) (r : List Char) :
    ∃ t, quote s.toList ++ r = '"' :: t ∧ string fuel [] t = some (s, r) := by
  have hl := length_le_escapes s.toList
  refine ⟨s.toList.flatMap escape ++ '"' :: r, by simp [quote], ?_⟩
  simp only [quote, List.length_cons, List.length_append, List.length_nil] at hf
  rw [string_escapes _ (by omega)]
  simp

/-- The text does not go on with an escaped second half of a pair. -/
def NoLow (r : List Char) : Prop :=
  ∀ r', r = '\\' :: 'u' :: r' → ∀ p, unit r' = some p → p.1 < 0xDC00 ∨ 0xDFFF < p.1

lemma noLow_cons {c : Char} (hc : c ≠ '\\') (r : List Char) : NoLow (c :: r) := by
  intro r' h
  exact absurd (List.cons.inj h).1 hc

lemma noLow_hex4 {n : ℕ} (hn : n < 65536) (hlow : n < 0xDC00 ∨ 0xDFFF < n) (r : List Char) :
    NoLow ('\\' :: 'u' :: (hex4 n ++ r)) := by
  intro r' h p hp
  obtain rfl : hex4 n ++ r = r' := (List.cons.inj (List.cons.inj h).2).2
  rw [unit_hex4 hn] at hp
  obtain rfl := Option.some.inj hp
  exact hlow

lemma noLow_escape (c : Char) (r : List Char) : NoLow (escape c ++ r) := by
  rw [escape]
  split_ifs with h1 h2 h3 h4 h5 h6 h7 h8
  iterate 7
    intro r' h
    simp at h
  · exact noLow_hex4 (by omega) (by omega) r
  · exact noLow_cons h2 r

lemma noLow_escapeUnit {u : UInt16} (hu : Text.isLow u = false) (r : List Char) :
    NoLow (escapeUnit u ++ r) := by
  rw [escapeUnit]
  split_ifs with h
  · rw [Bool.eq_false_iff, Ne, Text.isLow_iff] at hu
    have := u.toNat_lt
    exact noLow_hex4 (by omega) (by omega) r
  · exact noLow_escape _ r

lemma le_toNat_joinHalves {u v : UInt16} (hu : Text.isHigh u = true) (hv : Text.isLow v = true) :
    0x10000 ≤ (Text.joinHalves u v).toNat := by
  rw [Text.isHigh_iff] at hu
  rw [Text.isLow_iff] at hv
  have hvalid : (0x10000 + (u.toNat - 0xD800) * 1024 + (v.toNat - 0xDC00)).isValidChar :=
    .inr ⟨by omega, by omega⟩
  rw [Text.joinHalves, Char.ofNat, dif_pos hvalid]
  change 0x10000 ≤ 0x10000 + (u.toNat - 0xD800) * 1024 + (v.toNat - 0xDC00)
  omega

lemma joinUnits_half {u : UInt16} (hu : Text.isHalf u = true) {r : List Char}
    (hr : Text.isHigh u = true → NoLow r) : joinUnits u.toNat r = (Text.replacementChar, r) := by
  rw [Text.isHigh_iff] at hr
  rw [Text.isHalf_iff] at hu
  unfold joinUnits
  split_ifs with hhigh hlow
  · split
    · rename_i r'
      split
      · rename_i lo r'' hunit
        have := hr hhigh r' rfl _ hunit
        dsimp only at this
        rw [if_neg (by omega)]
      · rfl
    · rfl
  · rfl
  · omega

lemma string_escapeUnit {u : UInt16} {r : List Char} (hr : Text.isHigh u = true → NoLow r)
    (fuel : ℕ) (seen : List Char) :
    string (fuel + 1) seen (escapeUnit u ++ r) = string fuel (Text.unitChar u :: seen) r := by
  rw [escapeUnit, Text.unitChar]
  split_ifs with h
  · have hu := unit_hex4 u.toNat_lt r
    rw [List.cons_append, List.cons_append, string, hu]
    simp only [joinUnits_half h hr]
  · exact string_escape _ fuel seen r

lemma string_joinHalves {u v : UInt16} (hu : Text.isHigh u = true) (hv : Text.isLow v = true)
    (fuel : ℕ) (seen r : List Char) : string (fuel + 1) seen (Text.joinHalves u v :: r) =
      string fuel (Text.joinHalves u v :: seen) r := by
  have hle := le_toNat_joinHalves hu hv
  apply string_plain
  · intro h
    rw [h] at hle
    exact absurd hle (by decide)
  · intro h
    rw [h] at hle
    exact absurd hle (by decide)
  · omega

lemma noLow_escapeUnits {us : List UInt16} (h : ∀ v ∈ us.head?, Text.isLow v = false)
    (r : List Char) : NoLow (escapeUnits us ++ '"' :: r) := by
  fun_cases escapeUnits us with
  | case1 => exact noLow_cons (by decide) r
  | case2 u v us hpair =>
    obtain ⟨hu, hv⟩ := Bool.and_eq_true_iff.1 hpair
    refine noLow_cons (fun hbackslash => ?_) _
    have hle := le_toNat_joinHalves hu hv
    rw [hbackslash] at hle
    exact absurd hle (by decide)
  | case3 u v us =>
    rw [List.append_assoc]
    exact noLow_escapeUnit (h u rfl) _
  | case4 u => exact noLow_escapeUnit (h u rfl) _

lemma string_escapeUnits (us : List UInt16) {fuel : ℕ} (hf : (Text.ofUnits us).length < fuel)
    (seen r : List Char) : string fuel seen (escapeUnits us ++ '"' :: r) =
      some (.ofList (seen.reverse ++ Text.ofUnits us), r) := by
  fun_induction Text.ofUnits us generalizing fuel seen with
  | case1 =>
    obtain ⟨fuel, rfl⟩ := Nat.exists_eq_add_one_of_ne_zero (Nat.ne_zero_of_lt hf)
    simp [escapeUnits, string]
  | case2 u v us h ih =>
    obtain ⟨fuel, rfl⟩ := Nat.exists_eq_add_one_of_ne_zero (Nat.ne_zero_of_lt hf)
    obtain ⟨hu, hv⟩ := Bool.and_eq_true_iff.1 h
    rw [escapeUnits, if_pos h, List.cons_append, string_joinHalves hu hv,
      ih (by simpa using hf)]
    simp
  | case3 u v us h ih =>
    obtain ⟨fuel, rfl⟩ := Nat.exists_eq_add_one_of_ne_zero (Nat.ne_zero_of_lt hf)
    have hlow : Text.isHigh u = true → ∀ w ∈ (v :: us).head?, Text.isLow w = false := by
      rintro hu w hw
      obtain rfl := Option.some.inj hw
      simpa [hu] using h
    rw [escapeUnits, if_neg h, List.append_assoc,
      string_escapeUnit fun hu => noLow_escapeUnits (hlow hu) r, ih (by simpa using hf)]
    simp
  | case4 u =>
    obtain ⟨fuel, rfl⟩ := Nat.exists_eq_add_one_of_ne_zero (Nat.ne_zero_of_lt hf)
    obtain ⟨fuel, rfl⟩ := Nat.exists_eq_add_one_of_ne_zero (show fuel ≠ 0 by simp at hf; omega)
    rw [escapeUnits, string_escapeUnit fun _ => noLow_cons (by decide) r]
    simp [string]

lemma length_le_escapeUnits (us : List UInt16) :
    (Text.ofUnits us).length ≤ (escapeUnits us).length := by
  have hunit (u : UInt16) : 1 ≤ (escapeUnit u).length := by
    rw [escapeUnit, escape]
    split_ifs <;> simp
  fun_induction Text.ofUnits us with
  | case1 => simp
  | case2 u v us h ih =>
    rw [escapeUnits, if_pos h, List.length_cons, List.length_cons]
    omega
  | case3 u v us h ih =>
    have := hunit u
    rw [escapeUnits, if_neg h, List.length_cons, List.length_append]
    omega
  | case4 u => exact hunit u

lemma string_quoteUnits (us : List UInt16) {fuel : ℕ} (hf : (quoteUnits us).length ≤ fuel + 1)
    (r : List Char) : ∃ t, quoteUnits us ++ r = '"' :: t ∧
      string fuel [] t = some (.ofList (Text.ofUnits us), r) := by
  have hl := length_le_escapeUnits us
  refine ⟨escapeUnits us ++ '"' :: r, by simp [quoteUnits], ?_⟩
  simp only [quoteUnits, List.length_cons, List.length_append, List.length_nil] at hf
  rw [string_escapeUnits us (by omega)]
  simp

end AuthGate.Json
