import AuthGate.Text.Units
import AuthGate.Text.Utf8
import Mathlib.Data.List.Nodup
import Mathlib.Tactic.Common

namespace AuthGate.Text

lemma toNat_toUInt16 {n : ℕ} (hn : n < 0x10000) : n.toUInt16.toNat = n :=
  (UInt16.toNat_ofNat' (n := n)).trans (Nat.mod_eq_of_lt hn)

lemma toNat_valid (c : Char) : c.toNat < 0xD800 ∨ 0xDFFF < c.toNat ∧ c.toNat < 0x110000 := c.valid

/-- The units of a character end where they end: no pair starts with the unit of a character. -/
lemma unitsOf_append_inj {c d : Char} {r r' : List UInt16}
    (h : unitsOf c ++ r = unitsOf d ++ r') : c = d ∧ r = r' := by
  have hc := toNat_valid c
  have hd := toNat_valid d
  have hunit {m n : ℕ} (hm : m < 0x10000) (hn : n < 0x10000) (h : m.toUInt16 = n.toUInt16) :
      m = n := by
    rw [← toNat_toUInt16 hm, h, toNat_toUInt16 hn]
  -- The units of a pair are no characters, so a pair is not taken for a single unit.
  simp only [unitsOf] at h
  split_ifs at h with hshort hshort'
  · obtain ⟨h, hr⟩ := List.cons.inj h
    exact ⟨Char.toNat_inj.1 (hunit hshort hshort' h), hr⟩
  · obtain ⟨h, -⟩ := List.cons.inj h
    have := hunit hshort (by omega) h
    omega
  · obtain ⟨h, -⟩ := List.cons.inj h
    have := hunit (by omega) (by omega) h
    omega
  · obtain ⟨hhigh, h⟩ := List.cons.inj h
    obtain ⟨hlow, hr⟩ := List.cons.inj h
    have hhigh := hunit (by omega) (by omega) hhigh
    have hlow := hunit (by omega) (by omega) hlow
    exact ⟨Char.toNat_inj.1 (by omega), hr⟩

lemma flatMap_unitsOf_inj {cs ds : List Char} (h : cs.flatMap unitsOf = ds.flatMap unitsOf) :
    cs = ds := by
  have hne (c : Char) : unitsOf c ≠ [] := by
    simp only [unitsOf]
    split_ifs <;> simp
  induction cs generalizing ds with
  | nil =>
    cases ds with
    | nil => rfl
    | cons d ds => simp [hne] at h
  | cons c cs ih =>
    cases ds with
    | nil => simp [hne] at h
    | cons d ds =>
      rw [List.flatMap_cons, List.flatMap_cons] at h
      obtain ⟨rfl, hrest⟩ := unitsOf_append_inj h
      rw [ih hrest]

lemma units_inj {s t : String} : units s = units t ↔ s = t :=
  ⟨fun h => String.toList_inj.1 (flatMap_unitsOf_inj h), congrArg units⟩

lemma unitsLE_iff {s t : String} : unitsLE s t = true ↔ units s < units t ∨ s = t := by
  rw [unitsLE, decide_eq_true_eq, List.le_iff_lt_or_eq, units_inj]

lemma unitsLE_trans (s t u : String) (h : unitsLE s t = true) (h' : unitsLE t u = true) :
    unitsLE s u = true := by
  simp only [unitsLE, decide_eq_true_eq] at h h' ⊢
  exact List.le_trans h h'

lemma unitsLE_total (s t : String) : (unitsLE s t || unitsLE t s) = true := by
  simpa [unitsLE] using List.le_total (units s) (units t)

def Ascending (ts : List String) : Prop := ts.Pairwise fun s t => units s < units t

lemma Ascending.nodup {ts : List String} (h : Ascending ts) : ts.Nodup := by
  refine List.Pairwise.imp (fun {s t} hlt => ?_) h
  rintro rfl
  exact List.lt_irrefl _ hlt

lemma ascending_of_nodup {ts : List String} (h : ts.Pairwise fun s t => unitsLE s t = true)
    (hnodup : ts.Nodup) : Ascending ts :=
  (h.and hnodup).imp fun ⟨hle, hne⟩ => (unitsLE_iff.1 hle).resolve_right hne

lemma Ascending.ext {ts ts' : List String} (h : Ascending ts) (h' : Ascending ts')
    (hmem : ∀ t, t ∈ ts ↔ t ∈ ts') : ts = ts' := by
  refine List.Perm.eq_of_pairwise (fun s t _ _ hst hts => ?_) h h'
    ((List.perm_ext_iff_of_nodup h.nodup h'.nodup).2 hmem)
  exact absurd (List.lt_trans hst hts) (List.lt_irrefl _)

def unitChar (u : UInt16) : Char := if isHalf u then replacementChar else Char.ofNat u.toNat

def ofUnits : List UInt16 → List Char
  | [] => []
  | u :: v :: r =>
    if isHigh u && isLow v then joinHalves u v :: ofUnits r else unitChar u :: ofUnits (v :: r)
  | [u] => [unitChar u]

lemma isHigh_iff {u : UInt16} : isHigh u = true ↔ 0xD800 ≤ u.toNat ∧ u.toNat ≤ 0xDBFF := by
  simp [isHigh, UInt16.le_iff_toNat_le]

lemma isLow_iff {u : UInt16} : isLow u = true ↔ 0xDC00 ≤ u.toNat ∧ u.toNat ≤ 0xDFFF := by
  simp [isLow, UInt16.le_iff_toNat_le]

lemma isHalf_iff {u : UInt16} : isHalf u = true ↔ 0xD800 ≤ u.toNat ∧ u.toNat ≤ 0xDFFF := by
  rw [isHalf, Bool.or_eq_true, isHigh_iff, isLow_iff]
  omega

lemma ofUnits_cons {u : UInt16} {us : List UInt16}
    (h : isHigh u = true → ∀ v ∈ us.head?, isLow v = false) :
    ofUnits (u :: us) = unitChar u :: ofUnits us := by
  cases us with
  | nil => rfl
  | cons v us =>
    rw [ofUnits, if_neg]
    rw [Bool.and_eq_true, not_and, Bool.not_eq_true]
    exact fun hu => h hu v rfl

lemma unitsOf_cases (c : Char) :
    (∃ u, unitsOf c = [u] ∧ isHalf u = false ∧ Char.ofNat u.toNat = c) ∨
      ∃ u v, unitsOf c = [u, v] ∧ isHigh u = true ∧ isLow v = true ∧ joinHalves u v = c := by
  have hc := toNat_valid c
  by_cases h : c.toNat < 0x10000
  · refine .inl ⟨c.toNat.toUInt16, if_pos h, ?_, ?_⟩
    · rw [Bool.eq_false_iff, Ne, isHalf_iff, toNat_toUInt16 h]
      omega
    · rw [toNat_toUInt16 h, Char.ofNat_toNat]
  · have hhigh := toNat_toUInt16 (n := 0xD800 + (c.toNat - 0x10000) / 1024) (by omega)
    have hlow := toNat_toUInt16 (n := 0xDC00 + (c.toNat - 0x10000) % 1024) (by omega)
    refine .inr ⟨_, _, if_neg h, ?_, ?_, ?_⟩
    · rw [isHigh_iff, hhigh]
      omega
    · rw [isLow_iff, hlow]
      omega
    · have hcode : 0x10000 + (0xD800 + (c.toNat - 0x10000) / 1024 - 0xD800) * 1024 +
          (0xDC00 + (c.toNat - 0x10000) % 1024 - 0xDC00) = c.toNat := by omega
      rw [joinHalves, hhigh, hlow, hcode, Char.ofNat_toNat]

lemma ofUnits_unitsOf_append (c : Char) (us : List UInt16) :
    ofUnits (unitsOf c ++ us) = c :: ofUnits us := by
  rcases unitsOf_cases c with ⟨u, hu, hhalf, hc⟩ | ⟨u, v, hu, hhigh, hlow, hc⟩
  · have hnot : isHigh u = true → ∀ v ∈ us.head?, isLow v = false := by
      intro hhigh
      rw [isHalf, hhigh] at hhalf
      cases hhalf
    rw [hu, List.singleton_append, ofUnits_cons hnot, unitChar, hhalf, if_neg Bool.false_ne_true,
      hc]
  · rw [hu, List.cons_append, List.singleton_append, ofUnits, hhigh, hlow, hc]
    rfl

lemma ofUnits_append (s : List Char) (us : List UInt16) :
    ofUnits (s.flatMap unitsOf ++ us) = s ++ ofUnits us := by
  induction s with
  | nil => rfl
  | cons c s ih =>
    rw [List.flatMap_cons, List.append_assoc, ofUnits_unitsOf_append, ih, List.cons_append]

lemma ofUnits_units (s : String) : ofUnits (units s) = s.toList := by
  have h := ofUnits_append s.toList []
  rwa [List.append_nil, ofUnits, List.append_nil] at h

/-- What a text is cut to: whole characters, and perhaps the first half of the next one. -/
lemma take_units (n : ℕ) (s : List Char) : ∃ t, t <+: s ∧
    ((s.flatMap unitsOf).take n = t.flatMap unitsOf ∨
      ∃ u, isHigh u = true ∧ (s.flatMap unitsOf).take n = t.flatMap unitsOf ++ [u]) := by
  induction s generalizing n with
  | nil => exact ⟨[], List.prefix_rfl, .inl (by simp)⟩
  | cons c s ih =>
    have hstep {m : ℕ} {w : List UInt16} (hw : unitsOf c = w) (hm : n = w.length + m) : ∃ t,
        t <+: c :: s ∧ (((c :: s).flatMap unitsOf).take n = t.flatMap unitsOf ∨
          ∃ u, isHigh u = true ∧ ((c :: s).flatMap unitsOf).take n = t.flatMap unitsOf ++ [u]) := by
      obtain ⟨t, ht, h⟩ := ih m
      refine ⟨c :: t, List.cons_prefix_cons.2 ⟨rfl, ht⟩, ?_⟩
      rw [List.flatMap_cons, List.flatMap_cons, hw, hm, List.take_length_add_append]
      rcases h with h | ⟨u, hu, h⟩
      · exact .inl (by rw [h])
      · exact .inr ⟨u, hu, by rw [h, List.append_assoc]⟩
    cases n with
    | zero => exact ⟨[], List.nil_prefix, .inl rfl⟩
    | succ n =>
      rcases unitsOf_cases c with ⟨u, hu, -⟩ | ⟨u, v, hu, hhigh, -⟩
      · exact hstep hu (m := n) (Nat.add_comm n 1)
      · cases n with
        | zero => exact ⟨[], List.nil_prefix, .inr ⟨u, hhigh, by simp [hu]⟩⟩
        | succ n => exact hstep hu (m := n) (Nat.add_comm n 2)

end AuthGate.Text
