import AuthGate.Calendar
import Mathlib.Data.Nat.Digits.Defs
import Mathlib.Tactic.Common

namespace AuthGate

lemma at_notMem_digits (n : ℕ) : '@' ∉ Nat.toDigits 10 n := fun h =>
  absurd (Nat.isDigit_of_mem_toDigits (by norm_num) le_rfl h) (by decide)

namespace Calendar

lemma at_notMem_padded (width n : ℕ) : '@' ∉ padded width n := by
  simp [padded, List.leftpad, at_notMem_digits]

lemma at_notMem_iso (t : ℤ) : '@' ∉ iso t := by
  have hyear (y : ℤ) : '@' ∉ yearText y := by
    rw [yearText]
    split_ifs <;> simp [at_notMem_padded]
  simp [iso, hyear, at_notMem_padded]

variable {days t : ℤ}

lemma dayOf_bounds (hl : -100000000 ≤ days) (hr : days ≤ 100000000) :
    (dayOf days).year.natAbs < 10 ^ 6 ∧ (dayOf days).month < 10 ^ 2 ∧
      (dayOf days).day < 10 ^ 2 := by
  have hfdiv : (days + 719468).fdiv 146097 = (days + 719468) / 146097 :=
    Int.fdiv_eq_ediv_of_nonneg _ (by norm_num)
  simp only [dayOf, hfdiv]
  have hera : -700 ≤ (days + 719468) / 146097 ∧ (days + 719468) / 146097 ≤ 700 := by omega
  have hdoe : (days + 719468 - (days + 719468) / 146097 * 146097).toNat < 146097 := by omega
  generalize (days + 719468 - (days + 719468) / 146097 * 146097).toNat = doe at hdoe ⊢
  generalize (days + 719468) / 146097 = era at hera ⊢
  generalize hyoe : (doe - doe / 1460 + doe / 36524 - doe / 146096) / 365 = yoe
  have hyear : yoe ≤ 401 := by omega
  have hdoy : doe - (365 * yoe + yoe / 4 - yoe / 100) ≤ 400 := by omega
  generalize doe - (365 * yoe + yoe / 4 - yoe / 100) = doy at hdoy ⊢
  refine ⟨?_, ?_, ?_⟩
  · split_ifs <;> omega
  · split_ifs <;> omega
  · omega

lemma natAbs_of_instant? {ms : Number} (h : instant? ms = some t) :
    t.natAbs ≤ 8640000000000000 := by
  rw [instant?] at h
  split at h
  · dsimp only at h
    obtain ⟨hbound, ht⟩ := Option.ite_none_right_eq_some.1 h
    rwa [← Option.some.inj ht]
  · cases h

def zeroed (c : Char) : Char := if c.isDigit then '0' else c

lemma map_zeroed_padded {width n : ℕ} (hw : 0 < width) (h : n < 10 ^ width) :
    (padded width n).map zeroed = List.replicate width '0' := by
  have hlength := Nat.toDigits_length 10 n width hw h
  rw [List.eq_replicate_iff, List.length_map, padded, List.length_leftpad]
  refine ⟨max_eq_left hlength, ?_⟩
  intro c hc
  obtain ⟨d, hd, rfl⟩ := List.mem_map.1 hc
  have hdigit : d.isDigit = true := by
    rw [List.leftpad, List.mem_append, List.mem_replicate] at hd
    obtain ⟨-, rfl⟩ | hd := hd
    · decide
    · exact Nat.isDigit_of_mem_toDigits (by norm_num) le_rfl hd
  rw [zeroed, if_pos hdigit]

lemma map_zeroed_yearText {y : ℤ} (h : y.natAbs < 10 ^ 6) :
    (yearText y).map zeroed ∈ ["0000".toList, "+000000".toList, "-000000".toList] := by
  have hsix := map_zeroed_padded (by norm_num) h
  rw [yearText]
  split_ifs with hfour hneg
  · rw [map_zeroed_padded (by norm_num) (by omega)]
    decide
  · rw [List.map_cons, hsix]
    decide
  · rw [List.map_cons, hsix]
    decide

lemma map_zeroed_iso (h : t.natAbs ≤ 8640000000000000) :
    ∃ year ∈ ["0000".toList, "+000000".toList, "-000000".toList],
      (iso t).map zeroed = year ++ "-00-00T00:00:00.000Z".toList := by
  have hfdiv : t.fdiv 86400000 = t / 86400000 := Int.fdiv_eq_ediv_of_nonneg _ (by norm_num)
  have hfmod : t.fmod 86400000 = t % 86400000 := Int.fmod_eq_emod_of_nonneg _ (by norm_num)
  have hlow : -100000000 ≤ t.fdiv 86400000 := by omega
  have hhigh : t.fdiv 86400000 ≤ 100000000 := by omega
  obtain ⟨hyear, hmonth, hday⟩ := dayOf_bounds hlow hhigh
  have htwo {n : ℕ} (hn : n < 10 ^ 2) := map_zeroed_padded (by norm_num) hn
  have hthree {n : ℕ} (hn : n < 10 ^ 3) := map_zeroed_padded (by norm_num) hn
  refine ⟨_, map_zeroed_yearText hyear, ?_⟩
  have hms : (t.fmod 86400000).toNat < 86400000 := by omega
  rw [iso]
  generalize (t.fmod 86400000).toNat = ms at hms ⊢
  simp only [List.map_append, List.map_cons, htwo hmonth, htwo hday,
    htwo (n := ms / 3600000) (by omega), htwo (n := ms / 60000 % 60) (by omega),
    htwo (n := ms / 1000 % 60) (by omega),
    hthree (n := ms % 1000) (by omega)]
  simp only [List.append_assoc, List.cons_append]
  rw [List.append_cancel_left_eq]
  decide

end Calendar

end AuthGate
