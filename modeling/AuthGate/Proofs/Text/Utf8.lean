import AuthGate.Text.Utf8
import Mathlib.Tactic.Common

namespace AuthGate.Text

lemma toNat_lt_of_isAlphanum {c : Char} (h : c.isAlphanum = true) : c.toNat < 128 := by
  delta Char.isAlphanum Char.isAlpha Char.isUpper Char.isLower Char.isDigit at h
  simp only [Bool.or_eq_true, Bool.and_eq_true, decide_eq_true_eq, UInt32.le_iff_toNat_le] at h
  rcases h with (h | h) | h
  · exact Nat.lt_of_le_of_lt h.2 (by decide)
  · exact Nat.lt_of_le_of_lt h.2 (by decide)
  · exact Nat.lt_of_le_of_lt h.2 (by decide)

lemma decodeFrom_cons (p : Option Pending) (b : UInt8) (bs : List UInt8) :
    decodeFrom p (b :: bs) = (nextByte p b).1 ++ decodeFrom (nextByte p b).2 bs := by
  cases p <;> rfl

lemma leadByte_one : ∀ n < 0x80, leadByte (.ofNat n) = ([Char.ofNat n], none) := by
  decide +kernel

lemma leadByte_two : ∀ k < 32, 2 ≤ k →
    leadByte (.ofNat (k + 0xC0)) = ([], some ⟨k, 1, 0x80, 0xBF⟩) := by
  decide +kernel

lemma leadByte_three : ∀ k < 16, leadByte (.ofNat (k + 0xE0)) =
    ([], some ⟨k, 2, if k = 0 then 0xA0 else 0x80, if k = 13 then 0x9F else 0xBF⟩) := by
  decide +kernel

lemma leadByte_four : ∀ k < 5, leadByte (.ofNat (k + 0xF0)) =
    ([], some ⟨k, 3, if k = 0 then 0x90 else 0x80, if k = 4 then 0x8F else 0xBF⟩) := by
  decide +kernel

lemma nextByte_continues {p : Pending} {k : ℕ} (hk : k < 64) (hlow : p.low.toNat ≤ k + 0x80)
    (hhigh : k + 0x80 ≤ p.high.toNat) : nextByte (some p) (.ofNat (k + 0x80)) =
      if p.owed ≤ 1 then ([Char.ofNat (p.bits * 64 + k)], none)
      else ([], some ⟨p.bits * 64 + k, p.owed - 1, 0x80, 0xBF⟩) := by
  have hn : (UInt8.ofNat (k + 0x80)).toNat = k + 0x80 :=
    UInt8.toNat_ofNat_of_lt' (by rw [UInt8.size]; omega)
  have hm : (k + 0x80) % 64 = k := by omega
  have hrange : p.low ≤ .ofNat (k + 0x80) ∧ .ofNat (k + 0x80) ≤ p.high := by
    rw [UInt8.le_iff_toNat_le, UInt8.le_iff_toNat_le, hn]
    exact ⟨hlow, hhigh⟩
  rw [nextByte, if_pos hrange]
  simp only [hn, hm]

lemma decodeFrom_last {bits k : ℕ} {low high : UInt8} (hk : k < 64) (hlow : low.toNat ≤ k + 0x80)
    (hhigh : k + 0x80 ≤ high.toNat) (bs : List UInt8) :
    decodeFrom (some ⟨bits, 1, low, high⟩) (.ofNat (k + 0x80) :: bs) =
      Char.ofNat (bits * 64 + k) :: decodeFrom none bs := by
  rw [decodeFrom_cons, nextByte_continues hk hlow hhigh]
  rfl

lemma decodeFrom_more {bits owed k : ℕ} {low high : UInt8} (hk : k < 64)
    (hlow : low.toNat ≤ k + 0x80) (hhigh : k + 0x80 ≤ high.toNat) (bs : List UInt8) :
    decodeFrom (some ⟨bits, owed + 2, low, high⟩) (.ofNat (k + 0x80) :: bs) =
      decodeFrom (some ⟨bits * 64 + k, owed + 1, 0x80, 0xBF⟩) bs := by
  rw [decodeFrom_cons, nextByte_continues hk hlow hhigh]
  simp

lemma decodeFrom_utf8EncodeChar (c : Char) (bs : List UInt8) :
    decodeFrom none (String.utf8EncodeChar c ++ bs) = c :: decodeFrom none bs := by
  have hc : Char.ofNat c.val.toNat = c := Char.ofNat_toNat c
  have hv : c.val.toNat < 0xD800 ∨ 0xDFFF < c.val.toNat ∧ c.val.toNat < 0x110000 := c.valid
  simp only [String.utf8EncodeChar]
  generalize c.val.toNat = n at hc hv
  split_ifs with h1 h2 h3
  · rw [List.singleton_append, decodeFrom_cons, nextByte, leadByte_one n (by omega), hc]
    rfl
  · simp only [List.cons_append, List.nil_append]
    rw [decodeFrom_cons, nextByte, leadByte_two _ (by omega) (by omega), List.nil_append,
      decodeFrom_last (by omega) (by simp) (by simp; omega), ← hc]
    congr 2
    omega
  · simp only [List.cons_append, List.nil_append]
    rw [decodeFrom_cons, nextByte, leadByte_three _ (by omega), List.nil_append,
      decodeFrom_more (by omega) (by split_ifs <;> simp; omega) (by split_ifs <;> simp <;> omega),
      decodeFrom_last (by omega) (by simp) (by simp; omega), ← hc]
    congr 2
    omega
  · simp only [List.cons_append, List.nil_append]
    have hm : n / 262144 % 8 = n / 262144 := by omega
    rw [hm, decodeFrom_cons, nextByte, leadByte_four _ (by omega), List.nil_append,
      decodeFrom_more (by omega) (by split_ifs <;> simp; omega) (by split_ifs <;> simp <;> omega),
      decodeFrom_more (by omega) (by simp) (by simp; omega),
      decodeFrom_last (by omega) (by simp) (by simp; omega), ← hc]
    congr 2
    omega

theorem ofUtf8_utf8 (s : List Char) : ofUtf8 (utf8 s) = s := by
  rw [ofUtf8, utf8]
  induction s with
  | nil => rfl
  | cons c s ih => rw [List.flatMap_cons, decodeFrom_utf8EncodeChar, ih]

lemma utf8_injective : Function.Injective utf8 :=
  Function.LeftInverse.injective ofUtf8_utf8

theorem ofLatin1_utf8 {s : List Char} (h : ∀ c ∈ s, c.toNat < 0x80) : ofLatin1 (utf8 s) = s := by
  induction s with
  | nil => rfl
  | cons c s ih =>
    simp only [List.mem_cons, forall_eq_or_imp] at h
    have hc : c.val.toNat ≤ 0x7f := Nat.le_of_lt_succ h.1
    have he : String.utf8EncodeChar c = [.ofNat c.val.toNat] := if_pos hc
    have hn : (UInt8.ofNat c.val.toNat).toNat = c.val.toNat :=
      UInt8.toNat_ofNat_of_lt' (by rw [UInt8.size]; omega)
    have ih := ih h.2
    simp only [ofLatin1, utf8, List.flatMap_cons, he, List.singleton_append, List.map_cons,
      hn] at ih ⊢
    rw [ih]
    exact congrArg (· :: s) (Char.ofNat_toNat c)

lemma utf8_ne_nil {s : List Char} (h : s ≠ []) : utf8 s ≠ [] := by
  intro he
  have := ofUtf8_utf8 s
  rw [he] at this
  exact h this.symm

end AuthGate.Text
