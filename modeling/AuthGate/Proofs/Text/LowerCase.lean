import AuthGate.Proofs.Text.Words
import AuthGate.Text.LowerCase
import Mathlib.Data.Int.Notation

namespace AuthGate.Text

def Within (ranges : List (ℕ × ℕ)) (n : ℕ) : Prop := ∃ range ∈ ranges, range.1 ≤ n ∧ n ≤ range.2

instance (ranges : List (ℕ × ℕ)) (n : ℕ) : Decidable (Within ranges n) :=
  inferInstanceAs (Decidable (∃ _ ∈ ranges, _))

def apart (ranges : List (ℕ × ℕ)) (first last : ℕ) : Bool :=
  ranges.all fun range => last.blt range.1 || range.2.blt first

def lettered (ranges : List (ℕ × ℕ)) : ℕ × ℕ × ℕ × ℤ → Bool
  | (first, last, _, shift) =>
    apart ranges first last && apart ranges (first + shift).toNat (last + shift).toNat

/-- Ranges of characters that no letter becomes and that become no letter; the letters besides those
of the case runs are the dotted capital I, which has two characters for its lower case, and the
sigmas. -/
structure Caseless (ranges : List (ℕ × ℕ)) : Prop where
  characters : ∀ range ∈ ranges, 0 < range.1 ∧ range.2 < 0x10000 ∧
    (range.2 < 0xD800 ∨ 0xDFFF < range.1)
  runs : caseRuns.all (lettered ranges) = true
  letters : ∀ n ∈ [0x69, 0x130, 0x307, 0x3A3, 0x3C2, 0x3C3], ¬ Within ranges n

variable {ranges : List (ℕ × ℕ)}

lemma not_within_of_apart {first last n : ℕ} (h : apart ranges first last = true)
    (hfirst : first ≤ n) (hlast : n ≤ last) : ¬ Within ranges n := by
  rintro ⟨range, hrange, hle, hge⟩
  have hapart : last < range.1 ∨ range.2 < first := by
    simpa [Nat.blt_eq] using List.all_eq_true.1 h range hrange
  omega

lemma Caseless.within_ofNat (h : Caseless ranges) (n : ℕ) :
    Within ranges (Char.ofNat n).toNat ↔ Within ranges n := by
  by_cases hn : n.isValidChar
  · have hn : (Char.ofNat n).toNat = n := by
      rw [Char.ofNat, dif_pos hn]
      rfl
    rw [hn]
  · have hzero : (Char.ofNat n).toNat = 0 := by
      rw [Char.ofNat, dif_neg hn]
      rfl
    rw [hzero]
    refine iff_of_false ?_ ?_
    · rintro ⟨range, hrange, hle, -⟩
      have := h.characters range hrange
      omega
    · rintro ⟨range, hrange, hle, hge⟩
      have := h.characters range hrange
      exact hn (by rw [Nat.isValidChar]; omega)

lemma within_lowerPoint {runs : List (ℕ × ℕ × ℕ × ℤ)} (h : runs.all (lettered ranges) = true)
    (n : ℕ) : Within ranges (lowerPoint n runs) ↔ Within ranges n := by
  induction runs with
  | nil => rfl
  | cons run runs ih =>
    obtain ⟨first, last, step, shift⟩ := run
    rw [List.all_cons, lettered, Bool.and_eq_true, Bool.and_eq_true] at h
    obtain ⟨⟨hcapitals, hletters⟩, hruns⟩ := h
    rw [lowerPoint]
    split_ifs with hlt hle hstep
    · rfl
    · exact iff_of_false (not_within_of_apart hletters (by omega) (by omega))
        (not_within_of_apart hcapitals (by omega) hle)
    · exact ih hruns
    · exact ih hruns

def Has (ranges : List (ℕ × ℕ)) (cs : List Char) : Prop := ∃ c ∈ cs, Within ranges c.toNat

lemma has_append {cs ds : List Char} : Has ranges (cs ++ ds) ↔ Has ranges cs ∨ Has ranges ds := by
  simp only [Has, List.mem_append, or_and_right, exists_or]

lemma has_cons {c : Char} {cs : List Char} :
    Has ranges (c :: cs) ↔ Within ranges c.toNat ∨ Has ranges cs := by
  simp only [Has, List.exists_mem_cons_iff]

lemma has_singleton {c : Char} : Has ranges [c] ↔ Within ranges c.toNat := by
  simp [Has]

namespace Caseless

variable (h : Caseless ranges)

include h

lemma has_lowerChar (c : Char) : Has ranges (lowerChar c) ↔ Within ranges c.toNat := by
  rw [lowerChar]
  split_ifs with hdotted
  · rw [hdotted, has_cons, has_singleton]
    refine iff_of_false (not_or.2 ⟨?_, ?_⟩) (h.letters 0x130 (by simp))
    · exact h.letters 0x69 (by simp)
    · exact h.letters 0x307 (by simp)
  · rw [has_singleton, h.within_ofNat, within_lowerPoint h.runs]

lemma has_lowerAfter (cased : Bool) (cs : List Char) :
    Has ranges (lowerAfter cased cs) ↔ Has ranges cs := by
  induction cs generalizing cased with
  | nil => rfl
  | cons c cs ih =>
    rw [lowerAfter, has_append, has_cons, ih]
    refine or_congr_left ?_
    split_ifs with hsigma hfinal
    · rw [has_singleton, hsigma]
      exact iff_of_false (h.letters 0x3C2 (by simp)) (h.letters 0x3A3 (by simp))
    · rw [has_singleton, hsigma]
      exact iff_of_false (h.letters 0x3C3 (by simp)) (h.letters 0x3A3 (by simp))
    · exact h.has_lowerChar c

lemma has_lower (s : String) : Has ranges (lower s).toList ↔ Has ranges s.toList := by
  rw [lower, String.toList_ofList, h.has_lowerAfter]

end Caseless

def blankRanges : List (ℕ × ℕ) :=
  [(9, 13), (0x20, 0x20), (0xA0, 0xA0), (0x1680, 0x1680), (0x2000, 0x200A), (0x2028, 0x2029),
    (0x202F, 0x202F), (0x205F, 0x205F), (0x3000, 0x3000), (0xFEFF, 0xFEFF)]

lemma caseless_blanks : Caseless blankRanges where
  characters := by decide
  runs := by decide
  letters := by decide

lemma isBlank_iff {c : Char} : isBlank c = true ↔ Within blankRanges c.toNat := by
  simp only [isBlank, Within, blankRanges, List.mem_cons, List.not_mem_nil, or_false,
    exists_eq_or_imp, exists_eq_left, Bool.or_eq_true, Bool.and_eq_true, decide_eq_true_eq]
  omega

def commaRanges : List (ℕ × ℕ) := [(0x2C, 0x2C)]

lemma caseless_comma : Caseless commaRanges where
  characters := by decide
  runs := by decide
  letters := by decide

lemma has_comma {cs : List Char} : Has commaRanges cs ↔ ',' ∈ cs := by
  have hcomma (c : Char) : Within commaRanges c.toNat ↔ ',' = c := by
    simp only [Within, commaRanges, List.mem_singleton, exists_eq_left]
    refine ⟨fun h => Char.toNat_inj.1 ?_, ?_⟩
    · change 0x2C = _
      omega
    · rintro rfl
      decide
  simp only [Has, hcomma, exists_eq_right']

lemma comma_mem_lower {s : String} : ',' ∈ (lower s).toList ↔ ',' ∈ s.toList := by
  rw [← has_comma, ← has_comma, caseless_comma.has_lower]

lemma lowerAfter_eq_nil {cased : Bool} {cs : List Char} : lowerAfter cased cs = [] ↔ cs = [] := by
  cases cs with
  | nil => simp [lowerAfter]
  | cons c cs =>
    rw [lowerAfter, lowerChar]
    split_ifs <;> simp

lemma isWord_lower {s : String} : IsWord (lower s).toList ↔ IsWord s.toList := by
  have hblank (cs : List Char) : (∀ c ∈ cs, isBlank c = false) ↔ ¬ Has blankRanges cs := by
    simp only [Has, ← isBlank_iff, not_exists, not_and, Bool.not_eq_true]
  rw [IsWord, IsWord, hblank, hblank, caseless_blanks.has_lower, lower, String.toList_ofList, ne_eq,
    lowerAfter_eq_nil]

end AuthGate.Text
