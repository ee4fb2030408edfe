import AuthGate.Text.Split
import Mathlib.Tactic.Common

namespace AuthGate.Text

variable {sep : Char}

lemma splitAt_ne_nil (sep : Char) (cs : List Char) : splitAt sep cs ≠ [] := by
  cases cs with
  | nil => simp [splitAt]
  | cons c cs =>
    rw [splitAt]
    split_ifs
    · simp
    · split <;> simp

lemma splitAt_append {s : List Char} (h : sep ∉ s) (r : List Char) :
    splitAt sep (s ++ sep :: r) = s :: splitAt sep r := by
  induction s with
  | nil => rw [List.nil_append, splitAt, if_pos rfl]
  | cons c s ih =>
    simp only [List.mem_cons, not_or] at h
    rw [List.cons_append, splitAt, if_neg (Ne.symm h.1), ih h.2]

lemma splitAt_whole {s : List Char} (h : sep ∉ s) : splitAt sep s = [s] := by
  induction s with
  | nil => rfl
  | cons c s ih =>
    simp only [List.mem_cons, not_or] at h
    rw [splitAt, if_neg (Ne.symm h.1), ih h.2]

lemma splitAt_head {cs s : List Char} {ss : List (List Char)} (h : splitAt sep cs = s :: ss) :
    sep ∉ s ∧ (ss = [] ∧ cs = s ∨ ∃ r, cs = s ++ sep :: r ∧ splitAt sep r = ss) := by
  induction cs generalizing s with
  | nil =>
    obtain ⟨rfl, rfl⟩ : [] = s ∧ [] = ss := by simpa [splitAt] using h
    exact ⟨List.not_mem_nil, .inl ⟨rfl, rfl⟩⟩
  | cons c cs ih =>
    rw [splitAt] at h
    split_ifs at h with hc
    · obtain ⟨rfl, rfl⟩ : [] = s ∧ splitAt sep cs = ss := by simpa using h
      exact ⟨List.not_mem_nil, .inr ⟨cs, by rw [hc, List.nil_append], rfl⟩⟩
    · cases ht : splitAt sep cs with
      | nil => exact absurd ht (splitAt_ne_nil sep cs)
      | cons s' ss' =>
        rw [ht] at h
        obtain ⟨rfl, rfl⟩ : c :: s' = s ∧ ss' = ss := by simpa using h
        obtain ⟨hs, hrest⟩ := ih ht
        refine ⟨by simp [Ne.symm hc, hs], ?_⟩
        rcases hrest with ⟨rfl, rfl⟩ | ⟨r, rfl, hr⟩
        · exact .inl ⟨rfl, rfl⟩
        · exact .inr ⟨r, rfl, hr⟩

variable {s : List Char} {ss : List (List Char)}

def joined (sep : Char) (s : List Char) (ss : List (List Char)) : List Char :=
  s ++ ss.flatMap (sep :: ·)

lemma joined_cons (t : List Char) :
    joined sep s (t :: ss) = s ++ sep :: joined sep t ss := by
  simp [joined]

lemma splitAt_joined (h : ∀ t ∈ s :: ss, sep ∉ t) : splitAt sep (joined sep s ss) = s :: ss := by
  induction ss generalizing s with
  | nil =>
    rw [joined, List.flatMap_nil, List.append_nil]
    exact splitAt_whole (h s List.mem_cons_self)
  | cons t ss ih =>
    obtain ⟨hs, h⟩ := List.forall_mem_cons.1 h
    rw [joined_cons, splitAt_append hs, ih h]

lemma splitAt_eq_cons {cs : List Char} :
    splitAt sep cs = s :: ss ↔ cs = joined sep s ss ∧ ∀ t ∈ s :: ss, sep ∉ t := by
  constructor
  · intro h
    induction ss generalizing cs s with
    | nil =>
      obtain ⟨hs, ⟨-, rfl⟩ | ⟨r, -, hr⟩⟩ := splitAt_head h
      · exact ⟨by simp [joined], by simpa using hs⟩
      · exact absurd hr (splitAt_ne_nil sep r)
    | cons t ss ih =>
      obtain ⟨hs, ⟨hnil, -⟩ | ⟨r, rfl, hr⟩⟩ := splitAt_head h
      · cases hnil
      · obtain ⟨rfl, hmem⟩ := ih hr
        exact ⟨(joined_cons t).symm, List.forall_mem_cons.2 ⟨hs, hmem⟩⟩
  · rintro ⟨rfl, h⟩
    exact splitAt_joined h

lemma notMem_of_pieces {cs : List Char} {c : Char} (hc : c ≠ sep)
    (h : ∀ t ∈ splitAt sep cs, c ∉ t) : c ∉ cs := by
  obtain ⟨s, ss, hcut⟩ := List.exists_cons_of_ne_nil (splitAt_ne_nil sep cs)
  rw [hcut] at h
  obtain ⟨hs, hss⟩ := List.forall_mem_cons.1 h
  obtain ⟨rfl, -⟩ := splitAt_eq_cons.1 hcut
  simp only [joined, List.mem_append, List.mem_flatMap, List.mem_cons, not_or, not_exists, not_and]
  exact ⟨hs, fun t ht => ⟨hc, hss t ht⟩⟩

end AuthGate.Text
