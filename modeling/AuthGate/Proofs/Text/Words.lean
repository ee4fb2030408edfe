import AuthGate.Text.Blank
import Mathlib.Data.List.Basic

namespace AuthGate.Text

def IsWord (cs : List Char) : Prop := cs ≠ [] ∧ ∀ c ∈ cs, isBlank c = false

lemma isWord_iff {cs : List Char} : IsWord cs ↔ cs ≠ [] ∧ cs.any isBlank = false := by
  simp [IsWord]

/-- A text with these words. Blanks part each of them from the next one, and there may be blanks
before the first and after the last. -/
inductive Separated : List Char → List (List Char) → Prop
  | blank {gap} : (∀ c ∈ gap, isBlank c = true) → Separated gap []
  | word {gap w r ws} : (∀ c ∈ gap, isBlank c = true) → IsWord w →
      (∀ c ∈ r.head?, isBlank c = true) → Separated r ws → Separated (gap ++ w ++ r) (w :: ws)

namespace Separated

variable {cs : List Char} {ws : List (List Char)}

lemma start {w r : List Char} (hw : IsWord w) (hr : ∀ c ∈ r.head?, isBlank c = true)
    (h : Separated r ws) : Separated (w ++ r) (w :: ws) := by
  have hempty : Separated ([] ++ w ++ r) (w :: ws) := .word (by simp) hw hr h
  exact hempty

lemma cons_blank {c : Char} (hc : isBlank c = true) (h : Separated cs ws) :
    Separated (c :: cs) ws := by
  cases h with
  | blank hgap => exact .blank (List.forall_mem_cons.2 ⟨hc, hgap⟩)
  | word hgap hw hr h => exact .word (List.forall_mem_cons.2 ⟨hc, hgap⟩) hw hr h

lemma isWord (h : Separated cs ws) : ∀ w ∈ ws, IsWord w := by
  induction h with
  | blank => exact fun w hw => absurd hw List.not_mem_nil
  | word _ hw _ _ ih => exact List.forall_mem_cons.2 ⟨hw, ih⟩

lemma exists_mem {c : Char} (h : Separated cs ws) (hc : c ∈ cs) (hblank : isBlank c = false) :
    ∃ w ∈ ws, c ∈ w := by
  have hgap {gap : List Char} (hgap : ∀ c ∈ gap, isBlank c = true) : c ∉ gap :=
    fun h => Bool.false_ne_true (hblank.symm.trans (hgap c h))
  induction h with
  | blank h => exact absurd hc (hgap h)
  | @word gap w r ws h _ _ _ ih =>
    obtain (hc | hc) | hc := (List.mem_append.1 hc).imp_left List.mem_append.1
    · exact absurd hc (hgap h)
    · exact ⟨w, List.mem_cons_self, hc⟩
    · obtain ⟨v, hv, hc⟩ := ih hc
      exact ⟨v, List.mem_cons_of_mem _ hv, hc⟩

end Separated

lemma wordsAfter_append {cs : List Char} (h : ∀ c ∈ cs, isBlank c = false) (word r : List Char) :
    wordsAfter word (cs ++ r) = wordsAfter (cs.reverse ++ word) r := by
  induction cs generalizing word with
  | nil => rfl
  | cons c cs ih =>
    obtain ⟨hc, hcs⟩ := List.forall_mem_cons.1 h
    rw [List.cons_append, wordsAfter, if_neg (by simp [hc]), ih hcs]
    simp

lemma words_gap {gap : List Char} (h : ∀ c ∈ gap, isBlank c = true) (r : List Char) :
    words (gap ++ r) = words r := by
  induction gap with
  | nil => rfl
  | cons c gap ih =>
    obtain ⟨hc, hgap⟩ := List.forall_mem_cons.1 h
    rw [List.cons_append, words, wordsAfter, if_pos hc, if_pos List.isEmpty_nil]
    exact ih hgap

lemma words_word {w r : List Char} (hw : IsWord w) (hr : ∀ c ∈ r.head?, isBlank c = true) :
    words (w ++ r) = w :: words r := by
  have hne : ¬ w.reverse.isEmpty = true := by simpa using hw.1
  rw [words, wordsAfter_append hw.2, List.append_nil]
  cases r with
  | nil =>
    rw [wordsAfter, if_neg hne, List.reverse_reverse]
    rfl
  | cons c r =>
    have hc : isBlank c = true := hr c rfl
    rw [wordsAfter, if_pos hc, if_neg hne, List.reverse_reverse, words, wordsAfter, if_pos hc,
      if_pos List.isEmpty_nil]

lemma Separated.words_eq {cs : List Char} {ws : List (List Char)} (h : Separated cs ws) :
    words cs = ws := by
  induction h with
  | @blank gap hgap =>
    rw [← List.append_nil gap, words_gap hgap]
    rfl
  | word hgap hw hr _ ih => rw [List.append_assoc, words_gap hgap, words_word hw hr, ih]

lemma separated_wordsAfter (word : List Char) (h : ∀ c ∈ word, isBlank c = false)
    (cs : List Char) : Separated (word.reverse ++ cs) (wordsAfter word cs) := by
  have hread {word : List Char} (h : ∀ c ∈ word, isBlank c = false) (hne : ¬ word.isEmpty = true) :
      IsWord word.reverse := ⟨by simpa using hne, by simpa using h⟩
  -- A blank either ends the word that was begun, or belongs to the gap before the next one.
  induction cs generalizing word with
  | nil =>
    rw [wordsAfter]
    split_ifs with hempty
    · rw [List.isEmpty_iff.1 hempty]
      exact .blank (by simp)
    · exact .start (hread h hempty) (by simp) (.blank (by simp))
  | cons c cs ih =>
    rw [wordsAfter]
    split_ifs with hc hempty
    · rw [List.isEmpty_iff.1 hempty]
      exact (ih [] (by simp)).cons_blank hc
    · exact .start (hread h hempty) (by simpa using hc) ((ih [] (by simp)).cons_blank hc)
    · have hnext := ih (c :: word) (List.forall_mem_cons.2 ⟨by simpa using hc, h⟩)
      simpa using hnext

lemma words_eq_iff {cs : List Char} {ws : List (List Char)} : words cs = ws ↔ Separated cs ws := by
  refine ⟨?_, Separated.words_eq⟩
  rintro rfl
  exact separated_wordsAfter [] (by simp) cs

lemma words_pair {a gap b : List Char} (ha : IsWord a) (hgap : gap ≠ [])
    (hblank : ∀ c ∈ gap, isBlank c = true) (hb : IsWord b) : words (a ++ gap ++ b) = [a, b] := by
  have hlast : Separated (gap ++ b ++ []) [b] := .word hblank hb (by simp) (.blank (by simp))
  have hpair : Separated (a ++ (gap ++ b ++ [])) [a, b] := by
    refine .start ha (fun c hc => hblank c ?_) hlast
    obtain ⟨d, gap, rfl⟩ := List.exists_cons_of_ne_nil hgap
    exact List.mem_cons.2 (.inl (Option.some.inj hc).symm)
  simpa using hpair.words_eq

end AuthGate.Text
