import AuthGate.Proofs.Text.Split
import AuthGate.Proofs.Text.Utf8
import AuthGate.Request.Email
import Mathlib.Computability.RegularExpressions

namespace AuthGate.Email

open RegularExpression
open scoped Computability

def oneOf (l : List Char) : RegularExpression Char := (l.map .char).sum

def repeated (r : RegularExpression Char) : RegularExpression Char := r * r.star

def optional (r : RegularExpression Char) : RegularExpression Char := 1 + r

def alphanumerics : List Char :=
  "abcdefghijklmnopqrstuvwxyzABCDEFGHIJKLMNOPQRSTUVWXYZ0123456789".toList

def wordChars : List Char := alphanumerics ++ "!#$%&'*+/=?^_\x60\x7b|\x7d~-".toList

/-- This is `[a-z0-9](?:[a-z0-9-]*[a-z0-9])?`. -/
def label : RegularExpression Char :=
  oneOf alphanumerics * optional ((oneOf (alphanumerics ++ ['-'])).star * oneOf alphanumerics)

/-- This is `word(?:\.word)*@(?:label\.)+label`. -/
def expression : RegularExpression Char :=
  repeated (oneOf wordChars) * (char '.' * repeated (oneOf wordChars)).star *
    (char '@' * (repeated (label * char '.') * label))

variable {r : RegularExpression Char} {l s : List Char} {sep : Char}

lemma mem_oneOf : s ∈ (oneOf l).matches' ↔ ∃ c ∈ l, s = [c] := by
  induction l with
  | nil => simp [oneOf]
  | cons c l ih =>
    have hcons : oneOf (c :: l) = char c + oneOf l := rfl
    rw [hcons, matches'_add, Language.mem_add, ih, matches'_char, List.exists_mem_cons_iff]
    rfl

lemma mem_star_oneOf : s ∈ (oneOf l).star.matches' ↔ ∀ c ∈ s, c ∈ l := by
  rw [matches'_star, Language.mem_kstar]
  constructor
  · rintro ⟨L, rfl, hL⟩ c hc
    obtain ⟨t, ht, hc⟩ := List.mem_flatten.1 hc
    obtain ⟨d, hd, rfl⟩ := mem_oneOf.1 (hL t ht)
    rwa [List.mem_singleton.1 hc]
  · intro h
    refine ⟨s.map fun c => [c], by rw [← List.flatMap_def, List.flatMap_singleton'], ?_⟩
    intro t ht
    obtain ⟨c, hc, rfl⟩ := List.mem_map.1 ht
    exact mem_oneOf.2 ⟨c, h c hc, rfl⟩

lemma mem_repeated_oneOf : s ∈ (repeated (oneOf l)).matches' ↔ s ≠ [] ∧ ∀ c ∈ s, c ∈ l := by
  rw [repeated, matches'_mul, Language.mem_mul]
  constructor
  · rintro ⟨a, ha, b, hb, rfl⟩
    obtain ⟨c, hc, rfl⟩ := mem_oneOf.1 ha
    exact ⟨by simp, List.forall_mem_cons.2 ⟨hc, mem_star_oneOf.1 hb⟩⟩
  · rintro ⟨hne, h⟩
    obtain ⟨c, s, rfl⟩ := List.exists_cons_of_ne_nil hne
    obtain ⟨hc, hs⟩ := List.forall_mem_cons.1 h
    exact ⟨[c], mem_oneOf.2 ⟨c, hc, rfl⟩, s, mem_star_oneOf.2 hs, rfl⟩

lemma mem_char_mul {c : Char} :
    s ∈ (char c * r).matches' ↔ ∃ t, s = c :: t ∧ t ∈ r.matches' := by
  rw [matches'_mul, Language.mem_mul]
  constructor
  · rintro ⟨a, rfl, b, hb, rfl⟩
    exact ⟨b, rfl, hb⟩
  · rintro ⟨t, rfl, ht⟩
    exact ⟨[c], rfl, t, ht, rfl⟩

lemma mem_star_char_mul : s ∈ (char sep * r).star.matches' ↔
    ∃ ts : List (List Char), s = ts.flatMap (sep :: ·) ∧ ∀ t ∈ ts, t ∈ r.matches' := by
  rw [matches'_star, Language.mem_kstar]
  constructor
  · rintro ⟨L, rfl, hL⟩
    induction L with
    | nil => exact ⟨[], rfl, List.forall_mem_nil _⟩
    | cons x L ih =>
      obtain ⟨hx, hmore⟩ := List.forall_mem_cons.1 hL
      obtain ⟨ts, hts, hmem⟩ := ih hmore
      obtain ⟨t, rfl, ht⟩ := mem_char_mul.1 hx
      refine ⟨t :: ts, ?_, List.forall_mem_cons.2 ⟨ht, hmem⟩⟩
      rw [List.flatten_cons, hts, List.flatMap_cons]
  · rintro ⟨ts, rfl, hts⟩
    refine ⟨ts.map (sep :: ·), List.flatMap_def, ?_⟩
    intro y hy
    obtain ⟨t, ht, rfl⟩ := List.mem_map.1 hy
    exact mem_char_mul.2 ⟨t, rfl, hts t ht⟩

lemma mem_separated (hsep : ∀ t ∈ r.matches', sep ∉ t) :
    s ∈ (r * (char sep * r).star).matches' ↔ ∀ t ∈ Text.splitAt sep s, t ∈ r.matches' := by
  rw [matches'_mul, Language.mem_mul]
  constructor
  · rintro ⟨t, ht, b, hb, rfl⟩
    obtain ⟨ts, rfl, hts⟩ := mem_star_char_mul.1 hb
    have hall := List.forall_mem_cons.2 ⟨ht, hts⟩
    have hcut := Text.splitAt_joined fun u hu => hsep u (hall u hu)
    rw [Text.joined] at hcut
    rwa [hcut]
  · intro h
    obtain ⟨t, ts, hcut⟩ := List.exists_cons_of_ne_nil (Text.splitAt_ne_nil sep s)
    rw [hcut] at h
    obtain ⟨ht, hts⟩ := List.forall_mem_cons.1 h
    obtain ⟨rfl, -⟩ := Text.splitAt_eq_cons.1 hcut
    exact ⟨t, ht, _, mem_star_char_mul.2 ⟨ts, rfl, hts⟩, rfl⟩

lemma kstar_mul_slide (a b : Language Char) : (a * b)∗ * a = a * (b * a)∗ := by
  apply le_antisymm
  · apply kstar_mul_le
    · exact le_mul_of_one_le_right' one_le_kstar
    · calc a * b * (a * (b * a)∗) = a * (b * a * (b * a)∗) := by simp only [mul_assoc]
        _ ≤ a * (b * a)∗ := by gcongr; exact mul_kstar_le_kstar
  · apply mul_kstar_le
    · exact le_mul_of_one_le_left' one_le_kstar
    · calc (a * b)∗ * a * (b * a) = (a * b)∗ * (a * b) * a := by simp only [mul_assoc]
        _ ≤ (a * b)∗ * a := by gcongr; exact kstar_mul_le_kstar

lemma matches'_repeated_mul : (repeated (r * char sep) * r).matches' =
    (r * (char sep * (r * (char sep * r).star))).matches' := by
  simp only [repeated, matches'_mul, matches'_star, mul_assoc]
  rw [← kstar_mul_slide]

lemma mem_repeated_separated (hsep : ∀ t ∈ r.matches', sep ∉ t) :
    s ∈ (repeated (r * char sep) * r).matches' ↔
      1 < (Text.splitAt sep s).length ∧ ∀ t ∈ Text.splitAt sep s, t ∈ r.matches' := by
  rw [matches'_repeated_mul, matches'_mul, Language.mem_mul]
  constructor
  · rintro ⟨t, ht, b, hb, rfl⟩
    obtain ⟨u, rfl, hu⟩ := mem_char_mul.1 hb
    rw [Text.splitAt_append (hsep t ht)]
    have hlength := List.length_pos_iff.2 (Text.splitAt_ne_nil sep u)
    refine ⟨?_, List.forall_mem_cons.2 ⟨ht, (mem_separated hsep).1 hu⟩⟩
    rw [List.length_cons]
    omega
  · rintro ⟨hlength, h⟩
    obtain ⟨t, ts, hcut⟩ := List.exists_cons_of_ne_nil (Text.splitAt_ne_nil sep s)
    rw [hcut] at hlength h
    obtain ⟨ht, hts⟩ := List.forall_mem_cons.1 h
    obtain ⟨-, ⟨rfl, -⟩ | ⟨u, rfl, hu⟩⟩ := Text.splitAt_head hcut
    · simp at hlength
    · subst hu
      exact ⟨t, ht, _, mem_char_mul.2 ⟨u, rfl, (mem_separated hsep).2 hts⟩, rfl⟩

lemma mem_alphanumerics {c : Char} : c ∈ alphanumerics ↔ c.isAlphanum = true := by
  have hall : alphanumerics.all Char.isAlphanum = true := by decide +kernel
  have htable : (List.range 128).all (fun n =>
      !(Char.ofNat n).isAlphanum || alphanumerics.contains (Char.ofNat n)) = true := by
    decide +kernel
  constructor
  · exact List.all_eq_true.1 hall c
  · intro h
    have hc := List.all_eq_true.1 htable c.toNat
      (List.mem_range.2 (Text.toNat_lt_of_isAlphanum h))
    rw [Char.ofNat_toNat, h] at hc
    simpa using hc

lemma mem_wordChars {c : Char} : c ∈ wordChars ↔ isWordChar c = true := by
  rw [wordChars, List.mem_append, mem_alphanumerics, isWordChar, Bool.or_eq_true,
    List.contains_iff_mem]

lemma isWord_iff : isWord s = true ↔ s ∈ (repeated (oneOf wordChars)).matches' := by
  rw [mem_repeated_oneOf]
  simp [isWord, mem_wordChars]

lemma mem_hyphenated {c : Char} :
    c ∈ alphanumerics ++ ['-'] ↔ (c.isAlphanum || c = '-') = true := by
  simp [mem_alphanumerics]

lemma isLabel_iff : isLabel s = true ↔ s ∈ label.matches' := by
  rw [label, optional, matches'_mul, matches'_add, matches'_mul, Language.mem_mul]
  simp only [Language.mem_add, matches'_epsilon, Language.mem_one, Language.mem_mul, mem_oneOf,
    mem_star_oneOf, mem_hyphenated, mem_alphanumerics, isLabel, Bool.and_eq_true,
    List.all_eq_true]
  constructor
  · rintro ⟨⟨hall, hhead⟩, hlast⟩
    cases s with
    | nil => cases hhead
    | cons c t =>
      obtain ⟨-, hall⟩ := List.forall_mem_cons.1 hall
      refine ⟨[c], ⟨c, hhead, rfl⟩, t, ?_, rfl⟩
      obtain rfl | ⟨middle, d, rfl⟩ := List.eq_nil_or_concat t
      · exact .inl rfl
      · refine .inr ⟨middle, fun x hx => hall x (by simp [hx]), [d], ⟨d, ?_, rfl⟩, by simp⟩
        rwa [← List.concat_cons, List.concat_eq_append, List.getLast?_concat] at hlast
  · rintro ⟨_, ⟨c, hc, rfl⟩, t, rfl | ⟨middle, hmiddle, _, ⟨d, hd, rfl⟩, rfl⟩, rfl⟩
    · simp [hc]
    · refine ⟨⟨?_, hc⟩, ?_⟩
      · simp only [List.mem_append, List.mem_singleton]
        rintro x (rfl | hx | rfl)
        · simp [hc]
        · exact hmiddle x hx
        · simp [hd]
      · rw [← List.append_assoc, List.getLast?_concat]
        exact hd

lemma notMem_word {c : Char} (hc : isWordChar c = false)
    (h : s ∈ (repeated (oneOf wordChars)).matches') : c ∉ s := by
  intro hmem
  have hchar := mem_wordChars.1 ((mem_repeated_oneOf.1 h).2 c hmem)
  rw [hc] at hchar
  cases hchar

lemma notMem_label {c : Char} (hc : (c.isAlphanum || c = '-') = false) (h : s ∈ label.matches') :
    c ∉ s := by
  intro hmem
  have hlabel := isLabel_iff.2 h
  rw [isLabel, Bool.and_eq_true, Bool.and_eq_true, List.all_eq_true] at hlabel
  have hchar := hlabel.1.1 c hmem
  rw [hc] at hchar
  cases hchar

lemma mem_expression : s ∈ expression.matches' ↔ ∃ words host, s = words ++ '@' :: host ∧
    (∀ t ∈ Text.splitAt '.' words, isWord t = true) ∧
    1 < (Text.splitAt '.' host).length ∧ ∀ t ∈ Text.splitAt '.' host, isLabel t = true := by
  have hword : ∀ t ∈ (repeated (oneOf wordChars)).matches', '.' ∉ t :=
    fun t ht => notMem_word (by decide) ht
  have hlabel : ∀ t ∈ label.matches', '.' ∉ t := fun t ht => notMem_label (by decide) ht
  have hwords (t : List Char) := mem_separated (s := t) hword
  have hhost (t : List Char) := mem_repeated_separated (s := t) hlabel
  simp only [isWord_iff, isLabel_iff, ← hwords, ← hhost]
  rw [expression, matches'_mul, Language.mem_mul]
  constructor
  · rintro ⟨words, hw, rest, hr, rfl⟩
    obtain ⟨host, rfl, hh⟩ := mem_char_mul.1 hr
    exact ⟨words, host, rfl, hw, hh⟩
  · rintro ⟨words, host, rfl, hw, hh⟩
    exact ⟨words, hw, _, mem_char_mul.2 ⟨host, rfl, hh⟩, rfl⟩

lemma isAddress_of_cut {words host : List Char} (h : Text.splitAt '@' s = [words, host]) :
    isAddress s = true ↔ (∀ t ∈ Text.splitAt '.' words, isWord t = true) ∧
      1 < (Text.splitAt '.' host).length ∧ ∀ t ∈ Text.splitAt '.' host, isLabel t = true := by
  rw [isAddress, h]
  simp only [Bool.and_eq_true, List.all_eq_true, decide_eq_true_eq, and_assoc]

theorem isAddress_iff : isAddress s = true ↔ s ∈ expression.matches' := by
  rw [mem_expression]
  constructor
  · intro h
    have hcut : ∃ words host, Text.splitAt '@' s = [words, host] := by
      rw [isAddress] at h
      split at h
      · exact ⟨_, _, ‹_›⟩
      · cases h
    obtain ⟨words, host, hcut⟩ := hcut
    obtain ⟨hs, -⟩ := Text.splitAt_eq_cons.1 hcut
    exact ⟨words, host, by simpa [Text.joined] using hs, (isAddress_of_cut hcut).1 h⟩
  · rintro ⟨words, host, rfl, hw, hh⟩
    have hwords : '@' ∉ words := Text.notMem_of_pieces (by decide)
      fun t ht => notMem_word (by decide) (isWord_iff.1 (hw t ht))
    have hhost : '@' ∉ host := Text.notMem_of_pieces (by decide)
      fun t ht => notMem_label (by decide) (isLabel_iff.1 (hh.2 t ht))
    refine (isAddress_of_cut ?_).2 ⟨hw, hh⟩
    rw [Text.splitAt_append hwords, Text.splitAt_whole hhost]

end AuthGate.Email
