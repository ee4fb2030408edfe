import AuthGate.Proofs.Text.Utf8
import AuthGate.Text.Base64
import AuthGate.Text.Blank
import Mathlib.Algebra.Group.Nat.Defs
import Mathlib.Order.Nat
import Mathlib.Tactic.Common

namespace AuthGate.Text.Base64

lemma sextets_lt (bs : List UInt8) : ∀ n ∈ sextets bs, n < 64 := by
  fun_induction sextets bs with
  | case1 => simp
  | case2 a =>
    have := a.toNat_lt
    simp only [List.mem_cons, List.not_mem_nil, or_false, forall_eq_or_imp, forall_eq]
    omega
  | case3 a b =>
    have := a.toNat_lt
    have := b.toNat_lt
    simp only [List.mem_cons, List.not_mem_nil, or_false, forall_eq_or_imp, forall_eq]
    omega
  | case4 a b c r ih =>
    have := a.toNat_lt
    have := b.toNat_lt
    have := c.toNat_lt
    simp only [List.mem_cons, forall_eq_or_imp]
    exact ⟨by omega, by omega, by omega, by omega, ih⟩

lemma length_sextets (bs : List UInt8) : (sextets bs).length = (4 * bs.length + 2) / 3 := by
  fun_induction sextets bs with
  | case1 => rfl
  | case2 a => simp
  | case3 a b => simp
  | case4 a b c r ih =>
    simp only [List.length_cons, ih]
    omega

lemma length_encodeWith (alphabet : List Char) (bs : List UInt8) :
    (encodeWith alphabet bs).length = (4 * bs.length + 2) / 3 := by
  rw [encodeWith, List.length_map, length_sextets]

lemma eq_byte {a : UInt8} {n : ℕ} (h : n = a.toNat) : n.toUInt8 = a := by
  subst h
  exact UInt8.ofNat_toNat

lemma bytes_sextets (bs : List UInt8) : bytes (sextets bs) = bs := by
  fun_induction sextets bs with
  | case1 => rfl
  | case2 a => exact congrArg (fun x => [x]) (eq_byte (by omega))
  | case3 a b =>
    have := b.toNat_lt
    rw [bytes, eq_byte (a := a) (by omega), eq_byte (a := b) (by omega)]
  | case4 a b c r ih =>
    have := b.toNat_lt
    have := c.toNat_lt
    rw [bytes, ih, eq_byte (a := a) (by omega), eq_byte (a := b) (by omega),
      eq_byte (a := c) (by omega)]

def letter (n : ℕ) : Char := urlAlphabet.getD n 'A'

lemma isUrlChar_letter : ∀ n < 64, isUrlChar (letter n) = true := by decide +kernel

/-- A character of one code unit that is no padding and is read as this sextet. -/
def IsLetter (c : Char) (n : ℕ) : Prop :=
  unitsOf c = [c.toNat.toUInt16] ∧ isPadding c.toNat.toUInt16 = false ∧
    sextet? c.toNat.toUInt16 = some n

instance (c : Char) (n : ℕ) : Decidable (IsLetter c n) := inferInstanceAs (Decidable (_ ∧ _))

lemma isLetter_url : ∀ n < 64, IsLetter (urlAlphabet.getD n 'A') n := by decide +kernel

lemma isLetter_standard : ∀ n < 64, IsLetter (standardAlphabet.getD n 'A') n := by decide +kernel

def sextetsRead (cs : List Char) : List ℕ :=
  ((cs.flatMap unitsOf).takeWhile fun u => !isPadding u).filterMap sextet?

lemma sextetsRead_cons {c : Char} {n : ℕ} (h : IsLetter c n) (cs : List Char) :
    sextetsRead (c :: cs) = n :: sextetsRead cs := by
  obtain ⟨hunit, hpadding, hsextet⟩ := h
  simp [sextetsRead, hunit, hpadding, hsextet]

lemma sextetsRead_append {alphabet : List Char}
    (hletters : ∀ n < 64, IsLetter (alphabet.getD n 'A') n) {ns : List ℕ} (h : ∀ n ∈ ns, n < 64)
    (cs : List Char) :
    sextetsRead ((ns.map fun n => alphabet.getD n 'A') ++ cs) = ns ++ sextetsRead cs := by
  induction ns with
  | nil => rfl
  | cons n ns ih =>
    obtain ⟨hn, hns⟩ := List.forall_mem_cons.1 h
    rw [List.map_cons, List.cons_append, sextetsRead_cons (hletters n hn), ih hns, List.cons_append]

lemma encodeUrl_eq (bs : List UInt8) : encodeUrl bs = (sextets bs).map letter := rfl

lemma decode_letters {ns : List ℕ} (h : ∀ n ∈ ns, n < 64) :
    decode (ns.map letter) = bytes ns := by
  have hread := sextetsRead_append isLetter_url h []
  rw [List.append_nil] at hread
  exact congrArg bytes (hread.trans (List.append_nil ns))

theorem decode_encodeUrl (bs : List UInt8) : decode (encodeUrl bs) = bs := by
  rw [encodeUrl_eq, decode_letters (sextets_lt bs), bytes_sextets]

lemma encodeUrl_injective : Function.Injective encodeUrl :=
  Function.LeftInverse.injective decode_encodeUrl

lemma sextetsRead_padding (k : ℕ) : sextetsRead (List.replicate k '=') = [] := by
  cases k with
  | zero => rfl
  | succ k => rfl

theorem decode_encodeStandard (bs : List UInt8) : decode (encodeStandard bs) = bs := by
  have hread : sextetsRead (encodeStandard bs) = sextets bs := by
    rw [encodeStandard, encodeWith, sextetsRead_append isLetter_standard (sextets_lt bs),
      sextetsRead_padding, List.append_nil]
  exact (congrArg bytes hread).trans (bytes_sextets bs)

example : encodeStandard [0xFB, 0xFF] = "+/8=".toList := by decide

lemma encodeUrl_all (bs : List UInt8) : (encodeUrl bs).all isUrlChar = true := by
  rw [encodeUrl_eq, List.all_map, List.all_eq_true]
  exact fun n hn => isUrlChar_letter n (sextets_lt bs n hn)

lemma encodeUrl_ne_nil {bs : List UInt8} (h : bs ≠ []) : encodeUrl bs ≠ [] := by
  intro he
  have := decode_encodeUrl bs
  rw [he] at this
  exact h this.symm

lemma mem_urlAlphabet {c : Char} (h : isUrlChar c = true) : c ∈ urlAlphabet := by
  have hsmall : c.toNat < 128 := by
    simp only [isUrlChar, Bool.or_eq_true, decide_eq_true_eq] at h
    rcases h with (h | rfl) | rfl
    · exact toNat_lt_of_isAlphanum h
    · decide
    · decide
  have htable : ∀ n < 128, isUrlChar (Char.ofNat n) = true → Char.ofNat n ∈ urlAlphabet := by
    decide +kernel
  have hc := htable c.toNat hsmall
  rw [Char.ofNat_toNat] at hc
  exact hc h

def sextetOf (c : Char) : ℕ := urlAlphabet.idxOf c

lemma sextetOf_lt {c : Char} (h : isUrlChar c = true) : sextetOf c < 64 :=
  List.idxOf_lt_length_of_mem (mem_urlAlphabet h)

lemma letter_sextetOf {c : Char} (h : isUrlChar c = true) : letter (sextetOf c) = c := by
  rw [letter, List.getD_eq_getElem?_getD, List.getElem?_eq_getElem (sextetOf_lt h),
    Option.getD_some]
  exact List.getElem_idxOf _

lemma not_isBlank_of_isUrlChar {c : Char} (h : isUrlChar c = true) : isBlank c = false := by
  have hletter : ∀ n < 64, isBlank (letter n) = false := by decide +kernel
  rw [← letter_sextetOf h]
  exact hletter _ (sextetOf_lt h)

lemma sextetOf_letter : ∀ n < 64, sextetOf (letter n) = n := by decide +kernel

lemma toUInt8_inj {m n : ℕ} (hm : m < 256) (hn : n < 256) : m.toUInt8 = n.toUInt8 ↔ m = n := by
  rw [← UInt8.toNat_inj]
  simp [Nat.toUInt8, Nat.mod_eq_of_lt hm, Nat.mod_eq_of_lt hn]

section

variable {a b c d a' b' c' d' : ℕ} {r r' : List ℕ} (ha : a < 64) (hb : b < 64) (ha' : a' < 64)
  (hb' : b' < 64)

include ha hb ha' hb'

lemma bytes_two : bytes [a, b] = bytes [a', b'] ↔ a = a' ∧ b / 16 = b' / 16 := by
  simp only [bytes, List.cons.injEq, and_true]
  rw [toUInt8_inj (by omega) (by omega)]
  omega

variable (hc : c < 64) (hc' : c' < 64)

include hc hc'

lemma bytes_three :
    bytes [a, b, c] = bytes [a', b', c'] ↔ a = a' ∧ b = b' ∧ c / 4 = c' / 4 := by
  simp only [bytes, List.cons.injEq, and_true]
  rw [toUInt8_inj (by omega) (by omega), toUInt8_inj (by omega) (by omega)]
  omega

lemma bytes_four (hd : d < 64) (hd' : d' < 64) :
    bytes (a :: b :: c :: d :: r) = bytes (a' :: b' :: c' :: d' :: r') ↔
      (a = a' ∧ b = b' ∧ c = c' ∧ d = d') ∧ bytes r = bytes r' := by
  simp only [bytes, List.cons.injEq]
  rw [toUInt8_inj (by omega) (by omega), toUInt8_inj (by omega) (by omega),
    toUInt8_inj (by omega) (by omega), ← and_assoc, ← and_assoc]
  refine and_congr_left fun _ => ?_
  omega

end

/-- The bits that are left over, in the last of so many sextets, when whole bytes are read. -/
def spareBits (length : ℕ) : ℕ := 6 * length % 8

lemma bytes_set_two {a b n i : ℕ} (ha : a < 64) (hb : b < 64) (hn : n < 64)
    (hi : i < [a, b].length) : bytes ([a, b].set i n) = bytes [a, b] ↔ n = [a, b][i] ∨
      i + 1 = [a, b].length ∧ n / 2 ^ spareBits [a, b].length =
        [a, b][i] / 2 ^ spareBits [a, b].length := by
  have hspare : spareBits [a, b].length = 4 := by simp [spareBits]
  rw [hspare]
  match i with
  | 0 => simp (disch := assumption) [bytes_two]
  | 1 =>
    simp (disch := assumption) only [List.set_cons_succ, List.set_cons_zero, bytes_two,
      List.length_cons, List.length_nil, List.getElem_cons_succ, List.getElem_cons_zero, true_and]
    omega

lemma bytes_set_three {a b c n i : ℕ} (ha : a < 64) (hb : b < 64) (hc : c < 64) (hn : n < 64)
    (hi : i < [a, b, c].length) : bytes ([a, b, c].set i n) = bytes [a, b, c] ↔
      n = [a, b, c][i] ∨ i + 1 = [a, b, c].length ∧ n / 2 ^ spareBits [a, b, c].length =
        [a, b, c][i] / 2 ^ spareBits [a, b, c].length := by
  have hspare : spareBits [a, b, c].length = 2 := by simp [spareBits]
  rw [hspare]
  match i with
  | 0 | 1 => simp (disch := assumption) [bytes_three]
  | 2 =>
    simp (disch := assumption) only [List.set_cons_succ, List.set_cons_zero, bytes_three,
      List.length_cons, List.length_nil, List.getElem_cons_succ, List.getElem_cons_zero, true_and]
    omega

/-- One sextet is replaced without a byte being changed only in the spare bits of the last one. -/
lemma bytes_set {ns : List ℕ} {i n : ℕ} (h : ∀ m ∈ ns, m < 64) (hlength : ns.length % 4 ≠ 1)
    (hi : i < ns.length) (hn : n < 64) : bytes (ns.set i n) = bytes ns ↔ n = ns[i] ∨
      i + 1 = ns.length ∧ n / 2 ^ spareBits ns.length = ns[i] / 2 ^ spareBits ns.length := by
  induction ns using bytes.induct generalizing i with
  | case1 a b c d r ih =>
    simp only [List.mem_cons, forall_eq_or_imp] at h
    obtain ⟨ha, hb, hc, hd, hr⟩ := h
    have hspare : spareBits (a :: b :: c :: d :: r).length = spareBits r.length := by
      simp only [spareBits, List.length_cons]
      omega
    rw [hspare]
    match i with
    | 0 | 1 | 2 => simp (disch := assumption) [bytes_four]
    | 3 => cases r <;> simp (disch := assumption) [bytes_four, spareBits]
    | i + 4 =>
      simp only [List.length_cons] at hi hlength
      have hrest := ih hr (by omega) (i := i) (by omega)
      simpa (disch := assumption) [bytes_four] using hrest
  | case2 a b c =>
    simp only [List.mem_cons, forall_eq_or_imp, List.not_mem_nil, false_imp_iff, implies_true,
      and_true] at h
    obtain ⟨ha, hb, hc⟩ := h
    exact bytes_set_three ha hb hc hn hi
  | case3 a b =>
    simp only [List.mem_cons, forall_eq_or_imp, List.not_mem_nil, false_imp_iff, implies_true,
      and_true] at h
    obtain ⟨ha, hb⟩ := h
    exact bytes_set_two ha hb hn hi
  | case4 ns hfour hthree htwo =>
    -- What is left is no sextet at all, where nothing can be replaced, or a single one.
    match ns with
    | [] => exact absurd hi (Nat.not_lt_zero i)
    | [a] => exact absurd rfl hlength
    | [a, b] => exact (htwo a b rfl).elim
    | [a, b, c] => exact (hthree a b c rfl).elim
    | a :: b :: c :: d :: r => exact (hfour a b c d r rfl).elim

def Spare (length i : ℕ) (c d : Char) : Prop :=
  i + 1 = length ∧
    sextetOf c / 2 ^ spareBits length = sextetOf d / 2 ^ spareBits length

lemma decode_set {bs : List UInt8} {i : ℕ} {c : Char} (hi : i < (encodeUrl bs).length)
    (hc : isUrlChar c = true) (hne : c ≠ (encodeUrl bs)[i]) :
    decode ((encodeUrl bs).set i c) = bs ↔ Spare (encodeUrl bs).length i c (encodeUrl bs)[i] := by
  have hlt := sextets_lt bs
  have hlength : (encodeUrl bs).length = (sextets bs).length := List.length_map ..
  have hi' : i < (sextets bs).length := hlength ▸ hi
  have hset : (encodeUrl bs).set i c = ((sextets bs).set i (sextetOf c)).map letter := by
    rw [List.map_set, letter_sextetOf hc, encodeUrl_eq]
  have hset_lt : ∀ n ∈ (sextets bs).set i (sextetOf c), n < 64 := by
    intro n hn
    rcases List.mem_or_eq_of_mem_set hn with hn | rfl
    · exact hlt n hn
    · exact sextetOf_lt hc
  have hfour : (sextets bs).length % 4 ≠ 1 := by
    rw [length_sextets]
    omega
  have hget : (encodeUrl bs)[i] = letter (sextets bs)[i] := List.getElem_map ..
  have hsextet : sextetOf (encodeUrl bs)[i] = (sextets bs)[i] := by
    rw [hget, sextetOf_letter _ (hlt _ (List.getElem_mem hi'))]
  have hother : sextetOf c ≠ (sextets bs)[i] := by
    intro h
    rw [hget, ← h, letter_sextetOf hc] at hne
    exact hne rfl
  have hread := bytes_set hlt hfour hi' (sextetOf_lt hc)
  rw [bytes_sextets] at hread
  rw [hset, decode_letters hset_lt, hread, Spare, hlength, hsextet]
  exact or_iff_right hother

end AuthGate.Text.Base64
