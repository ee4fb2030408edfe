import AuthGate.Log.Redaction
import Mathlib.Data.List.TakeWhile
import Mathlib.Tactic.Common

namespace AuthGate.Log

def StartsDomain (s : List Char) : Prop :=
  ∃ domain top rest, s = domain ++ '.' :: top ++ rest ∧ domain ≠ [] ∧ (∀ c ∈ domain, isDomain c) ∧
    2 ≤ top.length ∧ ∀ c ∈ top, isLetter c

def ShowsAddress (s : List Char) : Prop :=
  ∃ before name rest, s = before ++ name ++ '@' :: rest ∧ name ≠ [] ∧ (∀ c ∈ name, isLocal c) ∧
    StartsDomain rest

variable {c : Char} {s t : List Char}

lemma isDomain_of_isLetter (h : isLetter c = true) : isDomain c = true := by
  simp_all [isLetter, isDomain, Char.isAlphanum]

lemma isLocal_of_isDomain (h : isDomain c = true) : isLocal c = true := by
  simp only [isDomain, Bool.or_eq_true] at h
  simp only [isLocal, Bool.or_eq_true]
  tauto

lemma not_isDomain_of_not_isLocal (h : isLocal c = false) : isDomain c = false := by
  rw [Bool.eq_false_iff] at h ⊢
  exact fun hdomain => h (isLocal_of_isDomain hdomain)

lemma prefix_of_eq (h : s = t) : s <+: t := h ▸ List.prefix_rfl

lemma takeWhile_append_cons {p : Char → Bool} (hc : p c = false) (s t : List Char) :
    (s ++ c :: t).takeWhile p = s.takeWhile p := by
  induction s with
  | nil => simp [hc]
  | cons d s ih => simp only [List.cons_append, List.takeWhile_cons, ih]

lemma topEnd_isSome {i : ℕ} : (topEnd i s).isSome = true ↔ ∃ domain top rest,
    s = domain ++ '.' :: top ++ rest ∧ 0 < i + domain.length ∧ 2 ≤ top.length ∧
      ∀ c ∈ top, isLetter c := by
  induction s generalizing i with
  | nil => simp [topEnd]
  | cons c r ih =>
    have hstep : (topEnd i (c :: r)).isSome = true ↔ (topEnd (i + 1) r).isSome = true ∨
        (c = '.' ∧ 0 < i) ∧ 2 ≤ (r.takeWhile isLetter).length := by
      rw [topEnd]
      cases topEnd (i + 1) r with
      | some e => simp
      | none => split_ifs <;> simp_all
    rw [hstep, ih]
    constructor
    · rintro (⟨domain, top, rest, rfl, -, hlength, hletters⟩ | ⟨⟨rfl, hi⟩, hlength⟩)
      · exact ⟨c :: domain, top, rest, rfl, by rw [List.length_cons]; omega, hlength, hletters⟩
      · exact ⟨[], r.takeWhile isLetter, r.dropWhile isLetter, by simp, hi, hlength,
          fun c hc => List.mem_takeWhile_imp hc⟩
    · rintro ⟨domain, top, rest, h, hpos, hlength, hletters⟩
      cases domain with
      | nil =>
        obtain ⟨rfl, rfl⟩ := List.cons.inj h
        refine .inr ⟨⟨rfl, hpos⟩, hlength.trans ?_⟩
        have hcut : top <+: (top ++ rest).takeWhile isLetter := by
          rw [List.takeWhile_append_of_pos hletters]
          exact List.prefix_append _ _
        exact hcut.length_le
      | cons d domain =>
        obtain ⟨-, rfl⟩ := List.cons.inj h
        exact .inl ⟨domain, top, rest, rfl, by omega, hlength, hletters⟩

lemma startsDomain_iff : StartsDomain s ↔ (domainLength? s).isSome = true := by
  rw [domainLength?, topEnd_isSome]
  constructor
  · rintro ⟨domain, top, rest, rfl, hne, hdomain, hlength, hletters⟩
    refine ⟨domain, top, rest.takeWhile isDomain, ?_, ?_, hlength, hletters⟩
    · have hall : ∀ c ∈ domain ++ '.' :: top, isDomain c := by
        intro c hc
        obtain hc | hc := List.mem_append.1 hc
        · exact hdomain c hc
        · obtain rfl | hc := List.mem_cons.1 hc
          · decide
          · exact isDomain_of_isLetter (hletters c hc)
      rw [List.takeWhile_append_of_pos hall]
    · rw [Nat.zero_add]
      exact List.length_pos_iff.2 hne
  · rintro ⟨domain, top, rest, h, hpos, hlength, hletters⟩
    refine ⟨domain, top, rest ++ s.dropWhile isDomain, ?_, ?_, fun c hc => ?_, hlength, hletters⟩
    · rw [← List.append_assoc, ← h, List.takeWhile_append_dropWhile]
    · rw [Nat.zero_add] at hpos
      exact List.length_pos_iff.1 hpos
    · have hmem : c ∈ s.takeWhile isDomain := by
        rw [h]
        simp [hc]
      exact List.mem_takeWhile_imp hmem

lemma StartsDomain.of_cut (h : StartsDomain s)
    (hcut : s.takeWhile isDomain <+: t.takeWhile isDomain) : StartsDomain t := by
  rw [startsDomain_iff, domainLength?, topEnd_isSome] at h ⊢
  obtain ⟨domain, top, rest, hs, h⟩ := h
  obtain ⟨more, hmore⟩ := hcut
  exact ⟨domain, top, rest ++ more, by rw [← hmore, hs, List.append_assoc], h⟩

lemma StartsDomain.append (h : StartsDomain s) (t : List Char) : StartsDomain (s ++ t) := by
  obtain ⟨domain, top, rest, rfl, h⟩ := h
  exact ⟨domain, top, rest ++ t, by rw [List.append_assoc], h⟩

lemma not_showsAddress_nil : ¬ ShowsAddress [] := by
  rintro ⟨before, name, rest, h, -⟩
  simp at h

lemma showsAddress_cons : ShowsAddress (c :: s) ↔
    (isLocal c = true ∧ ∃ rest, s = '@' :: rest ∧ StartsDomain rest) ∨ ShowsAddress s := by
  constructor
  · rintro ⟨before, name, rest, h, hne, hlocal, hdomain⟩
    cases before with
    | cons b before =>
      obtain ⟨-, rfl⟩ := List.cons.inj h
      exact .inr ⟨before, name, rest, rfl, hne, hlocal, hdomain⟩
    | nil =>
      obtain ⟨d, name, rfl⟩ := List.exists_cons_of_ne_nil hne
      obtain ⟨rfl, rfl⟩ := List.cons.inj h
      cases name with
      | nil => exact .inl ⟨hlocal c List.mem_cons_self, rest, rfl, hdomain⟩
      | cons d name =>
        exact .inr ⟨[], d :: name, rest, rfl, by simp,
          fun x hx => hlocal x (List.mem_cons_of_mem c hx), hdomain⟩
  · rintro (⟨hc, rest, rfl, hdomain⟩ | ⟨before, name, rest, rfl, h⟩)
    · exact ⟨[], [c], rest, rfl, by simp, by simpa using hc, hdomain⟩
    · exact ⟨c :: before, name, rest, rfl, h⟩

lemma showsAddress_cons_of_not_isLocal (hc : isLocal c = false) :
    ShowsAddress (c :: s) ↔ ShowsAddress s := by
  rw [showsAddress_cons, hc]
  simp

lemma ShowsAddress.mono (h : ShowsAddress s) (hst : s <:+: t) : ShowsAddress t := by
  obtain ⟨before, name, rest, rfl, hname, hlocal, hdomain⟩ := h
  obtain ⟨a, b, rfl⟩ := hst
  exact ⟨a ++ before, name, rest ++ b, by simp, hname, hlocal, hdomain.append b⟩

lemma not_showsAddress_of_notMem (h : '@' ∉ s) : ¬ ShowsAddress s := by
  rintro ⟨before, name, rest, rfl, -⟩
  simp at h

lemma not_showsAddress_of_isLocal (h : ∀ c ∈ s, isLocal c) : ¬ ShowsAddress s :=
  not_showsAddress_of_notMem fun hat => absurd (h '@' hat) (by decide)

lemma showsAddress_append_cons (hc : isLocal c = false) (hat : c ≠ '@') :
    ShowsAddress (s ++ c :: t) ↔ ShowsAddress s ∨ ShowsAddress t := by
  have hdomain := not_isDomain_of_not_isLocal hc
  constructor
  · induction s with
    | nil => exact fun h => .inr ((showsAddress_cons_of_not_isLocal hc).1 h)
    | cons d s ih =>
      intro h
      obtain ⟨hlocal, rest, hrest, hstarts⟩ | h := showsAddress_cons.1 h
      · cases s with
        | nil => exact absurd (List.cons.inj hrest).1 hat
        | cons e s =>
          obtain ⟨rfl, rfl⟩ := List.cons.inj hrest
          refine .inl (showsAddress_cons.2 (.inl ⟨hlocal, s, rfl, hstarts.of_cut ?_⟩))
          exact prefix_of_eq (takeWhile_append_cons hdomain s t)
      · exact (ih h).imp_left fun h => showsAddress_cons.2 (.inr h)
  · rintro (h | h)
    · exact h.mono (List.prefix_append _ _).isInfix
    · exact h.mono ((List.suffix_cons c t).trans (List.suffix_append _ _)).isInfix

lemma showsAddress_concat (hc : isLocal c = false) (hat : c ≠ '@') :
    ShowsAddress (s ++ [c]) ↔ ShowsAddress s := by
  rw [showsAddress_append_cons hc hat, or_iff_left not_showsAddress_nil]

lemma of_showsAddress_name (hs : ∀ c ∈ s, isLocal c) (h : ShowsAddress (s ++ '@' :: t)) :
    StartsDomain t ∨ ShowsAddress t := by
  induction s with
  | nil => exact .inr ((showsAddress_cons_of_not_isLocal (by decide)).1 h)
  | cons d s ih =>
    obtain ⟨-, rest, hrest, hstarts⟩ | h := showsAddress_cons.1 h
    · cases s with
      | nil =>
        obtain ⟨-, rfl⟩ := List.cons.inj hrest
        exact .inl hstarts
      | cons e s =>
        obtain ⟨rfl, -⟩ := List.cons.inj hrest
        cases hs '@' (by simp)
    · exact ih (fun c hc => hs c (List.mem_cons_of_mem d hc)) h

lemma run_append {r : List Char} (c : Char) (h : r.dropWhile isLocal = s) :
    c :: r = (c :: r.takeWhile isLocal) ++ s := by
  rw [← h, List.cons_append, List.takeWhile_append_dropWhile]

lemma isLocal_of_mem_run {r : List Char} (hc : isLocal c = true) :
    ∀ x ∈ c :: r.takeWhile isLocal, isLocal x = true := by
  intro x hx
  obtain rfl | hx := List.mem_cons.1 hx
  · exact hc
  · exact List.mem_takeWhile_imp hx

lemma not_isLocal_of_dropWhile {r : List Char} (h : r.dropWhile isLocal = c :: s) :
    isLocal c = false := by
  have hhead := List.head?_dropWhile_not isLocal r
  rwa [h] at hhead

/-- Redaction may cut the domain that a text starts with, but makes none longer. -/
lemma domain_redactEmails (s : List Char) :
    (redactEmails s).takeWhile isDomain <+: s.takeWhile isDomain := by
  fun_induction redactEmails s with
  | case1 => exact List.prefix_rfl
  | case2 c r hc run hrest =>
    apply prefix_of_eq
    rw [run_append c hrest, List.append_nil]
  | case3 => exact List.nil_prefix
  | case4 c r hc run s hnone hrest =>
    apply prefix_of_eq
    rw [run_append c hrest, takeWhile_append_cons (by decide), takeWhile_append_cons (by decide)]
  | case5 c r hc run d s hrest =>
    have hd := not_isDomain_of_not_isLocal (not_isLocal_of_dropWhile hrest)
    apply prefix_of_eq
    rw [run_append c hrest, takeWhile_append_cons hd, takeWhile_append_cons hd]
  | case6 c r hc =>
    have hd := not_isDomain_of_not_isLocal (Bool.eq_false_iff.2 hc)
    rw [List.takeWhile_cons_of_neg (by simp [hd])]
    exact List.nil_prefix

lemma not_showsAddress_redactEmails (s : List Char) : ¬ ShowsAddress (redactEmails s) := by
  fun_induction redactEmails s with
  | case1 => exact not_showsAddress_nil
  | case2 c r hc run hrest =>
    exact not_showsAddress_of_isLocal (isLocal_of_mem_run hc)
  | case3 c r hc s n hn hrest _ ih =>
    -- No address goes beyond the bracket that ends the mark.
    have hmark : emailMark = "[EMAIL_REDACTED".toList ++ [']'] := by decide
    rw [hmark, List.append_assoc, List.singleton_append, showsAddress_append_cons rfl (by decide)]
    rintro (h | h)
    · exact not_showsAddress_of_notMem (by decide) h
    · exact ih h
  | case4 c r hc run s hnone hrest _ ih =>
    intro h
    obtain h | h := of_showsAddress_name (isLocal_of_mem_run hc) h
    · -- The name was kept because no domain followed, and the redaction of the rest makes none.
      have hdomain := startsDomain_iff.1 (h.of_cut (domain_redactEmails s))
      rw [hnone] at hdomain
      cases hdomain
    · exact ih h
  | case5 c r hc run d s hrest _ hat ih =>
    rw [showsAddress_append_cons (not_isLocal_of_dropWhile hrest) hat]
    rintro (h | h)
    · exact not_showsAddress_of_isLocal (isLocal_of_mem_run hc) h
    · exact ih h
  | case6 c r hc ih =>
    rw [showsAddress_cons_of_not_isLocal (Bool.eq_false_iff.2 hc)]
    exact ih

lemma cons_prefix_takeWhile {p : Char → Bool} (h : s.takeWhile p <+: t.takeWhile p) :
    (c :: s).takeWhile p <+: (c :: t).takeWhile p := by
  rw [List.takeWhile_cons, List.takeWhile_cons]
  split_ifs
  · exact (List.cons_prefix_cons).2 ⟨rfl, h⟩
  · exact List.prefix_rfl

lemma domain_redactPhonesAfter (inWord : Bool) (s : List Char) :
    (redactPhonesAfter inWord s).takeWhile isDomain <+: s.takeWhile isDomain := by
  fun_induction redactPhonesAfter inWord s with
  | case1 => exact List.prefix_rfl
  | case2 c r ih => exact cons_prefix_takeWhile ih
  | case3 => exact List.nil_prefix
  | case4 _ c r _ _ ih => exact cons_prefix_takeWhile ih

lemma redactPhonesAfter_eq_at {inWord : Bool} (h : redactPhonesAfter inWord s = '@' :: t) :
    ∃ r, s = '@' :: r ∧ t = redactPhonesAfter false r := by
  cases s with
  | nil => simp [redactPhonesAfter] at h
  | cons c r =>
    rw [redactPhonesAfter] at h
    split at h
    · obtain ⟨rfl, rfl⟩ := List.cons.inj h
      exact ⟨r, rfl, rfl⟩
    · split at h
      · cases h
      · obtain ⟨rfl, rfl⟩ := List.cons.inj h
        exact ⟨r, rfl, rfl⟩

lemma showsAddress_cons_of_redactPhonesAfter {inWord : Bool}
    (h : ShowsAddress (c :: redactPhonesAfter inWord s))
    (ih : ShowsAddress (redactPhonesAfter inWord s) → ShowsAddress s) : ShowsAddress (c :: s) := by
  rw [showsAddress_cons] at h ⊢
  obtain ⟨hc, rest, hrest, hdomain⟩ | h := h
  · obtain ⟨r, rfl, rfl⟩ := redactPhonesAfter_eq_at hrest
    exact .inl ⟨hc, r, rfl, hdomain.of_cut (domain_redactPhonesAfter false r)⟩
  · exact .inr (ih h)

lemma dropDigits?_suffix {n : ℕ} (h : dropDigits? n s = some t) : t <:+ s := by
  induction n generalizing s with
  | zero =>
    obtain rfl : s = t := by simpa [dropDigits?] using h
    exact List.suffix_rfl
  | succ n ih =>
    cases s with
    | nil => cases h
    | cons c s =>
      rw [dropDigits?] at h
      split_ifs at h
      exact (ih h).trans (List.suffix_cons c s)

lemma dropMark_suffix (s : List Char) : dropMark s <:+ s := by
  unfold dropMark
  split
  · exact List.suffix_cons _ _
  · exact List.suffix_cons _ _
  · exact List.suffix_rfl

lemma afterPhone?_suffix (h : afterPhone? s = some t) : t <:+ s := by
  simp only [afterPhone?, Option.filter_eq_some_iff, Option.bind_eq_some_iff] at h
  obtain ⟨⟨r, hr, u, hu, ht⟩, -⟩ := h
  have hlast : t <:+ u := (dropDigits?_suffix ht).trans (dropMark_suffix u)
  have hmiddle : u <:+ r := (dropDigits?_suffix hu).trans (dropMark_suffix r)
  exact (hlast.trans hmiddle).trans (dropDigits?_suffix hr)

lemma showsAddress_of_redactPhonesAfter {inWord : Bool} {s : List Char}
    (h : ShowsAddress (redactPhonesAfter inWord s)) : ShowsAddress s := by
  fun_induction redactPhonesAfter inWord s with
  | case1 => exact h
  | case2 c r ih => exact showsAddress_cons_of_redactPhonesAfter h ih
  | case3 _ c r _ s hs _ ih =>
    have hmark : phoneMark = "[PHONE_REDACTED".toList ++ [']'] := by decide
    rw [hmark, List.append_assoc, List.singleton_append,
      showsAddress_append_cons rfl (by decide)] at h
    obtain h | h := h
    · exact absurd h (not_showsAddress_of_notMem (by decide))
    · exact (ih h).mono (afterPhone?_suffix hs).isInfix
  | case4 _ c r _ _ ih => exact showsAddress_cons_of_redactPhonesAfter h ih

lemma not_showsAddress_redactText (s : String) : ¬ ShowsAddress (redactText s).toList := by
  rw [redactText, String.toList_ofList, redactChars]
  exact fun h => not_showsAddress_redactEmails _ (showsAddress_of_redactPhonesAfter h)

end AuthGate.Log
