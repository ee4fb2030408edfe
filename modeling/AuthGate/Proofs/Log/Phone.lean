import AuthGate.Log.Redaction
import AuthGate.Proofs.Calendar

namespace AuthGate.Log

def IsDigits (n : ℕ) (s : List Char) : Prop := s.length = n ∧ ∀ c ∈ s, c.isDigit = true

def IsMark (s : List Char) : Prop := s = [] ∨ s = ['-'] ∨ s = ['.']

def IsPhone (s : List Char) : Prop :=
  ∃ a m b n c, s = a ++ (m ++ (b ++ (n ++ c))) ∧ IsDigits 3 a ∧ IsMark m ∧ IsDigits 3 b ∧
    IsMark n ∧ IsDigits 4 c

/-- Whether a text ends inside of a word; an empty one does if `inWord` says so. -/
def endsInWord (inWord : Bool) (s : List Char) : Bool := (s.getLast?.map isWord).getD inWord

def ShowsPhoneAfter (inWord : Bool) (s : List Char) : Prop :=
  ∃ before number rest, s = before ++ number ++ rest ∧ IsPhone number ∧
    endsInWord inWord before = false ∧ atBoundary rest = true

def ShowsPhone (s : List Char) : Prop := ShowsPhoneAfter false s

variable {inWord : Bool} {n : ℕ} {c : Char} {s t : List Char}

lemma isWord_of_isDigit (h : c.isDigit = true) : isWord c = true := by
  simp [isWord, Char.isAlphanum, h]

lemma dropDigits?_succ_eq_some : dropDigits? (n + 1) s = some t ↔
    ∃ c r, s = c :: r ∧ c.isDigit = true ∧ dropDigits? n r = some t := by
  cases s with
  | nil => simp [dropDigits?]
  | cons c r =>
    rw [dropDigits?, Option.ite_none_right_eq_some]
    constructor
    · rintro ⟨hc, h⟩
      exact ⟨c, r, rfl, hc, h⟩
    · rintro ⟨_, _, hs, hc, h⟩
      obtain ⟨rfl, rfl⟩ := List.cons.inj hs
      exact ⟨hc, h⟩

lemma dropDigits?_eq_some : dropDigits? n s = some t ↔ ∃ d, s = d ++ t ∧ IsDigits n d := by
  induction n generalizing s with
  | zero =>
    rw [dropDigits?, Option.some.injEq]
    constructor
    · rintro rfl
      exact ⟨[], rfl, rfl, List.forall_mem_nil _⟩
    · rintro ⟨d, rfl, hd, -⟩
      rw [List.length_eq_zero_iff.1 hd, List.nil_append]
  | succ n ih =>
    rw [dropDigits?_succ_eq_some]
    constructor
    · rintro ⟨c, r, rfl, hc, h⟩
      obtain ⟨d, rfl, hlength, hd⟩ := ih.1 h
      exact ⟨c :: d, rfl, by rw [List.length_cons, hlength], List.forall_mem_cons.2 ⟨hc, hd⟩⟩
    · rintro ⟨d, rfl, hlength, hd⟩
      obtain ⟨c, d, rfl⟩ := List.exists_cons_of_length_eq_add_one hlength
      obtain ⟨hc, hd⟩ := List.forall_mem_cons.1 hd
      exact ⟨c, d ++ t, rfl, hc, ih.2 ⟨d, rfl, Nat.succ.inj hlength, hd⟩⟩

lemma dropMark_append {m : List Char} (hm : IsMark m) (hs : IsDigits (n + 1) s) (t : List Char) :
    dropMark (m ++ (s ++ t)) = s ++ t := by
  obtain ⟨d, s, rfl⟩ := List.exists_cons_of_length_eq_add_one hs.1
  have hd := (List.forall_mem_cons.1 hs.2).1
  have hdash : d ≠ '-' := by
    rintro rfl
    exact absurd hd (by decide)
  have hdot : d ≠ '.' := by
    rintro rfl
    exact absurd hd (by decide)
  rcases hm with rfl | rfl | rfl
  · simp [dropMark, hdash, hdot]
  · rfl
  · rfl

lemma exists_dropMark (s : List Char) : ∃ m, IsMark m ∧ s = m ++ dropMark s := by
  unfold dropMark
  split
  · exact ⟨['-'], .inr (.inl rfl), rfl⟩
  · exact ⟨['.'], .inr (.inr rfl), rfl⟩
  · exact ⟨[], .inl rfl, rfl⟩

lemma afterPhone?_eq_some :
    afterPhone? s = some t ↔ ∃ number, s = number ++ t ∧ IsPhone number ∧ atBoundary t = true := by
  simp only [afterPhone?, Option.filter_eq_some_iff, Option.bind_eq_some_iff, dropDigits?_eq_some]
  constructor
  · rintro ⟨⟨r, ⟨a, rfl, ha⟩, u, ⟨b, hr, hb⟩, d, hu, hd⟩, hboundary⟩
    obtain ⟨m, hm, hmr⟩ := exists_dropMark r
    obtain ⟨k, hk, hku⟩ := exists_dropMark u
    refine ⟨_, ?_, ⟨a, m, b, k, d, rfl, ha, hm, hb, hk, hd⟩, hboundary⟩
    rw [hmr, hr, hku, hu]
    simp only [List.append_assoc]
  · rintro ⟨_, rfl, ⟨a, m, b, k, d, rfl, ha, hm, hb, hk, hd⟩, hboundary⟩
    refine ⟨⟨_, ⟨a, List.append_assoc _ _ _, ha⟩, k ++ (d ++ t), ⟨b, ?_, hb⟩, d, ?_, hd⟩, hboundary⟩
    · simp only [List.append_assoc]
      exact dropMark_append hm hb _
    · exact dropMark_append hk hd t

lemma endsInWord_cons : endsInWord inWord (c :: s) = endsInWord (isWord c) s := by
  cases s with
  | nil => rfl
  | cons d s =>
    rw [endsInWord, endsInWord, List.getLast?_cons_cons,
      List.getLast?_eq_some_getLast (List.cons_ne_nil d s)]
    rfl

lemma showsPhoneAfter_nil : ¬ ShowsPhoneAfter inWord [] := by
  rintro ⟨before, _, rest, h, ⟨a, m, b, k, d, rfl, ⟨ha, -⟩, -⟩, -⟩
  have := congrArg List.length h
  simp at this
  omega

lemma showsPhoneAfter_cons : ShowsPhoneAfter inWord (c :: s) ↔
    inWord = false ∧ (afterPhone? (c :: s)).isSome = true ∨ ShowsPhoneAfter (isWord c) s := by
  constructor
  · rintro ⟨before, number, rest, h, hnumber, hbefore, hrest⟩
    cases before with
    | nil =>
      exact .inl ⟨hbefore, Option.isSome_iff_exists.2
        ⟨rest, afterPhone?_eq_some.2 ⟨number, h, hnumber, hrest⟩⟩⟩
    | cons d before =>
      obtain ⟨rfl, rfl⟩ := List.cons.inj h
      rw [endsInWord_cons] at hbefore
      exact .inr ⟨before, number, rest, rfl, hnumber, hbefore, hrest⟩
  · rintro (⟨hword, h⟩ | ⟨before, number, rest, rfl, hnumber, hbefore, hrest⟩)
    · obtain ⟨rest, h⟩ := Option.isSome_iff_exists.1 h
      obtain ⟨number, h, hnumber, hrest⟩ := afterPhone?_eq_some.1 h
      exact ⟨[], number, rest, h, hnumber, hword, hrest⟩
    · exact ⟨c :: before, number, rest, rfl, hnumber, by rwa [endsInWord_cons], hrest⟩

lemma afterPhone?_of_not_isDigit (hc : c.isDigit = false) : afterPhone? (c :: s) = none := by
  simp [afterPhone?, dropDigits?, hc]

lemma showsPhoneAfter_append (h : ∀ c ∈ s, c.isDigit = false) :
    ShowsPhoneAfter inWord (s ++ t) ↔ ShowsPhoneAfter (endsInWord inWord s) t := by
  induction s generalizing inWord with
  | nil => rfl
  | cons c s ih =>
    obtain ⟨hc, hs⟩ := List.forall_mem_cons.1 h
    rw [List.cons_append, showsPhoneAfter_cons, afterPhone?_of_not_isDigit hc, ih hs,
      endsInWord_cons]
    simp

lemma showsPhoneAfter_of_atBoundary (h : atBoundary s = true) :
    ShowsPhoneAfter inWord s ↔ ShowsPhoneAfter true s := by
  cases s with
  | nil => simp only [showsPhoneAfter_nil]
  | cons c s =>
    have hc : c.isDigit = false := by
      rw [Bool.eq_false_iff]
      intro hdigit
      simp [atBoundary, isWord_of_isDigit hdigit] at h
    simp [showsPhoneAfter_cons, afterPhone?_of_not_isDigit hc]

lemma redactPhonesAfter_true : redactPhonesAfter true (c :: s) =
    c :: redactPhonesAfter (isWord c) s := by
  rw [redactPhonesAfter, if_pos rfl]

lemma atBoundary_redactPhonesAfter (s : List Char) :
    atBoundary (redactPhonesAfter true s) = atBoundary s := by
  cases s with
  | nil => simp [redactPhonesAfter]
  | cons c s => rw [redactPhonesAfter_true, atBoundary, atBoundary]

lemma head_redactPhonesAfter (h : redactPhonesAfter inWord s = c :: t) (hc : c ≠ '[') :
    ∃ r, s = c :: r ∧ t = redactPhonesAfter (isWord c) r := by
  cases s with
  | nil => simp [redactPhonesAfter] at h
  | cons d r =>
    rw [redactPhonesAfter] at h
    split_ifs at h
    · obtain ⟨rfl, rfl⟩ := List.cons.inj h
      exact ⟨r, rfl, rfl⟩
    · split at h
      · exact absurd (List.cons.inj h).1.symm hc
      · obtain ⟨rfl, rfl⟩ := List.cons.inj h
        exact ⟨r, rfl, rfl⟩

lemma dropDigits?_succ_redacted
    (h : dropDigits? (n + 1) (redactPhonesAfter inWord s) = some t) :
    ∃ c r, s = c :: r ∧ c.isDigit = true ∧ dropDigits? n (redactPhonesAfter true r) = some t := by
  obtain ⟨c, u, hu, hc, h⟩ := dropDigits?_succ_eq_some.1 h
  obtain ⟨r, rfl, rfl⟩ := head_redactPhonesAfter hu (by rintro rfl; cases hc)
  rw [isWord_of_isDigit hc] at h
  exact ⟨c, r, rfl, hc, h⟩

lemma dropDigits?_redacted (h : dropDigits? n (redactPhonesAfter true s) = some t) :
    ∃ r, dropDigits? n s = some r ∧ t = redactPhonesAfter true r := by
  induction n generalizing s with
  | zero => exact ⟨s, rfl, (Option.some.inj h).symm⟩
  | succ n ih =>
    obtain ⟨c, r, rfl, hc, h⟩ := dropDigits?_succ_redacted h
    obtain ⟨r', hr', ht⟩ := ih h
    exact ⟨r', dropDigits?_succ_eq_some.2 ⟨c, r, rfl, hc, hr'⟩, ht⟩

lemma exists_dropDigits?_redacted
    (h : dropDigits? (n + 1) (redactPhonesAfter inWord s) = some t) :
    ∃ r, dropDigits? (n + 1) s = some r ∧ t = redactPhonesAfter true r := by
  obtain ⟨c, r, rfl, hc, h⟩ := dropDigits?_succ_redacted h
  obtain ⟨r', hr', ht⟩ := dropDigits?_redacted h
  exact ⟨r', dropDigits?_succ_eq_some.2 ⟨c, r, rfl, hc, hr'⟩, ht⟩

lemma dropMark_redactPhonesAfter (s : List Char) :
    ∃ w, dropMark (redactPhonesAfter true s) = redactPhonesAfter w (dropMark s) := by
  cases s with
  | nil => exact ⟨true, by simp [redactPhonesAfter, dropMark]⟩
  | cons c s =>
    rw [redactPhonesAfter_true]
    by_cases hdash : c = '-'
    · subst hdash
      exact ⟨_, rfl⟩
    · by_cases hdot : c = '.'
      · subst hdot
        exact ⟨_, rfl⟩
      · refine ⟨true, ?_⟩
        simp [dropMark, hdash, hdot, redactPhonesAfter_true]

lemma afterPhone?_redacted
    (h : (afterPhone? (c :: redactPhonesAfter (isWord c) s)).isSome = true) :
    (afterPhone? (c :: s)).isSome = true := by
  obtain ⟨t, h⟩ := Option.isSome_iff_exists.1 h
  simp only [afterPhone?, Option.filter_eq_some_iff, Option.bind_eq_some_iff] at h
  obtain ⟨⟨r, hr, u, hu, ht⟩, hboundary⟩ := h
  have hc : redactPhonesAfter true (c :: s) = c :: redactPhonesAfter (isWord c) s :=
    redactPhonesAfter_true
  rw [← hc] at hr
  obtain ⟨r, hr', rfl⟩ := dropDigits?_redacted hr
  obtain ⟨w, hw⟩ := dropMark_redactPhonesAfter r
  rw [hw] at hu
  obtain ⟨u, hu', rfl⟩ := exists_dropDigits?_redacted hu
  obtain ⟨w, hw⟩ := dropMark_redactPhonesAfter u
  rw [hw] at ht
  obtain ⟨t, ht', rfl⟩ := exists_dropDigits?_redacted ht
  rw [atBoundary_redactPhonesAfter] at hboundary
  refine Option.isSome_iff_exists.2 ⟨t, ?_⟩
  simp only [afterPhone?, Option.filter_eq_some_iff, Option.bind_eq_some_iff]
  exact ⟨⟨r, hr', u, hu', ht'⟩, hboundary⟩

lemma atBoundary_afterPhone? (h : afterPhone? s = some t) : atBoundary t = true := by
  obtain ⟨-, -, -, hboundary⟩ := afterPhone?_eq_some.1 h
  exact hboundary

lemma not_showsPhone_redactPhonesAfter (inWord : Bool) (s : List Char) :
    ¬ ShowsPhoneAfter inWord (redactPhonesAfter inWord s) := by
  fun_induction redactPhonesAfter inWord s with
  | case1 => exact showsPhoneAfter_nil
  | case2 c r ih =>
    rw [showsPhoneAfter_cons]
    simpa using ih
  | case3 inWord c r hword s hs hlength ih =>
    -- A mark ends outside of words, and what follows a number starts with a boundary.
    have hboundary : atBoundary (redactPhonesAfter true s) = true := by
      rw [atBoundary_redactPhonesAfter]
      exact atBoundary_afterPhone? hs
    have hall : phoneMark.all (fun c => !c.isDigit) = true := by decide +kernel
    have hmark : ∀ c ∈ phoneMark, c.isDigit = false := by simpa using hall
    rw [showsPhoneAfter_append hmark, showsPhoneAfter_of_atBoundary hboundary]
    exact ih
  | case4 inWord c r hword hs ih =>
    rw [showsPhoneAfter_cons]
    rintro (⟨-, h⟩ | h)
    · have hsome := afterPhone?_redacted h
      rw [hs] at hsome
      cases hsome
    · exact ih h

lemma not_showsPhone_redactText (s : String) : ¬ ShowsPhone (redactText s).toList := by
  rw [redactText, String.toList_ofList, redactChars]
  exact not_showsPhone_redactPhonesAfter false _

open Calendar (zeroed)

lemma isDigit_zeroed (c : Char) : (zeroed c).isDigit = c.isDigit := by
  rw [zeroed]
  split_ifs with h
  · rw [h]
    decide
  · rfl

lemma isWord_zeroed (c : Char) : isWord (zeroed c) = isWord c := by
  rw [zeroed]
  split_ifs with h
  · rw [isWord_of_isDigit h]
    decide
  · rfl

lemma IsDigits.zeroed (h : IsDigits n s) : IsDigits n (s.map zeroed) := by
  refine ⟨by rw [List.length_map, h.1], fun c hc => ?_⟩
  obtain ⟨d, hd, rfl⟩ := List.mem_map.1 hc
  rw [isDigit_zeroed, h.2 d hd]

lemma IsMark.zeroed (h : IsMark s) : IsMark (s.map zeroed) := by
  rcases h with rfl | rfl | rfl
  · exact .inl rfl
  · exact .inr (.inl (by decide))
  · exact .inr (.inr (by decide))

lemma IsPhone.zeroed (h : IsPhone s) : IsPhone (s.map zeroed) := by
  obtain ⟨a, m, b, k, d, rfl, ha, hm, hb, hk, hd⟩ := h
  exact ⟨_, _, _, _, _, by simp only [List.map_append], ha.zeroed, hm.zeroed, hb.zeroed, hk.zeroed,
    hd.zeroed⟩

lemma ShowsPhoneAfter.zeroed (h : ShowsPhoneAfter inWord s) :
    ShowsPhoneAfter inWord (s.map zeroed) := by
  obtain ⟨before, number, rest, rfl, hnumber, hbefore, hrest⟩ := h
  refine ⟨_, _, _, by rw [List.map_append, List.map_append], hnumber.zeroed, ?_, ?_⟩
  · rw [← hbefore, endsInWord, endsInWord, List.getLast?_map, Option.map_map]
    congr 2
    exact funext isWord_zeroed
  · cases rest with
    | nil => rfl
    | cons c rest => rwa [List.map_cons, atBoundary, isWord_zeroed]

instance decidableShowsPhoneAfter : ∀ inWord s, Decidable (ShowsPhoneAfter inWord s)
  | _, [] => isFalse showsPhoneAfter_nil
  | _, c :: s =>
    have := decidableShowsPhoneAfter (isWord c) s
    decidable_of_iff' _ showsPhoneAfter_cons

instance (s : List Char) : Decidable (ShowsPhone s) := decidableShowsPhoneAfter false s

/-- No time stamp shows a phone number: its digits are too few between other characters. -/
lemma not_showsPhone_iso {time : ℤ} (h : time.natAbs ≤ 8640000000000000) :
    ¬ ShowsPhone (Calendar.iso time) := by
  intro hphone
  obtain ⟨year, hyear, hiso⟩ := Calendar.map_zeroed_iso h
  have hzeroed := ShowsPhoneAfter.zeroed hphone
  rw [hiso] at hzeroed
  have hforms : ∀ year ∈ ["0000".toList, "+000000".toList, "-000000".toList],
      ¬ ShowsPhone (year ++ "-00-00T00:00:00.000Z".toList) := by
    decide
  exact hforms year hyear hzeroed

end AuthGate.Log
