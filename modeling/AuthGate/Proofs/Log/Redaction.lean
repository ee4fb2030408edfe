import AuthGate.Proofs.Log.Address
import AuthGate.Proofs.Log.Phone

namespace AuthGate.Log

variable {s : List Char} {inWord : Bool}

lemma showsAddress_of_run {c : Char} {r t : List Char} (hc : isLocal c = true)
    (hrest : r.dropWhile isLocal = '@' :: t) (h : StartsDomain t) : ShowsAddress (c :: r) := by
  refine ⟨[], c :: r.takeWhile isLocal, t, ?_, by simp, isLocal_of_mem_run hc, h⟩
  rw [List.nil_append]
  exact run_append c hrest

lemma not_showsAddress_after_run {c d : Char} {r t : List Char}
    (hrest : r.dropWhile isLocal = d :: t) (h : ¬ ShowsAddress (c :: r)) : ¬ ShowsAddress t := by
  intro ht
  apply h
  apply ht.mono
  rw [run_append c hrest]
  exact ((List.suffix_cons d t).trans (List.suffix_append _ _)).isInfix

lemma redactEmails_eq_self (h : ¬ ShowsAddress s) : redactEmails s = s := by
  fun_induction redactEmails s with
  | case1 => rfl
  | case2 c r hc run hrest =>
    rw [run_append c hrest, List.append_nil]
  | case3 c r hc t n hn hrest =>
    have hdomain : StartsDomain t := startsDomain_iff.2 (by rw [hn]; rfl)
    exact absurd (showsAddress_of_run hc hrest hdomain) h
  | case4 c r hc run t hnone hrest _ ih =>
    -- The run is kept, and no address starts inside of it: the search goes on behind its end.
    rw [ih (not_showsAddress_after_run hrest h), run_append c hrest]
  | case5 c r hc run d t hrest _ hat ih =>
    rw [ih (not_showsAddress_after_run hrest h), run_append c hrest]
  | case6 c r hc ih =>
    rw [showsAddress_cons_of_not_isLocal (Bool.eq_false_iff.2 hc)] at h
    rw [ih h]

lemma redactEmails_eq_self_of_unmarked (h : '[' ∉ redactEmails s) : redactEmails s = s := by
  fun_induction redactEmails s with
  | case1 => rfl
  | case2 c r hc run hrest =>
    rw [run_append c hrest, List.append_nil]
  | case3 =>
    apply absurd _ h
    exact List.mem_append_left _ (by decide)
  | case4 c r hc run t hnone hrest _ ih =>
    rw [ih (mt (fun ht => List.mem_append_right run (List.mem_cons_of_mem '@' ht)) h),
      run_append c hrest]
  | case5 c r hc run d t hrest _ hat ih =>
    rw [ih (mt (fun ht => List.mem_append_right run (List.mem_cons_of_mem d ht)) h),
      run_append c hrest]
  | case6 c r hc ih =>
    rw [ih (mt (List.mem_cons_of_mem c) h)]

lemma redactPhonesAfter_eq_self (h : ¬ ShowsPhoneAfter inWord s) :
    redactPhonesAfter inWord s = s := by
  fun_induction redactPhonesAfter inWord s with
  | case1 => rfl
  | case2 c r ih =>
    rw [showsPhoneAfter_cons, not_or] at h
    rw [ih h.2]
  | case3 inWord c r hword t ht =>
    apply absurd _ h
    rw [showsPhoneAfter_cons, ht]
    exact .inl ⟨Bool.eq_false_iff.2 hword, rfl⟩
  | case4 inWord c r hword hnone ih =>
    rw [showsPhoneAfter_cons, not_or] at h
    rw [ih h.2]

lemma redactPhonesAfter_eq_self_of_unmarked (h : '[' ∉ redactPhonesAfter inWord s) :
    redactPhonesAfter inWord s = s := by
  fun_induction redactPhonesAfter inWord s with
  | case1 => rfl
  | case2 c r ih =>
    rw [ih (mt (List.mem_cons_of_mem c) h)]
  | case3 =>
    apply absurd _ h
    exact List.mem_append_left _ (by decide)
  | case4 inWord c r hword hnone ih =>
    rw [ih (mt (List.mem_cons_of_mem c) h)]

lemma redactText_eq_self_iff {s : String} :
    redactText s = s ↔ ¬ ShowsAddress s.toList ∧ ¬ ShowsPhone s.toList := by
  constructor
  · intro h
    rw [← h]
    exact ⟨not_showsAddress_redactText s, not_showsPhone_redactText s⟩
  · rintro ⟨haddress, hphone⟩
    rw [redactText, redactChars, redactEmails_eq_self haddress, redactPhonesAfter_eq_self hphone,
      String.ofList_toList]

lemma redactText_eq_self_of_unmarked {s : String} (h : '[' ∉ (redactText s).toList) :
    redactText s = s := by
  rw [redactText, String.toList_ofList, redactChars] at h
  have hphones := redactPhonesAfter_eq_self_of_unmarked h
  rw [hphones] at h
  rw [redactText, redactChars, hphones, redactEmails_eq_self_of_unmarked h, String.ofList_toList]

theorem redactText_settles (s : String) :
    ¬ ShowsAddress (redactText s).toList ∧ ¬ ShowsPhone (redactText s).toList ∧
    redactText (redactText s) = redactText s ∧
    (redactText s = s ↔ ¬ ShowsAddress s.toList ∧ ¬ ShowsPhone s.toList) := by
  have haddress := not_showsAddress_redactText s
  have hphone := not_showsPhone_redactText s
  refine ⟨haddress, hphone, ?_, redactText_eq_self_iff⟩
  exact redactText_eq_self_iff.2 ⟨haddress, hphone⟩

end AuthGate.Log
