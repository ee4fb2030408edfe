import AuthGate.Proofs.Number.Integer
import AuthGate.Proofs.Settings
import Mathlib.Data.List.TakeWhile

namespace AuthGate

open Text (isBlank trim trimStart)

def IsNumeral (s : List Char) (n : ℕ) : Prop :=
  ∃ sign ds, s = sign ++ ds ∧ (sign = [] ∨ sign = ['+']) ∧ ds ≠ [] ∧ AllDigits ds ∧
    digitsValue ds = n

/-- A text starts with a numeral behind its blanks, and goes on with something that is no digit. -/
def Leads (s : List Char) (n : ℕ) (rest : List Char) : Prop :=
  ∃ gap numeral, s = gap ++ (numeral ++ rest) ∧ (∀ c ∈ gap, isBlank c = true) ∧
    IsNumeral numeral n ∧ ∀ c ∈ rest.head?, c.isDigit = false

variable {s t rest tail : List Char} {m n : ℕ}

lemma not_isBlank_of_isDigit {c : Char} (h : c.isDigit = true) : isBlank c = false := by
  have hbounds : 48 ≤ c.toNat ∧ c.toNat ≤ 57 := Char.isDigit_iff_toNat.1 h
  simp only [isBlank, Bool.or_eq_false_iff, Bool.and_eq_false_iff, decide_eq_false_iff_not]
  omega

lemma takeWhile_digits {ds : List Char} (hd : AllDigits ds)
    (hr : ∀ c ∈ rest.head?, c.isDigit = false) : (ds ++ rest).takeWhile Char.isDigit = ds :=
  congrArg Prod.fst (Json.digits_append hd hr)

lemma IsNumeral.not_blank (h : IsNumeral s n) : ∀ c ∈ s, isBlank c = false := by
  obtain ⟨sign, ds, rfl, hsign, -, hd, -⟩ := h
  intro c hc
  rcases List.mem_append.1 hc with hc | hc
  · rcases hsign with rfl | rfl
    · cases hc
    · rw [List.mem_singleton.1 hc]
      decide
  · exact not_isBlank_of_isDigit (hd c hc)

lemma IsNumeral.ne_nil (h : IsNumeral s n) : s ≠ [] := by
  obtain ⟨sign, ds, rfl, -, hne, -⟩ := h
  simp [hne]

lemma IsNumeral.unique (hs : IsNumeral s n) (ht : IsNumeral t m)
    (hrest : ∀ c ∈ rest.head?, c.isDigit = false) (htail : ∀ c ∈ tail.head?, c.isDigit = false)
    (h : s ++ rest = t ++ tail) : m = n ∧ rest = tail := by
  obtain ⟨sign, ds, rfl, hsign, hne, hd, rfl⟩ := hs
  obtain ⟨sign', es, rfl, hsign', hne', he, rfl⟩ := ht
  have hdigits (h : ds ++ rest = es ++ tail) : digitsValue es = digitsValue ds ∧ rest = tail := by
    have htake := congrArg (List.takeWhile Char.isDigit) h
    rw [takeWhile_digits hd hrest, takeWhile_digits he htail] at htake
    subst htake
    exact ⟨rfl, List.append_cancel_left h⟩
  have hplus {fs : List Char} (hf : AllDigits fs) (hne : fs ≠ []) (r r' : List Char) :
      fs ++ r ≠ '+' :: r' := by
    obtain ⟨c, fs, rfl⟩ := List.exists_cons_of_ne_nil hne
    intro hc
    obtain rfl := (List.cons.inj hc).1
    exact absurd (hf '+' List.mem_cons_self) (by decide)
  rcases hsign with rfl | rfl <;> rcases hsign' with rfl | rfl
  · exact hdigits h
  · exact absurd h (hplus hd hne rest _)
  · exact absurd h.symm (hplus he hne' tail _)
  · exact hdigits (List.cons.inj h).2

lemma trimStart_append {gap : List Char} (hgap : ∀ c ∈ gap, isBlank c = true)
    (hs : ∀ c ∈ s.head?, isBlank c = false) : trimStart (gap ++ s) = s := by
  rw [trimStart, List.dropWhile_append_of_pos hgap]
  cases s with
  | nil => rfl
  | cons c s => exact List.dropWhile_cons_of_neg (by simp [hs c rfl])

lemma IsNumeral.head (h : IsNumeral s n) (rest : List Char) :
    ∀ c ∈ (s ++ rest).head?, isBlank c = false := by
  obtain ⟨c, s, rfl⟩ := List.exists_cons_of_ne_nil h.ne_nil
  intro d hd
  obtain rfl := Option.some.inj hd
  exact h.not_blank _ List.mem_cons_self

lemma exists_tail (s : List Char) : ∃ tail, s = (trimStart s.reverse).reverse ++ tail ∧
    ∀ c ∈ tail, isBlank c = true := by
  refine ⟨(s.reverse.takeWhile isBlank).reverse, ?_, fun c hc => ?_⟩
  · rw [trimStart, ← List.reverse_append, List.takeWhile_append_dropWhile, List.reverse_reverse]
  · exact List.mem_takeWhile_imp (List.mem_reverse.1 hc)

lemma isNumeral_trim_iff (h : Leads s n rest) (m : ℕ) :
    IsNumeral (trim s) m ↔ m = n ∧ ∀ c ∈ rest, isBlank c = true := by
  obtain ⟨gap, numeral, rfl, hgap, hnumeral, hrest⟩ := h
  rw [trim, trimStart_append hgap (hnumeral.head rest)]
  constructor
  · intro htrim
    -- No digit is blank, so the numeral that is left ends where the first one does.
    obtain ⟨tail, htail, hblank⟩ := exists_tail (numeral ++ rest)
    have hend : ∀ c ∈ tail.head?, c.isDigit = false := by
      intro c hc
      rw [Bool.eq_false_iff]
      intro hdigit
      have hno := not_isBlank_of_isDigit hdigit
      rw [hblank c (List.mem_of_mem_head? hc)] at hno
      cases hno
    obtain ⟨rfl, rfl⟩ := hnumeral.unique htrim hrest hend htail
    exact ⟨rfl, hblank⟩
  · rintro ⟨rfl, hblank⟩
    have hhead : ∀ c ∈ numeral.reverse.head?, isBlank c = false := by
      intro c hc
      apply hnumeral.not_blank
      exact List.mem_reverse.1 (List.mem_of_mem_head? hc)
    rw [List.reverse_append, trimStart_append (by simpa using hblank) hhead, List.reverse_reverse]
    exact hnumeral

lemma leadingInteger_of_leads (h : Leads s n rest) : leadingInteger s = .ofNat n := by
  obtain ⟨gap, numeral, rfl, hgap, hnumeral, hrest⟩ := h
  have hhead := hnumeral.head rest
  obtain ⟨sign, ds, rfl, hsign, hne, hd, rfl⟩ := hnumeral
  have hread : leadingInteger.read false (ds ++ rest) = .ofNat (digitsValue ds) := by
    rw [leadingInteger.read, takeWhile_digits hd hrest]
    simp [hne, Number.ofDecimal_digits hd]
  rw [leadingInteger, trimStart_append hgap hhead]
  rcases hsign with rfl | rfl
  · obtain ⟨c, ds, rfl⟩ := List.exists_cons_of_ne_nil hne
    have hc : c.isDigit = true := hd c List.mem_cons_self
    split
    · rename_i r hr
      obtain rfl := (List.cons.inj hr).1
      exact absurd hc (by decide)
    · rename_i r hr
      obtain rfl := (List.cons.inj hr).1
      exact absurd hc (by decide)
    · exact hread
  · exact hread

lemma exists_digits {r : List Char} (h : (leadingInteger.read false r).isPositiveInteger = true) :
    ∃ ds rest, r = ds ++ rest ∧ ds ≠ [] ∧ AllDigits ds ∧ ∀ c ∈ rest.head?, c.isDigit = false := by
  refine ⟨r.takeWhile Char.isDigit, r.dropWhile Char.isDigit,
    List.takeWhile_append_dropWhile.symm, ?_, fun c hc => List.mem_takeWhile_imp hc, ?_⟩
  · intro hnil
    rw [leadingInteger.read, hnil] at h
    exact absurd h (by decide)
  · have hhead := List.head?_dropWhile_not Char.isDigit r
    intro c hc
    rw [hc] at hhead
    exact hhead

lemma not_isPositiveInteger_read (r : List Char) :
    (leadingInteger.read true r).isPositiveInteger = false := by
  rw [leadingInteger.read]
  split_ifs
  · rfl
  · exact Number.not_isPositiveInteger_ofDecimal _ _

lemma exists_leads (h : (leadingInteger s).isPositiveInteger = true) :
    ∃ n rest, Leads s n rest := by
  have hs : s = s.takeWhile isBlank ++ trimStart s := List.takeWhile_append_dropWhile.symm
  have hgap : ∀ c ∈ s.takeWhile isBlank, isBlank c = true := fun c hc => List.mem_takeWhile_imp hc
  rw [leadingInteger] at h
  split at h
  · rename_i r hr
    obtain ⟨ds, rest, rfl, hne, hd, hrest⟩ := exists_digits h
    rw [hr] at hs
    exact ⟨_, rest, _, '+' :: ds, hs, hgap, ⟨['+'], ds, rfl, .inr rfl, hne, hd, rfl⟩, hrest⟩
  · rename_i r hr
    rw [not_isPositiveInteger_read] at h
    cases h
  · obtain ⟨ds, rest, hr, hne, hd, hrest⟩ := exists_digits h
    rw [hr] at hs
    exact ⟨_, rest, _, ds, hs, hgap, ⟨[], ds, rfl, .inl rfl, hne, hd, rfl⟩, hrest⟩

inductive Lifetime (env : Environment) (name : String) (fallback : ℕ) : Number → Prop
  | unset : Record.get env name = .undefined ∨ Record.get env name = .str "" →
      Lifetime env name fallback (.ofNat fallback)
  | numeral {text : String} {n : ℕ} {rest : List Char} : Record.get env name = .str text →
      Leads text.toList n rest → 0 < n → Number.ofNat n ≠ .infinite false →
      Lifetime env name fallback (.ofNat n)

namespace Settings

variable {env : Environment} {name fallback : String} {seconds : ℕ} {n : Number}

def Complete (s : Settings) : Prop :=
  (s.dbHost.truthy = true ∧ s.dbName.truthy = true ∧ s.dbUser.truthy = true ∧
    s.secret.truthy = true) ∧
  ∃ p, s.schemePrefix.text = .ok p ∧ p.toList.any isBlank = false

lemma lifetime_of_unset (h : Record.get env name = .undefined ∨ Record.get env name = .str "")
    (hfallback : Leads fallback.toList seconds [])
    (hn : env.integerOr name fallback = .ok n) : n = .ofNat seconds := by
  have hvalue : env.valueOr name fallback = .str fallback := by
    rw [Environment.valueOr]
    rcases h with h | h <;> rw [h] <;> rfl
  rw [Environment.integerOr, hvalue] at hn
  rw [← leadingInteger_of_leads hfallback]
  exact (Except.ok.inj hn).symm

lemma lifetime_of_text {text : String} (h : Record.get env name = .str text) (hne : text ≠ "")
    (hn : env.integerOr name fallback = .ok n) : n = leadingInteger text.toList := by
  have hvalue : env.valueOr name fallback = .str text := by
    rw [Environment.valueOr, h]
    exact if_pos (decide_eq_true hne)
  rw [Environment.integerOr, hvalue] at hn
  exact (Except.ok.inj hn).symm

lemma lifetime_iff (henv : env.Textual) (hfallback : Leads fallback.toList seconds [])
    (hpos : (Number.ofNat seconds).isPositiveInteger = true)
    (hn : env.integerOr name fallback = .ok n) :
    n.isPositiveInteger = true ↔ Lifetime env name seconds n := by
  by_cases hunset : Record.get env name = .undefined ∨ Record.get env name = .str ""
  · obtain rfl := lifetime_of_unset hunset hfallback hn
    exact iff_of_true hpos (.unset hunset)
  · obtain ⟨hundefined, hempty⟩ := not_or.1 hunset
    obtain ⟨text, htext⟩ := (henv.get name).resolve_left hundefined
    obtain rfl := lifetime_of_text htext (by rintro rfl; exact hempty htext) hn
    constructor
    · intro h
      obtain ⟨k, rest, hleads⟩ := exists_leads h
      rw [leadingInteger_of_leads hleads] at h ⊢
      obtain ⟨hk, hfinite⟩ := Number.isPositiveInteger_ofNat.1 h
      exact .numeral htext hleads hk hfinite
    · intro h
      generalize hm : leadingInteger text.toList = m at h
      cases h with
      | unset h => exact absurd h hunset
      | numeral _ _ hk hfinite => exact Number.isPositiveInteger_ofNat.2 ⟨hk, hfinite⟩

lemma leads_decimal {ds : List Char} (hne : ds ≠ []) (hd : AllDigits ds) :
    Leads ds (digitsValue ds) [] :=
  ⟨[], ds, by simp, by simp, ⟨[], ds, rfl, .inl rfl, hne, hd, rfl⟩, by simp⟩

lemma isPositiveInteger_default {k : ℕ} (hk : 0 < k) (h : k ≤ 2 ^ 53) :
    (Number.ofNat k).isPositiveInteger = true := by
  apply Number.isPositiveInteger_ofNat.2
  refine ⟨hk, ?_⟩
  rw [Number.ofNat_eq h]
  simp

/-- An environment of texts is valid if the settings that it has to name are there, its scheme is a
word, and each lifetime that it names starts with the numeral of a positive integer which is not too
large to be a number; the lifetime is then the number of that integer, whatever the text goes on
with. The trimmed text is a numeral if it goes on with blanks only. -/
theorem lifetimes_read (henv : env.Textual) : ∃ s, load env = .ok s ∧
    (s.validate = .ok () ↔ s.Complete ∧
      Lifetime env "TOKENS_ACCESS_LIFETIME_SECONDS" 3600 s.accessLifetime ∧
      Lifetime env "TOKENS_REFRESH_LIFETIME_SECONDS" 2592000 s.refreshLifetime) ∧
    ∀ text n rest, Leads text n rest →
      ∀ m, IsNumeral (trim text) m ↔ m = n ∧ ∀ c ∈ rest, isBlank c = true := by
  obtain ⟨s, hs⟩ := loads_of_textual henv
  refine ⟨s, hs, ?_, fun text n rest h => isNumeral_trim_iff h⟩
  obtain ⟨port, access, refresh, -, haccess, hrefresh, rfl⟩ := load_eq_ok.1 hs
  have hhour : Leads "3600".toList 3600 [] := leads_decimal (by decide) (by simp [AllDigits])
  have hmonth : Leads "2592000".toList 2592000 [] := leads_decimal (by decide) (by simp [AllDigits])
  have hhourPos := isPositiveInteger_default (k := 3600) (by norm_num) (by norm_num)
  have hmonthPos := isPositiveInteger_default (k := 2592000) (by norm_num) (by norm_num)
  rw [validate_eq_ok, ← lifetime_iff henv hhour hhourPos haccess,
    ← lifetime_iff henv hmonth hmonthPos hrefresh, Complete]
  tauto

def halfSecond : Environment :=
  [("DB_HOST", .str "db"), ("DB_NAME", .str "app"), ("DB_USER", .str "app"),
    ("TOKENS_SECRET_KEY", .str "secret"), ("TOKENS_ACCESS_LIFETIME_SECONDS", .str " +1.5")]

theorem lifetimes_read_half : halfSecond.Textual ∧ ∃ s, load halfSecond = .ok s ∧
    s.validate = .ok () ∧ s.accessLifetime = .ofNat 1 ∧
    ¬ ∃ m, IsNumeral (trim " +1.5".toList) m := by
  have henv : halfSecond.Textual := by simp [Environment.Textual, halfSecond]
  have hleads : Leads " +1.5".toList 1 ".5".toList :=
    ⟨[' '], ['+', '1'], rfl, by simp [isBlank],
      ⟨['+'], ['1'], rfl, .inr rfl, by simp, by simp [AllDigits], rfl⟩, by simp⟩
  have hunset : Record.get halfSecond "TOKENS_REFRESH_LIFETIME_SECONDS" = .undefined := by rfl
  obtain ⟨s, hs, hvalid, htrim⟩ := lifetimes_read henv
  obtain ⟨port, access, refresh, -, haccess, hrefresh, rfl⟩ := load_eq_ok.1 hs
  have haccess : access = .ofNat 1 := by
    rw [lifetime_of_text rfl (by decide) haccess]
    exact leadingInteger_of_leads hleads
  have hrefresh : refresh = .ofNat 2592000 := by
    apply lifetime_of_unset (.inl hunset) _ hrefresh
    exact leads_decimal (by decide) (by simp [AllDigits])
  refine ⟨henv, _, hs, hvalid.2 ⟨⟨⟨rfl, rfl, rfl, rfl⟩, ?_⟩, ?_, ?_⟩, haccess, ?_⟩
  · exact ⟨"Bearer", rfl, by decide⟩
  · rw [haccess]
    refine .numeral rfl hleads one_pos ?_
    rw [Number.ofNat_eq (by norm_num)]
    simp
  · rw [hrefresh]
    exact .unset (.inl hunset)
  · rintro ⟨m, hm⟩
    have hblank := ((htrim _ _ _ hleads m).1 hm).2 '.' (by simp)
    exact absurd hblank (by decide)

end Settings

end AuthGate
