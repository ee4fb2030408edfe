import AuthGate.Proofs.Text.LowerCase
import AuthGate.Proofs.Token.Issue
import AuthGate.Settings

namespace AuthGate

lemma Number.isBinary_of_ofDecimal {negative : Bool} {ds : List Char} {e : ℤ} {q : ℚ}
    (h : ofDecimal negative ds e = .finite q) : IsBinary q := by
  rw [ofDecimal] at h
  split_ifs at h
  all_goals first
    | exact isBinary_of_ofRat h
    | cases h; exact isBinary_zero

namespace Environment

def Textual (env : Environment) : Prop := ∀ p ∈ env, ∃ s, p.2 = .str s

def Loads (env : Environment) : Prop := ∃ s, Settings.load env = .ok s

variable {env : Environment}

lemma Textual.get (h : env.Textual) (name : String) :
    Record.get env name = .undefined ∨ ∃ s, Record.get env name = .str s := by
  cases hl : List.lookup name env with
  | none =>
    rw [Record.get, hl]
    exact .inl rfl
  | some v =>
    obtain ⟨s, hs⟩ := h _ (Record.mem_of_lookup hl)
    exact .inr ⟨s, by rw [Record.get, hl, ← hs]; rfl⟩

lemma Textual.valueOr (h : env.Textual) (name fallback : String) :
    ∃ s, env.valueOr name fallback = .str s := by
  rw [Environment.valueOr]
  rcases h.get name with hv | ⟨s, hs⟩
  · exact ⟨fallback, by rw [hv]; rfl⟩
  · rw [hs]
    split_ifs
    · exact ⟨s, rfl⟩
    · exact ⟨fallback, rfl⟩

lemma valueOr_truthy {name fallback : String} (h : fallback ≠ "") :
    (env.valueOr name fallback).truthy = true := by
  rw [Environment.valueOr]
  split_ifs with hv
  · exact hv
  · simp [Value.truthy, h]

lemma Textual.integerOr (h : env.Textual) (name fallback : String) : ∃ n,
    env.integerOr name fallback = .ok n ∧ ∀ q, n = .finite q → Number.IsBinary q := by
  obtain ⟨s, hs⟩ := h.valueOr name fallback
  refine ⟨leadingInteger s.toList, by rw [Environment.integerOr, hs]; rfl, fun q hq => ?_⟩
  have hread (negative : Bool) (r : List Char) (h : leadingInteger.read negative r = .finite q) :
      Number.IsBinary q := by
    rw [leadingInteger.read] at h
    split_ifs at h
    exact Number.isBinary_of_ofDecimal h
  rw [leadingInteger] at hq
  split at hq <;> exact hread _ _ hq

end Environment

namespace Settings

variable {env : Environment} {s : Settings}

lemma load_eq_ok : load env = .ok s ↔ ∃ port access refresh,
    env.integerOr "DB_PORT" "5432" = .ok port ∧
    env.integerOr "TOKENS_ACCESS_LIFETIME_SECONDS" "3600" = .ok access ∧
    env.integerOr "TOKENS_REFRESH_LIFETIME_SECONDS" "2592000" = .ok refresh ∧
    s = { dbHost := env.valueOr "DB_HOST" ""
          dbPort := port
          dbName := env.valueOr "DB_NAME" ""
          dbUser := env.valueOr "DB_USER" ""
          dbPassword := env.valueOr "DB_PASSWORD" ""
          dbSsl := (Record.get env "DB_SSL").same (.str "true")
          secret := env.valueOr "TOKENS_SECRET_KEY" ""
          issuer := env.valueOr "TOKENS_ISSUER" "wishlist-backend"
          accessLifetime := access
          refreshLifetime := refresh
          schemePrefix := env.valueOr "AUTH_SCHEME_PREFIX" "Bearer"
          nodeEnv := env.valueOr "NODE_ENV" "development" } := by
  rw [load]
  simp only [bind, Except.bind_eq_ok]
  constructor
  · rintro ⟨port, hp, access, ha, refresh, hr, h⟩
    exact ⟨port, access, refresh, hp, ha, hr, (Except.ok.inj h).symm⟩
  · rintro ⟨port, access, refresh, hp, ha, hr, rfl⟩
    exact ⟨port, hp, access, ha, refresh, hr, rfl⟩

lemma loads_of_textual (h : env.Textual) : env.Loads := by
  obtain ⟨port, hp, -⟩ := h.integerOr "DB_PORT" "5432"
  obtain ⟨access, ha, -⟩ := h.integerOr "TOKENS_ACCESS_LIFETIME_SECONDS" "3600"
  obtain ⟨refresh, hr, -⟩ := h.integerOr "TOKENS_REFRESH_LIFETIME_SECONDS" "2592000"
  exact ⟨_, load_eq_ok.2 ⟨port, access, refresh, hp, ha, hr, rfl⟩⟩

lemma validate_eq_ok : s.validate = .ok () ↔
    (s.dbHost.truthy = true ∧ s.dbName.truthy = true ∧ s.dbUser.truthy = true ∧
      s.secret.truthy = true) ∧
    s.accessLifetime.isPositiveInteger = true ∧ s.refreshLifetime.isPositiveInteger = true ∧
    ∃ p, s.schemePrefix.text = .ok p ∧ p.toList.any Text.isBlank = false := by
  have hmissing : (required.filter fun name => !(Record.get s.fields name).truthy).isEmpty = true ↔
      s.dbHost.truthy = true ∧ s.dbName.truthy = true ∧ s.dbUser.truthy = true ∧
        s.secret.truthy = true := by
    have hhost : Record.get s.fields "dbHost" = s.dbHost := rfl
    have hname : Record.get s.fields "dbName" = s.dbName := rfl
    have huser : Record.get s.fields "dbUser" = s.dbUser := rfl
    have hsecret : Record.get s.fields "tokensSecretKey" = s.secret := rfl
    simp [required, List.filter_eq_nil_iff, hhost, hname, huser, hsecret]
  have hlifetime (n : Number) : (Token.lifetime? (.num n)).isNone = !n.isPositiveInteger := by
    rw [Token.lifetime?]
    split_ifs with h <;> simp [h]
  have haccess : Record.get s.fields "tokensAccessLifetimeSeconds" = .num s.accessLifetime := rfl
  have hrefresh : Record.get s.fields "tokensRefreshLifetimeSeconds" = .num s.refreshLifetime := rfl
  have hprefix : Record.get s.fields "authSchemePrefix" = s.schemePrefix := rfl
  rw [← hmissing, validate, check]
  simp only [haccess, hrefresh, hprefix, hlifetime, bind, Except.bind, throw, throwThe,
    MonadExceptOf.throw]
  simp only [Bool.not_eq_true', ← Bool.not_eq_true]
  split_ifs with hm ha hr
  · simp only [hm, ha, hr, true_and]
    cases s.schemePrefix.text with
    | error f => simp
    | ok p =>
      simp only [Except.ok.injEq, exists_eq_left']
      cases p.toList.any Text.isBlank with
      | true => simp
      | false => exact iff_of_true rfl Bool.false_ne_true
  · simp [hr]
  · simp [ha]
  · exact ⟨False.elim, fun h => hm h.1⟩

lemma text_ne_of_truthy {v : Value} {text : String} (h : v = .str text) (hv : v.truthy = true) :
    text ≠ "" := by
  rintro rfl
  simp [h, Value.truthy] at hv

lemma regular_auth (h : env.Textual) (hs : load env = .ok s) (hv : s.validate = .ok ()) :
    ∃ secret issuer, Token.Regular s.auth secret issuer s.accessLifetime s.refreshLifetime ∧
      (∀ q, s.accessLifetime = .finite q → Number.IsBinary q) ∧
        ∀ q, s.refreshLifetime = .finite q → Number.IsBinary q := by
  obtain ⟨⟨-, -, -, hsecret⟩, haccess, hrefresh, -⟩ := validate_eq_ok.1 hv
  obtain ⟨port, access, refresh, -, ha, hr, rfl⟩ := load_eq_ok.1 hs
  obtain ⟨secret, hse⟩ := h.valueOr "TOKENS_SECRET_KEY" ""
  obtain ⟨issuer, hi⟩ := h.valueOr "TOKENS_ISSUER" "wishlist-backend"
  obtain ⟨access', ha', hab⟩ := h.integerOr "TOKENS_ACCESS_LIFETIME_SECONDS" "3600"
  obtain ⟨refresh', hr', hrb⟩ := h.integerOr "TOKENS_REFRESH_LIFETIME_SECONDS" "2592000"
  obtain rfl := Except.ok.inj (ha.symm.trans ha')
  obtain rfl := Except.ok.inj (hr.symm.trans hr')
  have hne := text_ne_of_truthy hse hsecret
  exact ⟨secret, issuer, ⟨hne, hse, hi, rfl, rfl, haccess, hrefresh⟩, hab, hrb⟩

structure Reliable (a : AuthSettings) (secret issuer asked : String) (access refresh : Number) :
    Prop extends Token.Regular a secret issuer access refresh where
  issuer_ne : issuer ≠ ""
  scheme_eq : a.schemePrefix = .str asked
  scheme_word : Text.IsWord asked.toList

lemma reliable_auth (h : env.Textual) (hs : load env = .ok s) (hv : s.validate = .ok ()) :
    ∃ secret issuer asked,
      Reliable s.auth secret issuer asked s.accessLifetime s.refreshLifetime := by
  obtain ⟨secret, issuer, hregular, -, -⟩ := regular_auth h hs hv
  obtain ⟨-, -, -, p, hp, hblank⟩ := validate_eq_ok.1 hv
  obtain ⟨port, access, refresh, -, -, -, hload⟩ := load_eq_ok.1 hs
  have hissuer : s.issuer.truthy = true := by
    rw [hload]
    exact Environment.valueOr_truthy (by decide)
  have hscheme : s.schemePrefix.truthy = true := by
    rw [hload]
    exact Environment.valueOr_truthy (by decide)
  obtain ⟨asked, hasked⟩ : ∃ asked, s.schemePrefix = .str asked := by
    rw [hload]
    exact h.valueOr "AUTH_SCHEME_PREFIX" "Bearer"
  obtain rfl : asked = p := by
    rw [hasked] at hp
    exact Except.ok.inj hp
  have hne := text_ne_of_truthy hasked hscheme
  exact ⟨secret, issuer, asked, hregular, text_ne_of_truthy hregular.issuer_eq hissuer, hasked,
    Text.isWord_iff.2 ⟨by simpa using hne, hblank⟩⟩

end Settings

end AuthGate
