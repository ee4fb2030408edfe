import AuthGate.Proofs.Token.Issue

namespace AuthGate.Token

inductive Subject where
  | access (id : String)
  | refresh (id : String) (tokenId : ℕ)

namespace Subject

def audience : Subject → String
  | access _ => accessAudience
  | refresh .. => refreshAudience

def data : Subject → Record
  | access id => [("id", .str id)]
  | refresh id tokenId => [("id", .str id), ("token_id", .num (.finite tokenId))]

def id : Subject → String
  | access id => id
  | refresh id _ => id

def claims (iat exp : Number) : Subject → Claims
  | access id => .access ⟨id, iat, exp⟩
  | refresh id tokenId => .refresh ⟨⟨id, iat, exp⟩, tokenId⟩

def read : Subject → Value → Except Failure (Option Claims)
  | access _, v => (AccessClaims.ofPayload v).map (some ∘ .access)
  | refresh .., v => (RefreshClaims.ofPayload v).map (some ∘ .refresh)

def Valid : Subject → Prop
  | access id => id ≠ ""
  | refresh id tokenId => id ≠ "" ∧ 0 < tokenId ∧ tokenId ≤ Number.maxSafe

end Subject

def registered : List String := ["aud", "iat", "exp", "iss"]

/-- Data of a caller: in any order those of the subject, and maybe others under registered names. -/
structure Gives (data : Record) (x : Subject) : Prop where
  distinct : data.keys.Nodup
  own : (data.filter fun p => p.1 ∉ registered).Perm x.data

namespace Codec

variable {c : Codec} {x : Subject} {data : Record} {m : Moment} {iat exp now : ℚ} {issuer : String}

section

variable {audience issuedAt expiresAt : Value}

lemma mem_payload (h : Gives data x) {p : String × Value} :
    p ∈ c.payload data audience issuedAt expiresAt ↔ p ∈ x.data ∨
      p ∈ [("aud", audience), ("iat", issuedAt), ("exp", expiresAt), ("iss", c.issuer)] := by
  have hn : (Record.keys [("aud", audience), ("iat", issuedAt), ("exp", expiresAt),
      ("iss", c.issuer)]).Nodup := by
    have h : registered.Nodup := by decide
    exact h
  have hown : p ∈ data ∧ p.1 ∉ registered ↔ p ∈ x.data := by
    rw [← h.own.mem_iff, List.mem_filter, decide_eq_true_eq]
  -- What the caller gives under a registered name is written over; the rest is the subject's.
  rw [payload, Record.mem_merge h.distinct hn, or_comm]
  exact or_congr_left hown

lemma nodup_payload (h : Gives data x) :
    (c.payload data audience issuedAt expiresAt).keys.Nodup :=
  Record.nodup_keys_merge _ h.distinct

lemma get_payload (h : Gives data x) {k : String} {v : Value} (hv : (k, v) ∈ x.data ∨
      (k, v) ∈ [("aud", audience), ("iat", issuedAt), ("exp", expiresAt), ("iss", c.issuer)]) :
    (c.payload data audience issuedAt expiresAt).get k = v :=
  Record.get_of_mem (nodup_payload h) ((mem_payload h).2 hv)

lemma checkClaims_of_gives (h : Gives data x) (audience : Value) (issuedAt expiresAt : Number) :
    checkClaims (c.payload data audience (.num issuedAt) (.num expiresAt)) = .ok () := by
  rw [checkClaims_eq_ok]
  intro p hp
  rcases (mem_payload h).1 hp with hp | hp
  · cases x <;> simp only [Subject.data, List.mem_cons, List.not_mem_nil, or_false] at hp
    · rw [hp]
      rfl
    · rcases hp with rfl | rfl <;> rfl
  · simp only [List.mem_cons, List.not_mem_nil, or_false] at hp
    rcases hp with rfl | rfl | rfl | rfl <;> rfl

end

def stamps (c : Codec) (x : Subject) (iat exp : ℚ) : Record :=
  [("aud", .str x.audience), ("iat", .num (.finite iat)), ("exp", .num (.finite exp)),
    ("iss", c.issuer)]

def signed (c : Codec) (data : Record) (x : Subject) (iat exp : ℚ) : Record :=
  data.merge (c.stamps x iat exp)

lemma mem_signed (h : Gives data x) {p : String × Value} :
    p ∈ c.signed data x iat exp ↔ p ∈ x.data ∨ p ∈ c.stamps x iat exp :=
  mem_payload h

lemma nodup_signed (h : Gives data x) : (c.signed data x iat exp).keys.Nodup :=
  nodup_payload h

lemma get_signed (h : Gives data x) {k : String} {v : Value}
    (hv : (k, v) ∈ x.data ∨ (k, v) ∈ c.stamps x iat exp) : (c.signed data x iat exp).get k = v :=
  get_payload h hv

lemma key_signed (h : Gives data x) {k : String} (hk : k ∈ (c.signed data x iat exp).keys) :
    k ∈ "id" :: "token_id" :: registered := by
  obtain ⟨p, hp, rfl⟩ := List.mem_map.1 hk
  rcases (mem_signed h).1 hp with hp | hp
  · cases x <;> simp only [Subject.data, List.mem_cons, List.not_mem_nil, or_false] at hp
    · simp [hp]
    · rcases hp with rfl | rfl <;> simp
  · exact List.mem_cons_of_mem _ (List.mem_cons_of_mem _ (List.mem_map_of_mem hp))

lemma nbf_signed (h : Gives data x) : (c.signed data x iat exp).get "nbf" = .undefined :=
  Record.get_eq_undefined fun hk => absurd (key_signed h hk) (by decide)

lemma checkClaims_signed (h : Gives data x) : checkClaims (c.signed data x iat exp) = .ok () :=
  checkClaims_of_gives h _ _ _

lemma readable_signed (h : Gives data x) (hx : x.Valid) (hi : c.issuer = .str issuer)
    (hiat : Number.IsBinary iat) (hexp : Number.IsBinary exp) :
    Json.Readable (.obj (c.signed data x iat exp)) := by
  have hindex : ∀ k ∈ "id" :: "token_id" :: registered, arrayIndex? k = none := by decide
  refine Json.readable_obj (fun k hk => hindex k (key_signed h hk)) (nodup_signed h) fun p hp => ?_
  rcases (mem_signed h).1 hp with hp | hp
  · cases x with
    | access id =>
      obtain rfl := List.mem_singleton.1 hp
      trivial
    | refresh id tokenId =>
      simp only [Subject.data, List.mem_cons, List.not_mem_nil, or_false] at hp
      rcases hp with rfl | rfl
      · trivial
      · exact Number.isBinary_natCast (hx.2.2.trans (by decide))
  · simp only [stamps, hi, List.mem_cons, List.not_mem_nil, or_false] at hp
    rcases hp with rfl | rfl | rfl | rfl
    · trivial
    · exact hiat
    · exact hexp
    · trivial

lemma decode_audience (x : Subject) (token : String) :
    c.decode m token (.str x.audience) = (c.payloadFor m token (.str x.audience)).bind x.read := by
  have haccess : Value.same (.str accessAudience) (.str accessAudience) = true := by decide
  have hrefresh : Value.same (.str refreshAudience) (.str refreshAudience) = true := by decide
  have hother : ¬ Value.same (.str refreshAudience) (.str accessAudience) = true := by decide
  cases x with
  | access id =>
    rw [Subject.audience, decode, if_pos haccess, decodeAccess]
    cases c.payloadFor m token (.str accessAudience) <;> rfl
  | refresh id tokenId =>
    rw [Subject.audience, decode, if_neg hother, if_pos hrefresh, decodeRefresh]
    cases c.payloadFor m token (.str refreshAudience) <;> rfl

lemma read_signed (h : Gives data x) (hx : x.Valid) :
    x.read (.obj (c.signed data x iat exp)) =
      .ok (some (x.claims (.finite iat) (.finite exp))) := by
  have hiat : (c.signed data x iat exp).get "iat" = .num (.finite iat) :=
    get_signed h (.inr (by simp [stamps]))
  have hexp : (c.signed data x iat exp).get "exp" = .num (.finite exp) :=
    get_signed h (.inr (by simp [stamps]))
  have hid : (c.signed data x iat exp).get "id" = .str x.id :=
    get_signed h (.inl (by cases x <;> simp [Subject.data, Subject.id]))
  cases x with
  | access id =>
    exact Except.map_eq_ok.2 ⟨⟨id, _, _⟩, AccessClaims.ofPayload_eq_ok.2 ⟨hid, hx, hiat, hexp⟩, rfl⟩
  | refresh id tokenId =>
    have htoken : (c.signed data (.refresh id tokenId) iat exp).get "token_id" =
        .num (.finite tokenId) := get_signed h (.inl (by simp [Subject.data]))
    exact Except.map_eq_ok.2 ⟨⟨⟨id, _, _⟩, tokenId⟩, RefreshClaims.ofPayload_eq_ok.2
      ⟨AccessClaims.ofPayload_eq_ok.2 ⟨hid, hx.1, hiat, hexp⟩, htoken, hx.2⟩, rfl⟩

end Codec

lemma add_natCast {m n : ℕ} (h : m + n ≤ Number.maxSafe) :
    (Number.finite m).add (.finite n) = .finite (m + n : ℕ) := by
  have hb : Number.IsBinary ((m + n : ℕ) : ℚ) := Number.isBinary_natCast (h.trans (by decide))
  rw [← Number.ofRat_of_isBinary hb, Nat.cast_add]
  rfl

lemma isPositiveInteger_natCast {n : ℕ} (h : 0 < n) :
    (Number.finite n).isPositiveInteger = true := by
  have hpos : (0 : ℚ) < n := Nat.cast_pos.2 h
  have hlt : Number.lt .zero (.finite n) = true := decide_eq_true hpos
  have hint : (Number.finite n).isInteger = true := decide_eq_true (Rat.den_natCast n)
  rw [Number.isPositiveInteger, hint, hlt]
  rfl

section

variable {t : Issuer} {issuer : String} {x : Subject} {data : Record} {start life : ℕ} {m : Moment}

lemma create_signed (hk : t.codec.isKeyed = true) (hn : t.codec.isNamed = true)
    (hdata : Gives data x) (hstart : 1 ≤ start) (hlife : 0 < life)
    (hsafe : start + life ≤ Number.maxSafe) {lifetime : Value}
    (hl : (if lifetime.isUndefined then t.accessLifetime else lifetime) = .num (.finite life))
    (hm : m.clock.seconds = .ok (.finite start)) :
    t.create m data (.str x.audience) lifetime =
      .ok (t.codec.sign (t.codec.signed data x start (start + life : ℕ))) := by
  have h0 : (start : ℚ) ≠ 0 := Nat.cast_ne_zero.2 (Nat.one_le_iff_ne_zero.1 hstart)
  have hpayload : t.codec.payload data (.str x.audience) (.num (.finite start))
      (.num ((Number.finite start).add (.finite life))) =
      t.codec.signed data x start (start + life : ℕ) := by
    rw [add_natCast hsafe]
    rfl
  have hc : Codec.checkClaims (t.codec.payload data (.str x.audience) (.num (.finite start))
      (.num ((Number.finite start).add (.finite life)))) = .ok () := by
    rw [hpayload]
    exact Codec.checkClaims_signed hdata
  rw [Issuer.create_eq_sign hk hn hl (isPositiveInteger_natCast hlife) hm h0 hc, hpayload]

variable {now : ℚ} {exp : ℕ} (hk : t.codec.isKeyed = true) (hn : t.codec.isNamed = true)
  (hi : t.codec.issuer = .str issuer) (hdata : Gives data x) (hx : x.Valid)
  (hstart : start ≤ Number.maxSafe) (hexp : exp ≤ Number.maxSafe) (h0 : now ≠ 0)
  (hm : m.clock.seconds = .ok (.finite now))

include hk hn hi hdata hx hstart hexp h0 hm

lemma decode_before (hlt : now < exp) :
    t.codec.decode m (t.codec.sign (t.codec.signed data x start exp)) (.str x.audience) =
      .ok (some (x.claims (.finite start) (.finite exp))) := by
  have hr : Json.Readable (.obj (t.codec.signed data x start exp)) :=
    Codec.readable_signed hdata hx hi (Number.isBinary_natCast (hstart.trans (by decide)))
      (Number.isBinary_natCast (hexp.trans (by decide)))
  have hiss : (t.codec.signed data x start exp).get "iss" = t.codec.issuer :=
    Codec.get_signed hdata (.inr (by simp [Codec.stamps]))
  have haud : (t.codec.signed data x start exp).get "aud" = .str x.audience :=
    Codec.get_signed hdata (.inr (by simp [Codec.stamps]))
  have hend : (t.codec.signed data x start exp).get "exp" = .num (.finite exp) :=
    Codec.get_signed hdata (.inr (by simp [Codec.stamps]))
  rw [Codec.decode_audience, Codec.payloadFor_sign hk hn hr (Issuer.now_eq hm h0)
    (Codec.judge_of_lasting hi (Codec.nbf_signed hdata) hend hlt hiss) haud]
  exact Codec.read_signed hdata hx

lemma decode_after (hle : exp ≤ now) :
    t.codec.decode m (t.codec.sign (t.codec.signed data x start exp)) (.str x.audience) =
      .error (.token .expired "Token has expired" (some Objection.expired.failure)) := by
  have hr : Json.Readable (.obj (t.codec.signed data x start exp)) :=
    Codec.readable_signed hdata hx hi (Number.isBinary_natCast (hstart.trans (by decide)))
      (Number.isBinary_natCast (hexp.trans (by decide)))
  have hend : (t.codec.signed data x start exp).get "exp" = .num (.finite exp) :=
    Codec.get_signed hdata (.inr (by simp [Codec.stamps]))
  rw [Codec.decode_audience, Codec.payloadFor_expired hk hn hr (Issuer.now_eq hm h0)
    (Codec.judge_of_expired (Codec.nbf_signed hdata) hend hle)]
  rfl

end

/-- A token that is made for a lifetime of whole seconds is decoded to the claims of its subject in
every second before its end, and refused as expired from then on. -/
theorem decode_create {settings : AuthSettings} {t : Issuer} {secret issuer : String} {x : Subject}
    {data : Record} {start life : ℕ} {lifetime : Value} {made read : Moment} {now : ℚ}
    (hsecret : settings.secret = .str secret) (hne : secret ≠ "")
    (hissuer : settings.issuer = .str issuer) (ht : Issuer.make? settings = .ok t) (hx : x.Valid)
    (hdata : Gives data x) (hstart : 1 ≤ start) (hlife : 0 < life)
    (hsafe : start + life ≤ Number.maxSafe)
    (hl : (if lifetime.isUndefined then t.accessLifetime else lifetime) = .num (.finite life))
    (hmade : made.clock.seconds = .ok (.finite start)) (h1 : 1 ≤ now)
    (hread : read.clock.seconds = .ok (.finite now)) :
    ∃ token, t.create made data (.str x.audience) lifetime = .ok token ∧
      (now < (start + life : ℕ) → t.codec.decode read token (.str x.audience) =
        .ok (some (x.claims (.finite start) (.finite (start + life : ℕ))))) ∧
      ((start + life : ℕ) ≤ now → t.codec.decode read token (.str x.audience) =
        .error (.token .expired "Token has expired" (some Objection.expired.failure))) := by
  obtain ⟨hk, hn, hi, -, -⟩ := Issuer.make?_texts hsecret hne hissuer ht
  have h0 : now ≠ 0 := (zero_lt_one.trans_le h1).ne'
  have hle : start ≤ Number.maxSafe := (Nat.le_add_right start life).trans hsafe
  exact ⟨_, create_signed hk hn hdata hstart hlife hsafe hl hmade,
    decode_before hk hn hi hdata hx hle hsafe h0 hread,
    decode_after hk hn hi hdata hx hle hsafe h0 hread⟩

def greedyData : Record :=
  [("exp", .str "never"), ("token_id", .num (.finite (7 : ℕ))), ("aud", .str accessAudience),
    ("id", .str "Zoë \"1\"\n"), ("iss", .num (.finite 5))]

lemma gives_greedyData : Gives greedyData (.refresh "Zoë \"1\"\n" 7) := by
  have hown : greedyData.filter (fun p => p.1 ∉ registered) =
      [("token_id", .num (.finite (7 : ℕ))), ("id", .str "Zoë \"1\"\n")] := rfl
  refine ⟨by decide, ?_⟩
  rw [hown]
  exact List.Perm.swap ..

def secondsMoment (s : ℕ) : Moment := ⟨.reads (.finite (1000 * s)), .finite 0, false⟩

theorem decode_create_greedy :
    ∃ t token, Issuer.make? sampleSettings = .ok t ∧
      t.create (secondsMoment 1700000000) greedyData (.str refreshAudience) (.num (.finite 60)) =
        .ok token ∧
      t.codec.decode (secondsMoment 1700000059) token (.str refreshAudience) =
        .ok (some (.refresh ⟨⟨"Zoë \"1\"\n", .finite 1700000000, .finite 1700000060⟩, 7⟩)) ∧
      t.codec.decode (secondsMoment 1700000060) token (.str refreshAudience) =
        .error (.token .expired "Token has expired" (some Objection.expired.failure)) := by
  have hclock (s : ℕ) (h : Number.seconds (.finite (1000 * s)) = .finite s) :
      (secondsMoment s).clock.seconds = .ok (.finite s) := congrArg Except.ok h
  have hvalid : Subject.Valid (.refresh "Zoë \"1\"\n" 7) := ⟨by decide, by decide, by decide⟩
  have hstart := hclock 1700000000 (by decide +kernel)
  have hminute : (if (Value.num (.finite (60 : ℕ))).isUndefined then Value.num (.finite 3600)
    else .num (.finite (60 : ℕ))) = .num (.finite (60 : ℕ)) := rfl
  have hgood (now : ℕ) (h1 : 1 ≤ now)
      (hnow : Number.seconds (.finite (1000 * now)) = .finite now) :=
    decode_create rfl (by decide) rfl make?_sampleSettings hvalid gives_greedyData (by decide)
      (by decide) (by decide) hminute hstart (Nat.one_le_cast.2 h1) (hclock now hnow)
  obtain ⟨token, hcreate, hbefore, -⟩ := hgood 1700000059 (by decide) (by decide +kernel)
  obtain ⟨token', hcreate', -, hafter⟩ := hgood 1700000060 (by decide) (by decide +kernel)
  obtain rfl := Except.ok.inj (hcreate.symm.trans hcreate')
  exact ⟨_, token, make?_sampleSettings, hcreate, hbefore (by norm_num), hafter (by norm_num)⟩

end AuthGate.Token
