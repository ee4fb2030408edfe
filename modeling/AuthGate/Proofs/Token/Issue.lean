import AuthGate.Proofs.Token.Refusal
import AuthGate.Token.Pair

namespace AuthGate.Token

namespace Codec

variable {c : Codec} {m : Moment} {now : ℚ}

lemma checkClaims_eq_ok {r : Record} :
    checkClaims r = .ok () ↔ ∀ p ∈ r, checkClaim p.1 p.2 = .ok () := by
  induction r with
  | nil => simp [checkClaims]
  | cons p r ih =>
    obtain ⟨k, v⟩ := p
    rw [List.forall_mem_cons, ← ih, checkClaims]
    cases checkClaim k v with
    | error f => simp
    | ok u => simp

lemma encode_eq_ok {wall iat exp : Number} {data : Record} {audience : Value}
    (hk : c.isKeyed = true) (hn : c.isNamed = true) (hiat : iat.isBlank = false)
    (hc : checkClaims (c.payload data audience (.num iat) (.num exp)) = .ok ()) :
    c.encode wall data audience (.num iat) (.num exp) =
      .ok (c.sign (c.payload data audience (.num iat) (.num exp))) := by
  have ht : (Value.num iat).truthy = true := by simp [Value.truthy, hiat]
  rw [encode]
  simp only [hk, hn, hc, ht, Bool.not_true, Bool.false_and, Bool.false_eq_true, if_false, if_true]

lemma payloadFor_sign {r : Record} {audience : String} {s : Number} (hk : c.isKeyed = true)
    (hn : c.isNamed = true) (hr : Json.Readable (.obj r)) (hs : Codec.now m.clock m.wall = .ok s)
    (hj : c.judge s (.obj r) = .ok ()) (ha : r.get "aud" = .str audience) :
    c.payloadFor m (c.sign r) (.str audience) = .ok (.obj r) :=
  payloadFor_eq_ok.2 ⟨verify_eq_ok.2 ⟨s, hs,
    inspect_eq_ok.2 ⟨⟨_, _, sign_eq c r ▸ opens_wrap hk hn hr⟩, hj⟩, rfl⟩, ha⟩

lemma payload_eq {data : Record} {audience iat exp : Value}
    (hd : (data.keys ++ ["aud", "iat", "exp", "iss"]).Nodup) :
    c.payload data audience iat exp =
      data ++ [("aud", audience), ("iat", iat), ("exp", exp), ("iss", c.issuer)] := by
  refine Record.merge_new (fun k hk => ?_) hd
  have hall : ∀ k ∈ ["aud", "iat", "exp", "iss"], arrayIndex? k = none := by decide
  exact hall k hk

lemma checkClaims_payload {data : Record} {audience : Value} {iat exp : Number}
    (hd : (data.keys ++ ["aud", "iat", "exp", "iss"]).Nodup)
    (hc : ∀ p ∈ data, checkClaim p.1 p.2 = .ok ()) :
    checkClaims (c.payload data audience (.num iat) (.num exp)) = .ok () := by
  rw [payload_eq hd, checkClaims_eq_ok]
  intro p hp
  rcases List.mem_append.1 hp with hp | hp
  · exact hc p hp
  · simp only [List.mem_cons, List.not_mem_nil, or_false] at hp
    rcases hp with rfl | rfl | rfl | rfl <;> rfl

lemma exists_encode {wall iat exp : Number} {data : Record} {audience : Value}
    (hk : c.isKeyed = true) (hn : c.isNamed = true)
    (hc : checkClaims (c.payload data audience (.num iat) (.num exp)) = .ok ()) :
    ∃ token, c.encode wall data audience (.num iat) (.num exp) = .ok token := by
  rw [encode]
  simp only [hk, hn, hc, Bool.not_true, Bool.false_and, Bool.false_eq_true, if_false]
  exact ⟨_, rfl⟩

lemma judge_of_lasting {r : Record} {exp : ℚ} {i : String} (hi : c.issuer = .str i)
    (hn : r.get "nbf" = .undefined) (he : r.get "exp" = .num (.finite exp)) (hlt : now < exp)
    (hs : r.get "iss" = c.issuer) : c.judge (.finite now) (.obj r) = .ok () := by
  refine judge_eq_ok.2 ⟨by simp, checkStart_eq_ok.2 (.inl hn), checkExpiry_eq_ok.2 ?_, ?_⟩
  · refine .inr ⟨_, he, (le_eq_false_iff (by simp) (by simp)).2 ?_⟩
    exact decide_eq_true hlt
  · rw [Value.field, hs, hi]
    by_cases he : i = ""
    · rw [he]
      rfl
    · exact (acceptsIssuer_str he).2 rfl

lemma judge_of_expired {r : Record} {exp : ℚ} (hn : r.get "nbf" = .undefined)
    (he : r.get "exp" = .num (.finite exp)) (hle : exp ≤ now) :
    c.judge (.finite now) (.obj r) = .error .expired := by
  have hlt : (Number.finite exp).le (.finite now) = true :=
    (not_lt_iff_le (by simp) (by simp)).1 (decide_eq_false hle.not_gt)
  have hs : checkStart (.obj r) (.finite now) = .ok () := checkStart_eq_ok.2 (.inl hn)
  have hx : checkExpiry (.obj r) (.finite now) = .error .expired := by
    rw [checkExpiry]
    simp only [Value.field, he, hlt, if_true]
  rw [judge]
  simp only [Value.isNull, hs, hx, Bool.false_eq_true, if_false, bind, Except.bind]

lemma payloadFor_expired {r : Record} {audience : String} {s : Number} (hk : c.isKeyed = true)
    (hn : c.isNamed = true) (hr : Json.Readable (.obj r)) (hs : Codec.now m.clock m.wall = .ok s)
    (hj : c.judge s (.obj r) = .error .expired) : c.payloadFor m (c.sign r) (.str audience) =
      .error (.token .expired "Token has expired" (some Objection.expired.failure)) := by
  have hi : c.inspect s (c.sign r) = .error .expired := by
    rw [sign_eq, (opens_wrap hk hn hr).inspect]
    simp only [Segments.openText, hj]
    rfl
  exact payloadFor_of_verify (verify_of_expired hs hi)

end Codec

lemma isBinary_seconds {clock : Clock} {now : ℚ} (h : clock.seconds = .ok (.finite now)) :
    Number.IsBinary now := by
  unfold Clock.seconds Clock.ms at h
  cases clock with
  | raises f => cases h
  | reads n =>
    have h : n.seconds = .finite now := Except.ok.inj h
    cases n with
    | finite q =>
      rw [Number.seconds] at h
      split_ifs at h with hq
      · obtain rfl := Number.finite.inj h
        exact Number.isBinary_zero.floor
      · cases hx : Number.ofRat (q / 1000) with
        | finite x =>
          rw [hx] at h
          obtain rfl := Number.finite.inj h
          exact (Number.isBinary_of_ofRat hx).floor
        | _ => rw [hx] at h; cases h
    | _ => cases h

lemma finite_of_isPositiveInteger {n : Number} (h : n.isPositiveInteger = true) :
    ∃ q : ℚ, n = .finite q ∧ 0 < q := by
  simp only [Number.isPositiveInteger, Bool.and_eq_true] at h
  cases n with
  | finite q => exact ⟨q, rfl, of_decide_eq_true h.2⟩
  | negZero => exact absurd h.2 (by decide)
  | _ => exact absurd h.1 (by simp [Number.isInteger])

def Lasts (now : ℚ) (lifetime : Number) (exp : ℚ) : Prop :=
  (Number.finite now).add lifetime = .finite exp ∧ now < exp

lemma Lasts.isBinary {now exp : ℚ} {lifetime : Number} (h : Lasts now lifetime exp)
    (hl : lifetime.isPositiveInteger = true) : Number.IsBinary exp := by
  obtain ⟨q, rfl, -⟩ := finite_of_isPositiveInteger hl
  exact Number.isBinary_of_ofRat h.1

structure Issuer.Sound (t : Issuer) (issuer : String) (access refresh : Number) : Prop where
  keyed : t.codec.isKeyed = true
  named : t.codec.isNamed = true
  issuer : t.codec.issuer = .str issuer
  accessLifetime : t.accessLifetime = .num access
  refreshLifetime : t.refreshLifetime = .num refresh
  access_pos : access.isPositiveInteger = true
  refresh_pos : refresh.isPositiveInteger = true

namespace Issuer

variable {t : Issuer} {issuer : String} {access refresh : Number} {m : Moment} {now : ℚ}

def claimsPayload (t : Issuer) (data : Record) (audience : String) (now exp : Number) : Record :=
  data ++ [("aud", .str audience), ("iat", .num now), ("exp", .num exp), ("iss", t.codec.issuer)]

lemma create_eq_sign {data : Record} {audience : String} {lifetime : Value} {n : Number}
    (hk : t.codec.isKeyed = true) (hn : t.codec.isNamed = true)
    (hl : (if lifetime.isUndefined then t.accessLifetime else lifetime) = .num n)
    (hpos : n.isPositiveInteger = true) (hm : m.clock.seconds = .ok (.finite now)) (h0 : now ≠ 0)
    (hc : Codec.checkClaims (t.codec.payload data (.str audience) (.num (.finite now))
      (.num ((Number.finite now).add n))) = .ok ()) :
    t.create m data (.str audience) lifetime = .ok (t.codec.sign (t.codec.payload data
      (.str audience) (.num (.finite now)) (.num ((Number.finite now).add n)))) := by
  have hlife : lifetime? (.num n) = some n := by simp [lifetime?, hpos]
  have hblank : (Number.finite now).isBlank = false := by
    simp [Number.isBlank, Number.isNaN, Number.isZero, h0]
  rw [create]
  simp only [hl, hlife, hm, bind, Except.bind]
  rw [Codec.encode_eq_ok hk hn hblank hc]

lemma create_eq_ok {data : Record} {audience : String} {lifetime : Value} {n : Number}
    (hk : t.codec.isKeyed = true) (hn : t.codec.isNamed = true)
    (hl : (if lifetime.isUndefined then t.accessLifetime else lifetime) = .num n)
    (hpos : n.isPositiveInteger = true) (hm : m.clock.seconds = .ok (.finite now)) (h0 : now ≠ 0)
    (hd : (data.keys ++ ["aud", "iat", "exp", "iss"]).Nodup)
    (hc : ∀ p ∈ data, Codec.checkClaim p.1 p.2 = .ok ()) :
    t.create m data (.str audience) lifetime = .ok (t.codec.sign
      (t.claimsPayload data audience (.finite now) ((Number.finite now).add n))) := by
  have hpayload : t.codec.payload data (.str audience) (.num (.finite now))
      (.num ((Number.finite now).add n)) =
      t.claimsPayload data audience (.finite now) ((Number.finite now).add n) :=
    Codec.payload_eq hd
  rw [create_eq_sign hk hn hl hpos hm h0 (Codec.checkClaims_payload hd hc), hpayload]

lemma refreshLifetime_eq (h : t.refreshLifetime = .num refresh) :
    (if t.refreshLifetime.isUndefined then t.accessLifetime else t.refreshLifetime) =
      .num refresh := by
  rw [h]
  rfl

lemma createPair_eq_ok (ht : t.Sound issuer access refresh)
    (hm : m.clock.seconds = .ok (.finite now)) (h0 : now ≠ 0) (id : String) (tokenId : Value) :
    t.createPair m (.str id) tokenId = .ok
      { access := t.codec.sign (t.claimsPayload [("id", .str id)] accessAudience
          (.finite now) ((Number.finite now).add access))
        refresh := t.codec.sign (t.claimsPayload [("id", .str id), ("token_id", tokenId)]
          refreshAudience (.finite now) ((Number.finite now).add refresh)) } := by
  have ha : t.create m [("id", .str id)] (.str accessAudience) .undefined = .ok _ :=
    create_eq_ok ht.keyed ht.named ht.accessLifetime ht.access_pos hm h0 (by simp [Record.keys])
      (by simp; rfl)
  have hlife := refreshLifetime_eq ht.refreshLifetime
  have hr : t.create m [("id", .str id), ("token_id", tokenId)] (.str refreshAudience)
      t.refreshLifetime = .ok _ :=
    create_eq_ok ht.keyed ht.named hlife ht.refresh_pos hm h0 (by simp [Record.keys])
      (by simp; exact ⟨rfl, rfl⟩)
  rw [createPair]
  simp only [ha, hr, bind, Except.bind]
  rfl

lemma exists_create {data : Record} {audience : String} {lifetime : Value} {n ms : Number}
    (hk : t.codec.isKeyed = true) (hn : t.codec.isNamed = true)
    (hl : (if lifetime.isUndefined then t.accessLifetime else lifetime) = .num n)
    (hpos : n.isPositiveInteger = true) (hm : m.clock = .reads ms)
    (hd : (data.keys ++ ["aud", "iat", "exp", "iss"]).Nodup)
    (hc : ∀ p ∈ data, Codec.checkClaim p.1 p.2 = .ok ()) :
    ∃ token, t.create m data (.str audience) lifetime = .ok token := by
  have hlife : lifetime? (.num n) = some n := by simp [lifetime?, hpos]
  have hnow : m.clock.seconds = .ok ms.seconds := by rw [hm]; rfl
  obtain ⟨token, htoken⟩ : ∃ token, t.codec.encode m.wall data (.str audience)
      (.num ms.seconds) (.num (ms.seconds.add n)) = .ok token :=
    Codec.exists_encode hk hn (Codec.checkClaims_payload hd hc)
  refine ⟨token, ?_⟩
  rw [create]
  simp only [hl, hlife, hnow, bind, Except.bind]
  exact htoken

lemma exists_createPair {ms : Number} (ht : t.Sound issuer access refresh)
    (hm : m.clock = .reads ms) (id tokenId : Value) :
    ∃ pair, t.createPair m id tokenId = .ok pair := by
  obtain ⟨first, hfirst⟩ : ∃ token, t.create m [("id", id)] (.str accessAudience) .undefined =
      .ok token :=
    exists_create ht.keyed ht.named ht.accessLifetime ht.access_pos hm (by simp [Record.keys])
      (by simp; rfl)
  have hlife := refreshLifetime_eq ht.refreshLifetime
  obtain ⟨second, hsecond⟩ : ∃ token, t.create m [("id", id), ("token_id", tokenId)]
      (.str refreshAudience) t.refreshLifetime = .ok token :=
    exists_create ht.keyed ht.named hlife ht.refresh_pos hm (by simp [Record.keys])
      (by simp; exact ⟨rfl, rfl⟩)
  refine ⟨⟨first, second⟩, ?_⟩
  rw [createPair]
  simp only [hfirst, hsecond, bind, Except.bind]
  rfl

lemma now_eq {wall : Number} (hm : m.clock.seconds = .ok (.finite now)) (h0 : now ≠ 0) :
    Codec.now m.clock wall = .ok (.finite now) := by
  rw [Codec.now, hm]
  simp [Except.map, Number.isBlank, Number.isNaN, Number.isZero, h0]

lemma readable_access (hi : t.codec.issuer = .str issuer) {id audience : String} {exp : ℚ}
    (hnow : Number.IsBinary now) (hexp : Number.IsBinary exp) : Json.Readable
      (.obj (t.claimsPayload [("id", .str id)] audience (.finite now) (.finite exp))) := by
  refine ⟨⟨trivial, trivial, hnow, hexp, ?_, trivial⟩, ?_⟩
  · rw [hi]
    trivial
  · exact Record.ofList_new (by simp [Record.keys, claimsPayload]; decide)
      (by simp [Record.keys, claimsPayload])

lemma readable_refresh (hi : t.codec.issuer = .str issuer) {id audience : String} {k : ℕ} {exp : ℚ}
    (hk : k ≤ 2 ^ 53) (hnow : Number.IsBinary now) (hexp : Number.IsBinary exp) : Json.Readable
      (.obj (t.claimsPayload [("id", .str id), ("token_id", .num (.finite k))] audience
        (.finite now) (.finite exp))) := by
  refine ⟨⟨trivial, Number.isBinary_natCast hk, trivial, hnow, hexp, ?_, trivial⟩, ?_⟩
  · rw [hi]
    trivial
  · exact Record.ofList_new (by simp [Record.keys, claimsPayload]; decide)
      (by simp [Record.keys, claimsPayload])

lemma decodeAccess_sign (ht : t.Sound issuer access refresh)
    (hm : m.clock.seconds = .ok (.finite now)) (h0 : now ≠ 0) {id : String} (hid : id ≠ "")
    {exp : ℚ} (hl : Lasts now access exp) :
    t.codec.decodeAccess m (t.codec.sign (t.claimsPayload [("id", .str id)] accessAudience
      (.finite now) ((Number.finite now).add access))) =
      .ok ⟨id, .finite now, .finite exp⟩ := by
  rw [hl.1, Codec.decodeAccess, Except.bind_eq_ok]
  have hread : Json.Readable (.obj (t.claimsPayload [("id", .str id)] accessAudience
      (.finite now) (.finite exp))) :=
    readable_access ht.issuer (isBinary_seconds hm) (hl.isBinary ht.access_pos)
  exact ⟨_, Codec.payloadFor_sign ht.keyed ht.named hread (now_eq hm h0)
    (Codec.judge_of_lasting ht.issuer rfl rfl hl.2 rfl) rfl,
    AccessClaims.ofPayload_eq_ok.2 ⟨rfl, hid, rfl, rfl⟩⟩

lemma decodeRefresh_sign (ht : t.Sound issuer access refresh)
    (hm : m.clock.seconds = .ok (.finite now)) (h0 : now ≠ 0) {id : String} (hid : id ≠ "")
    {k : ℕ} (hk : 0 < k ∧ k ≤ Number.maxSafe) {exp : ℚ} (hl : Lasts now refresh exp) :
    t.codec.decodeRefresh m (t.codec.sign (t.claimsPayload
      [("id", .str id), ("token_id", .ofNat k)] refreshAudience (.finite now)
      ((Number.finite now).add refresh))) = .ok ⟨⟨id, .finite now, .finite exp⟩, k⟩ := by
  have hb : k ≤ 2 ^ 53 := hk.2.trans (by decide)
  have hn : Value.ofNat k = .num (.finite k) := congrArg _ (Number.ofNat_eq hb)
  rw [hl.1, hn, Codec.decodeRefresh, Except.bind_eq_ok]
  have hread : Json.Readable (.obj (t.claimsPayload
      [("id", .str id), ("token_id", .num (.finite k))] refreshAudience (.finite now)
      (.finite exp))) :=
    readable_refresh ht.issuer hb (isBinary_seconds hm) (hl.isBinary ht.refresh_pos)
  exact ⟨_, Codec.payloadFor_sign ht.keyed ht.named hread (now_eq hm h0)
    (Codec.judge_of_lasting ht.issuer rfl rfl hl.2 rfl) rfl,
    RefreshClaims.ofPayload_eq_ok.2
      ⟨AccessClaims.ofPayload_eq_ok.2 ⟨rfl, hid, rfl, rfl⟩, rfl, hk⟩⟩

end Issuer

lemma Issuer.make?_texts {s : AuthSettings} {t : Issuer} {secret issuer : String}
    (hsecret : s.secret = .str secret) (hne : secret ≠ "") (hissuer : s.issuer = .str issuer)
    (ht : Issuer.make? s = .ok t) :
    t.codec.isKeyed = true ∧ t.codec.isNamed = true ∧ t.codec.issuer = .str issuer ∧
      t.accessLifetime = s.accessLifetime ∧ t.refreshLifetime = s.refreshLifetime := by
  obtain ⟨c, hc, hkey, hi, -, hnamed⟩ := Codec.make?_texts hne issuer .hs256
  have hc : Codec.make? s.secret s.issuer .undefined = .ok c := by
    rw [hsecret, hissuer, ← hc]
    rfl
  rw [Issuer.make?] at ht
  rw [hc] at ht
  obtain rfl := Except.ok.inj ht
  exact ⟨by rw [Codec.isKeyed, hkey]; rfl, hnamed, hi, rfl, rfl⟩

structure Regular (s : AuthSettings) (secret issuer : String) (access refresh : Number) : Prop where
  nonempty : secret ≠ ""
  secret_eq : s.secret = .str secret
  issuer_eq : s.issuer = .str issuer
  access_eq : s.accessLifetime = .num access
  refresh_eq : s.refreshLifetime = .num refresh
  access_pos : access.isPositiveInteger = true
  refresh_pos : refresh.isPositiveInteger = true

lemma Regular.sound {s : AuthSettings} {t : Issuer} {secret issuer : String}
    {access refresh : Number} (h : Regular s secret issuer access refresh)
    (ht : Issuer.make? s = .ok t) : t.Sound issuer access refresh := by
  obtain ⟨hkeyed, hnamed, hissuer, ha, hr⟩ :=
    Issuer.make?_texts h.secret_eq h.nonempty h.issuer_eq ht
  exact ⟨hkeyed, hnamed, hissuer, ha.trans h.access_eq, hr.trans h.refresh_eq, h.access_pos,
    h.refresh_pos⟩

def sampleSettings : AuthSettings :=
  ⟨.str "test-secret", .str "wishlist-backend", .num (.finite 3600), .num (.finite 2592000),
    .str "Bearer"⟩

def sampleIssuer : Issuer := ⟨sampleCodec, .num (.finite 3600), .num (.finite 2592000)⟩

lemma regular_sampleSettings :
    Regular sampleSettings "test-secret" "wishlist-backend" (.finite 3600) (.finite 2592000) :=
  ⟨by decide, rfl, rfl, rfl, rfl, by decide +kernel, by decide +kernel⟩

lemma make?_sampleSettings : Issuer.make? sampleSettings = .ok sampleIssuer := rfl

end AuthGate.Token
