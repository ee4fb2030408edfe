import AuthGate.Proofs.Except
import AuthGate.Proofs.Json.Shown
import AuthGate.Proofs.Token.Signed

namespace AuthGate.Token

variable {c : Codec} {m : Moment} {token : String} {r : Record}

lemma AccessClaims.ofPayload_eq_ok {claims : AccessClaims} :
    AccessClaims.ofPayload (.obj r) = .ok claims ↔ r.get "id" = .str claims.id ∧ claims.id ≠ "" ∧
      r.get "iat" = .num claims.iat ∧ r.get "exp" = .num claims.exp := by
  obtain ⟨id, iat, exp⟩ := claims
  rw [AccessClaims.ofPayload]
  simp only [Value.field]
  split
  · rename_i hid hiat hexp
    rw [hid, hiat, hexp]
    split_ifs with h
    · simp only [Value.str.injEq, Value.num.injEq, false_iff]
      rintro ⟨rfl, hne, -⟩
      exact hne h
    · simp only [Except.ok.injEq, AccessClaims.mk.injEq, Value.str.injEq, Value.num.injEq]
      constructor
      · rintro ⟨rfl, rfl, rfl⟩
        exact ⟨rfl, h, rfl, rfl⟩
      · rintro ⟨rfl, -, rfl, rfl⟩
        exact ⟨rfl, rfl, rfl⟩
  · rename_i hno
    simp only [reduceCtorEq, false_iff]
    rintro ⟨hid, -, hiat, hexp⟩
    exact hno _ _ _ hid hiat hexp

lemma positiveSafe?_eq_some {n : Number} {k : ℕ} : n.positiveSafe? = some k ↔
    n = .finite k ∧ 0 < k ∧ k ≤ Number.maxSafe := by
  constructor
  · intro h
    unfold Number.positiveSafe? at h
    split at h
    · rename_i q
      split_ifs at h with hq
      obtain ⟨hden, hpos, hmax⟩ := hq
      obtain rfl := Option.some.inj h
      have hq : q = (q.num.toNat : ℚ) := by
        conv_lhs => rw [← Rat.num_div_den q, hden]
        rw [Nat.cast_one, div_one, ← Int.cast_natCast, Int.toNat_of_nonneg hpos.le]
      exact ⟨congrArg _ hq, by omega, by omega⟩
    · cases h
  · rintro ⟨rfl, hpos, hmax⟩
    rw [Number.positiveSafe?]
    have hnum : ((k : ℚ)).num = k := Rat.num_natCast k
    change (if _ then _ else _) = _
    rw [if_pos ⟨Rat.den_natCast k, by omega, by omega⟩, hnum, Int.toNat_natCast]

lemma RefreshClaims.ofPayload_eq_ok {claims : RefreshClaims} :
    RefreshClaims.ofPayload (.obj r) = .ok claims ↔
      AccessClaims.ofPayload (.obj r) = .ok claims.toAccessClaims ∧
      r.get "token_id" = .num (.finite claims.tokenId) ∧ 0 < claims.tokenId ∧
      claims.tokenId ≤ Number.maxSafe := by
  obtain ⟨base, tokenId⟩ := claims
  rw [RefreshClaims.ofPayload]
  simp only [Value.field]
  cases hb : AccessClaims.ofPayload (.obj r) with
  | error f => simp
  | ok base' =>
    cases hn : r.get "token_id"
    case num n =>
      simp only [Except.ok.injEq, Value.num.injEq]
      cases hk : n.positiveSafe? with
      | none =>
        simp only [reduceCtorEq, false_iff]
        rintro ⟨-, h⟩
        rw [positiveSafe?_eq_some.2 h] at hk
        cases hk
      | some k =>
        have hn := positiveSafe?_eq_some.1 hk
        simp only [Except.ok.injEq, RefreshClaims.mk.injEq, and_congr_right_iff]
        rintro rfl
        rw [hn.1]
        constructor
        · rintro rfl
          exact ⟨rfl, hn.2⟩
        · rintro ⟨he, -⟩
          exact Nat.cast_injective (Number.finite.inj he)
    all_goals simp

namespace Codec

lemma verify_eq_ok {clock : Clock} {wall : Number} {v : Value} :
    c.verify clock wall token = .ok v ↔ ∃ s, now clock wall = .ok s ∧
      c.inspect s token = .ok v ∧ v.isText = false := by
  rw [verify]
  cases hs : now clock wall with
  | error f => simp
  | ok s =>
    simp only [Except.ok.injEq, exists_eq_left']
    cases hi : c.inspect s token with
    | error o => cases o <;> simp
    | ok w =>
      cases w <;> simp only [Except.ok.injEq, reduceCtorEq, false_iff, not_and]
      case str => rintro rfl; simp [Value.isText]
      all_goals exact ⟨by rintro rfl; exact ⟨rfl, rfl⟩, And.left⟩

lemma payloadFor_eq_ok {audience : String} {v : Value} :
    c.payloadFor m token (.str audience) = .ok v ↔
      c.verify m.clock m.wall token = .ok v ∧ v.field "aud" = .str audience := by
  rw [payloadFor]
  cases hv : c.verify m.clock m.wall token with
  | error f => simp [bind, Except.bind]
  | ok w =>
    simp only [bind, Except.bind, Except.ok.injEq]
    split_ifs with ha
    · have ha := Value.same_str.1 ha
      exact ⟨by rintro ⟨⟩; exact ⟨rfl, ha⟩, fun h => congrArg _ h.1⟩
    · have hne : w.field "aud" ≠ .str audience := fun h => ha (Value.same_str.2 h)
      simp only [Value.text, Value.text?, throw, throwThe, MonadExceptOf.throw, reduceCtorEq,
        false_iff, not_and]
      rintro rfl
      exact hne

lemma make?_texts {secret : String} (hs : secret ≠ "") (issuer : String) (alg : Algorithm) :
    ∃ c, make? (.str secret) (.str issuer) (.str alg.name) = .ok c ∧ c.secret = .str secret ∧
      c.issuer = .str issuer ∧ c.algorithm = alg ∧ c.isNamed = true := by
  have ht : (Value.str secret).truthy = true := by simpa [Value.truthy] using hs
  have ha : algorithmOf (.str alg.name) = .ok alg := by cases alg <;> rfl
  refine ⟨⟨.str secret, .str issuer, alg, true, ht⟩, ?_, rfl, rfl, rfl, rfl⟩
  rw [make?]
  simp only [ht, dif_pos, Value.isAbsent, Value.isUndefined, Value.isNull, Bool.or_self,
    Bool.false_eq_true, if_false, ha]
  rfl

end Codec

structure AccessClaims.TakenFrom (r : Record) (claims : AccessClaims) : Prop where
  id : r.get "id" = .str claims.id
  named : claims.id ≠ ""
  iat : r.get "iat" = .num claims.iat
  exp : r.get "exp" = .num claims.exp

def Claims.TakenFrom (r : Record) (audience : String) : Claims → Prop
  | .access claims => audience = accessAudience ∧ claims.TakenFrom r
  | .refresh claims => audience = refreshAudience ∧ claims.toAccessClaims.TakenFrom r ∧
      r.get "token_id" = .num (.finite claims.tokenId) ∧ 0 < claims.tokenId ∧
      claims.tokenId ≤ Number.maxSafe

structure Admits (r : Record) (issuer audience : String) (now : Number) : Prop where
  started : r.has "nbf" = false ∨ ∃ n, r.get "nbf" = .num n ∧ n.le now = true
  unexpired : ∃ n, r.get "exp" = .num n ∧ now.lt n = true
  issuer : r.get "iss" = .str issuer
  audience : r.get "aud" = .str audience

/-- Segments whose signature is, character for character, the one that the secret gives. -/
structure Authentic (secret : String) (alg : Algorithm) (t : Segments) (header : Value) : Prop where
  header_ne : t.header ≠ []
  payload_ne : t.payload ≠ []
  header_url : t.header.all Text.Base64.isUrlChar = true
  payload_url : t.payload.all Text.Base64.isUrlChar = true
  signature : t.signature = Text.Base64.encodeUrl (Digest.hmac alg.hash (Text.utf8 secret.toList)
    (Text.utf8 (t.header ++ '.' :: t.payload)))
  readHeader : Json.parse? (Text.ofLatin1 (Text.Base64.decode t.header)) = some header
  algorithm : header.field "alg" = .str alg.name

def Accepts (secret issuer : String) (alg : Algorithm) (now : Number) (token audience : String)
    (claims : Claims) : Prop :=
  ∃ (t : Segments) (header : Value) (r : Record),
    token.toList = t.header ++ '.' :: t.payload ++ '.' :: t.signature ∧
    Authentic secret alg t header ∧
    Segments.Carries header (Text.ofUtf8 (Text.Base64.decode t.payload)) r ∧
    Admits r issuer audience now ∧ claims.TakenFrom r audience

lemma AccessClaims.takenFrom_iff {claims : AccessClaims} :
    claims.TakenFrom r ↔ AccessClaims.ofPayload (.obj r) = .ok claims := by
  rw [AccessClaims.ofPayload_eq_ok]
  exact ⟨fun h => ⟨h.id, h.named, h.iat, h.exp⟩, fun ⟨hid, hn, hiat, hexp⟩ => ⟨hid, hn, hiat, hexp⟩⟩

namespace Codec

lemma opens_iff {secret : String} (hs : c.secret = .str secret) (hn : c.isNamed = true) :
    (∃ t header, c.Opens token t header (.obj r)) ↔ ∃ t header,
      token.toList = t.header ++ '.' :: t.payload ++ '.' :: t.signature ∧
      Authentic secret c.algorithm t header ∧
      Segments.Carries header (Text.ofUtf8 (Text.Base64.decode t.payload)) r := by
  have hkey : c.secret.asText = secret := by rw [hs]; rfl
  refine exists_congr fun t => exists_congr fun header => ⟨fun h => ?_, fun ⟨hcut, ha, hp⟩ => ?_⟩
  · obtain ⟨hh, hp, hhu, hpu, -⟩ := t.isWellFormed_iff.1 h.wellFormed
    have hread := h.readHeader
    rw [Segments.readHeader] at hread
    split at hread
    · rename_i v hv
      split_ifs at hread
      obtain rfl := Option.some.inj hread
      refine ⟨Segments.chars_of_ofToken? h.cut, ⟨hh, hp, hhu, hpu, ?_, hv, h.algorithm⟩,
        Segments.readPayload_eq_obj.1 h.readPayload⟩
      rw [h.signature, signature, mac, hkey]
      rfl
    · cases hread
  · have hsig : t.signature = c.signature t.signed := by
      rw [ha.signature, signature, mac, hkey]
      rfl
    have hw : t.isWellFormed = true := t.isWellFormed_iff.2
      ⟨ha.header_ne, ha.payload_ne, ha.header_url, ha.payload_url, by
        rw [ha.signature]
        exact Text.Base64.encodeUrl_all _⟩
    have htruthy : header.truthy = true := by
      have := ha.algorithm
      cases header <;> simp_all [Value.field, Value.truthy]
    refine ⟨Segments.ofToken?_of_chars hcut hw, hw, ?_, Segments.readPayload_eq_obj.2 hp, ?_, hn,
      ha.algorithm, hsig⟩
    · rw [Segments.readHeader, ha.readHeader]
      exact if_pos htruthy
    · rw [isKeyed, hs]
      rfl

end Codec

lemma not_lt_iff_le {x y : Number} (hx : x ≠ .nan) (hy : y ≠ .nan) :
    y.lt x = false ↔ x.le y = true := by
  cases x <;> cases y <;> simp_all [Number.le]

lemma le_eq_false_iff {x y : Number} (hx : x ≠ .nan) (hy : y ≠ .nan) :
    x.le y = false ↔ y.lt x = true := by
  cases x <;> cases y <;> simp_all [Number.le]

lemma acceptsIssuer_str {issuer : String} (hi : issuer ≠ "") {v : Value} :
    acceptsIssuer (.str issuer) v = true ↔ v = .str issuer := by
  unfold acceptsIssuer
  split
  · rename_i h
    exact absurd (Value.str.inj h) hi
  · cases v <;> simp [Value.same, eq_comm]
  · rename_i h
    cases h
  · rename_i h _
    exact absurd rfl (h _)

lemma admits_iff {issuer audience : String} {now exp : Number} (hr : Json.AllShown r)
    (hnow : now ≠ .nan) (hi : issuer ≠ "") (hc : c.issuer = .str issuer)
    (hexp : r.get "exp" = .num exp) : Admits r issuer audience now ↔
      c.judge now (.obj r) = .ok () ∧ r.get "aud" = .str audience := by
  have hstart : checkStart (.obj r) now = .ok () ↔
      r.has "nbf" = false ∨ ∃ n, r.get "nbf" = .num n ∧ n.le now = true := by
    rw [checkStart_eq_ok, ← hr.absent]
    refine or_congr_right (exists_congr fun n => and_congr_right fun hn => ?_)
    exact not_lt_iff_le (hr.number hn) hnow
  have hexpiry : checkExpiry (.obj r) now = .ok () ↔
      ∃ n, r.get "exp" = .num n ∧ now.lt n = true := by
    rw [checkExpiry_eq_ok]
    simp only [Value.field, hexp, reduceCtorEq, false_or]
    exact exists_congr fun n => and_congr_right fun hn =>
      le_eq_false_iff (hr.number (hexp.trans hn)) hnow
  have hissuer : acceptsIssuer c.issuer ((Value.obj r).field "iss") = true ↔
      r.get "iss" = .str issuer := by
    rw [hc]
    exact acceptsIssuer_str hi
  rw [Codec.judge_eq_ok, hstart, hexpiry, hissuer]
  constructor
  · rintro ⟨h1, h2, h3, h4⟩
    exact ⟨⟨by simp, h1, h2, h3⟩, h4⟩
  · rintro ⟨⟨-, h1, h2, h3⟩, h4⟩
    exact ⟨h1, h2, h3, h4⟩

lemma Segments.Carries.shown {header : Value} {text : List Char}
    (h : Segments.Carries header text r) : Json.AllShown r := by
  cases h with
  | object h => exact Json.parse?_obj_shown h
  | quoted _ _ h => exact Json.parse?_obj_shown h

namespace Codec

lemma payloadFor_obj {secret issuer audience : String} {q : ℚ} {exp : Number}
    (hs : c.secret = .str secret) (hc : c.issuer = .str issuer) (hi : issuer ≠ "")
    (hn : c.isNamed = true) (hclock : m.clock.seconds = .ok (.finite q)) (hq : q ≠ 0)
    (hexp : r.get "exp" = .num exp) :
    c.payloadFor m token (.str audience) = .ok (.obj r) ↔ ∃ t header,
      token.toList = t.header ++ '.' :: t.payload ++ '.' :: t.signature ∧
      Authentic secret c.algorithm t header ∧
      Segments.Carries header (Text.ofUtf8 (Text.Base64.decode t.payload)) r ∧
      Admits r issuer audience (.finite q) := by
  have hnow : now m.clock m.wall = .ok (.finite q) := by
    rw [now, hclock]
    simp [Except.map, Number.isBlank, Number.isNaN, Number.isZero, hq]
  rw [payloadFor_eq_ok, verify_eq_ok, hnow]
  simp only [Except.ok.injEq, exists_eq_left', inspect_eq_ok, opens_iff hs hn]
  constructor
  · rintro ⟨⟨⟨⟨t, header, hcut, ha, hp⟩, hj⟩, -⟩, haud⟩
    exact ⟨t, header, hcut, ha, hp, (admits_iff hp.shown (by simp) hi hc hexp).2 ⟨hj, haud⟩⟩
  · rintro ⟨t, header, hcut, ha, hp, had⟩
    obtain ⟨hj, haud⟩ := (admits_iff hp.shown (by simp) hi hc hexp).1 had
    exact ⟨⟨⟨⟨t, header, hcut, ha, hp⟩, hj⟩, rfl⟩, haud⟩

end Codec

lemma AccessClaims.obj_of_ofPayload {v : Value} {claims : AccessClaims}
    (h : AccessClaims.ofPayload v = .ok claims) : ∃ r, v = .obj r := by
  cases v
  case obj r => exact ⟨r, rfl⟩
  all_goals simp [AccessClaims.ofPayload, Value.field] at h

lemma RefreshClaims.obj_of_ofPayload {v : Value} {claims : RefreshClaims}
    (h : RefreshClaims.ofPayload v = .ok claims) : ∃ r, v = .obj r := by
  cases hb : AccessClaims.ofPayload v with
  | ok base => exact AccessClaims.obj_of_ofPayload hb
  | error f => simp [RefreshClaims.ofPayload, hb] at h

section

variable {secret issuer : String} {q : ℚ} (hs : c.secret = .str secret) (hc : c.issuer = .str issuer)
  (hi : issuer ≠ "") (hn : c.isNamed = true) (hclock : m.clock.seconds = .ok (.finite q))
  (hq : q ≠ 0)

include hs hc hi hn hclock hq

lemma decodeAccess_eq_ok {claims : AccessClaims} : c.decodeAccess m token = .ok claims ↔
    Accepts secret issuer c.algorithm (.finite q) token accessAudience (.access claims) := by
  rw [Codec.decodeAccess, Except.bind_eq_ok]
  constructor
  · rintro ⟨v, hv, hp⟩
    obtain ⟨r, rfl⟩ := AccessClaims.obj_of_ofPayload hp
    have ht := AccessClaims.takenFrom_iff.2 hp
    obtain ⟨t, header, hcut, ha, hr, had⟩ :=
      (Codec.payloadFor_obj hs hc hi hn hclock hq ht.exp).1 hv
    exact ⟨t, header, r, hcut, ha, hr, had, rfl, ht⟩
  · rintro ⟨t, header, r, hcut, ha, hr, had, -, ht⟩
    exact ⟨.obj r, (Codec.payloadFor_obj hs hc hi hn hclock hq ht.exp).2
      ⟨t, header, hcut, ha, hr, had⟩, AccessClaims.takenFrom_iff.1 ht⟩

lemma decodeRefresh_eq_ok {claims : RefreshClaims} : c.decodeRefresh m token = .ok claims ↔
    Accepts secret issuer c.algorithm (.finite q) token refreshAudience (.refresh claims) := by
  rw [Codec.decodeRefresh, Except.bind_eq_ok]
  constructor
  · rintro ⟨v, hv, hp⟩
    obtain ⟨r, rfl⟩ := RefreshClaims.obj_of_ofPayload hp
    obtain ⟨hbase, hid⟩ := RefreshClaims.ofPayload_eq_ok.1 hp
    have ht := AccessClaims.takenFrom_iff.2 hbase
    obtain ⟨t, header, hcut, ha, hr, had⟩ :=
      (Codec.payloadFor_obj hs hc hi hn hclock hq ht.exp).1 hv
    exact ⟨t, header, r, hcut, ha, hr, had, rfl, ht, hid⟩
  · rintro ⟨t, header, r, hcut, ha, hr, had, -, ht, hid⟩
    exact ⟨.obj r, (Codec.payloadFor_obj hs hc hi hn hclock hq ht.exp).2
      ⟨t, header, hcut, ha, hr, had⟩,
      RefreshClaims.ofPayload_eq_ok.2 ⟨AccessClaims.takenFrom_iff.1 ht, hid⟩⟩

end

theorem decode_eq_ok_iff {secret issuer : String} {alg : Algorithm} {q : ℚ} (hs : secret ≠ "")
    (hi : issuer ≠ "") (hc : Codec.make? (.str secret) (.str issuer) (.str alg.name) = .ok c)
    (hclock : m.clock.seconds = .ok (.finite q)) (hq : q ≠ 0) {audience : String}
    (ha : audience = accessAudience ∨ audience = refreshAudience) (token : String)
    (result : Option Claims) :
    c.decode m token (.str audience) = .ok result ↔
      ∃ claims, result = some claims ∧
        Accepts secret issuer alg (.finite q) token audience claims := by
  obtain ⟨c', hc', hsecret, hissuer, rfl, hnamed⟩ := Codec.make?_texts hs issuer alg
  obtain rfl := Except.ok.inj (hc'.symm.trans hc)
  rcases ha with rfl | rfl
  · rw [Codec.decode, if_pos (by decide), Except.map_eq_ok]
    simp only [decodeAccess_eq_ok hsecret hissuer hi hnamed hclock hq]
    constructor
    · rintro ⟨claims, h, rfl⟩
      exact ⟨.access claims, rfl, h⟩
    · rintro ⟨claims | claims, rfl, h⟩
      · exact ⟨claims, h, rfl⟩
      · obtain ⟨-, -, -, -, -, -, -, h, -⟩ := h
        exact absurd h (by decide)
  · rw [Codec.decode, if_neg (by decide), if_pos (by decide), Except.map_eq_ok]
    simp only [decodeRefresh_eq_ok hsecret hissuer hi hnamed hclock hq]
    constructor
    · rintro ⟨claims, h, rfl⟩
      exact ⟨.refresh claims, rfl, h⟩
    · rintro ⟨claims | claims, rfl, h⟩
      · obtain ⟨-, -, -, -, -, -, -, h, -⟩ := h
        exact absurd h (by decide)
      · exact ⟨claims, h, rfl⟩

lemma openText_text (hr : Json.Readable (.obj r)) :
    Segments.openText (.str (Json.text (.obj r))) = .obj r := by
  rw [Segments.openText, Json.text, String.toList_ofList, Json.parse?_print hr]

lemma authentic_wrap {secret : String} (hs : c.secret = .str secret) (hn : c.isNamed = true)
    {v : Value} (hv : Json.Readable v) (ho : Segments.openText v = .obj r) : ∃ t header,
      (c.wrap v).toList = t.header ++ '.' :: t.payload ++ '.' :: t.signature ∧
      Authentic secret c.algorithm t header ∧
      Segments.Carries header (Text.ofUtf8 (Text.Base64.decode t.payload)) r := by
  have hk : c.isKeyed = true := by rw [Codec.isKeyed, hs]; rfl
  exact (Codec.opens_iff hs hn).1 ⟨_, c.header, ho ▸ Codec.opens_wrap hk hn hv⟩

def samplePayload : Record :=
  [("id", .str "user-1"), ("aud", .str accessAudience), ("iat", .num (.finite 1700000000)),
    ("exp", .num (.finite 1700000060)), ("iss", .str "wishlist-backend")]

def sampleClaims : AccessClaims := ⟨"user-1", .finite 1700000000, .finite 1700000060⟩

def sampleCodec : Codec := ⟨.str "test-secret", .str "wishlist-backend", .hs256, true, rfl⟩

def sampleMoment : Moment := ⟨.reads (.finite 1700000000000), .finite 1700000000000, false⟩

lemma readable_samplePayload : Json.Readable (.obj samplePayload) := by
  refine ⟨⟨trivial, trivial, ?_, ?_, trivial, trivial⟩, Record.ofList_new ?_ ?_⟩
  · exact_mod_cast Number.isBinary_natCast (n := 1700000000) (by norm_num)
  · exact_mod_cast Number.isBinary_natCast (n := 1700000060) (by norm_num)
  · simp [samplePayload, Record.keys]; decide
  · simp [samplePayload, Record.keys]

lemma accepts_sample {v : Value} (hv : Json.Readable v)
    (ho : Segments.openText v = .obj samplePayload) :
    Accepts "test-secret" "wishlist-backend" .hs256 (.finite 1700000000) (sampleCodec.wrap v)
      accessAudience (.access sampleClaims) := by
  obtain ⟨t, header, hcut, ha, hp⟩ := authentic_wrap (c := sampleCodec) rfl rfl hv ho
  refine ⟨t, header, samplePayload, hcut, ha, hp, ⟨.inl rfl, ⟨_, rfl, ?_⟩, rfl, rfl⟩, rfl,
    ⟨rfl, by decide, rfl, rfl⟩⟩
  decide +kernel

lemma sampleMoment_seconds : sampleMoment.clock.seconds = .ok (.finite 1700000000) := by
  have h : Number.seconds (.finite 1700000000000) = .finite 1700000000 := by decide +kernel
  exact congrArg Except.ok h

lemma sampleMoment_wall : (Calendar.iso? sampleMoment.wall).isSome = true := by decide +kernel

lemma make?_sampleCodec : Codec.make? (.str "test-secret") (.str "wishlist-backend")
    (.str Algorithm.hs256.name) = .ok sampleCodec := rfl

theorem decode_sample :
    sampleCodec.decode sampleMoment (sampleCodec.wrap (.obj samplePayload)) (.str accessAudience) =
      .ok (some (.access sampleClaims)) :=
  (decode_eq_ok_iff (by decide) (by decide) make?_sampleCodec sampleMoment_seconds (by norm_num)
    (.inl rfl) _ _).2 ⟨_, rfl, accepts_sample readable_samplePayload rfl⟩

/-- A token is accepted whose payload is no object but a text in which one is written. -/
theorem decode_quoted :
    sampleCodec.decode sampleMoment (sampleCodec.wrap (.str (Json.text (.obj samplePayload))))
        (.str accessAudience) = .ok (some (.access sampleClaims)) ∧
      ∀ t, Segments.ofToken? (sampleCodec.wrap (.str (Json.text (.obj samplePayload)))) = some t →
        ∀ r, Json.parse? (Text.ofUtf8 (Text.Base64.decode t.payload)) ≠ some (.obj r) := by
  have hv : Json.Readable (.str (Json.text (.obj samplePayload))) := trivial
  have ha := accepts_sample hv (openText_text readable_samplePayload)
  refine ⟨?_, fun t ht r => ?_⟩
  · rw [Codec.decode, if_pos (by decide), (decodeAccess_eq_ok rfl rfl (by decide) rfl
      sampleMoment_seconds (by norm_num)).2 ha]
    rfl
  · rw [sampleCodec.ofToken?_wrap hv] at ht
    obtain rfl := Option.some.inj ht
    rw [sampleCodec.parse?_segments hv]
    simp

end AuthGate.Token
