import AuthGate.Proofs.Token.Issue

namespace AuthGate.Token

def Shows (token key : String) (v : Value) : Prop :=
  ∃ t payload, Segments.ofToken? token = some t ∧
    Json.parse? (Text.ofUtf8 (Text.Base64.decode t.payload)) = some payload ∧ payload.field key = v

/-- The number that a text can hold in place of another one. -/
def plain : Number → Value
  | .finite q => .num (.finite q)
  | .negZero => .num (.finite 0)
  | _ => .null

lemma print?_plain (n : Number) : Json.print? (plain n) = Json.print? (.num n) := by
  cases n with
  | negZero => exact congrArg some (by decide)
  | _ => rfl

lemma readable_plain {n : Number} (h : ∀ q, n = .finite q → Number.IsBinary q) :
    Json.Readable (plain n) := by
  cases n with
  | finite q => exact h q rfl
  | negZero => exact Number.isBinary_zero
  | _ => trivial

def IsId (v : Value) : Prop :=
  (∃ s, v = .str s) ∨ ∃ n : ℕ, 0 < n ∧ n ≤ Number.maxSafe ∧ v = .ofNat n

lemma IsId.readable {v : Value} (h : IsId v) : Json.Readable v := by
  obtain ⟨s, rfl⟩ | ⟨n, -, hn, rfl⟩ := h
  · trivial
  · have hb : n ≤ 2 ^ 53 := hn.trans (by decide)
    rw [Value.ofNat, Number.ofNat_eq hb]
    exact Number.isBinary_natCast hb

lemma isBinary_secondsOf {n : Number} {q : ℚ} (h : n.seconds = .finite q) :
    Number.IsBinary q := by
  have hclock : (Clock.reads n).seconds = .ok (.finite q) := congrArg Except.ok h
  exact isBinary_seconds hclock

lemma isBinary_of_add {x y : Number} (hx : ∀ q, x = .finite q → Number.IsBinary q)
    (hy : ∀ q, y = .finite q → Number.IsBinary q) {q : ℚ} (h : x.add y = .finite q) :
    Number.IsBinary q := by
  cases x with
  | nan => simp [Number.add] at h
  | infinite a =>
    cases y with
    | infinite b =>
      rw [Number.add] at h
      split_ifs at h
    | _ => simp [Number.add] at h
  | negZero => cases y <;> exact hy q h
  | finite p =>
    cases y with
    | nan | infinite => simp [Number.add] at h
    | negZero => exact hx q h
    | finite r => exact Number.isBinary_of_ofRat h

lemma Codec.eq_sign_of_encode {c : Codec} {wall : Number} {data : Record}
    {audience iat exp : Value} {token : String}
    (h : c.encode wall data audience iat exp = .ok token) :
    token = c.sign (if iat.truthy then c.payload data audience iat exp
      else (c.payload data audience iat exp).set "iat" (.num wall.seconds)) := by
  rw [Codec.encode] at h
  split at h
  · cases h
  split at h
  · cases h
  split at h
  · cases h
  split at h
  · cases h
  · exact (Except.ok.inj h).symm

namespace Issuer

variable {t : Issuer} {refresh : Number} {m : Moment} {wall : Number} {id tokenId : Value}
  {pair : Pair}

def refreshPayload (t : Issuer) (id tokenId iat exp : Value) : Record :=
  [("id", id), ("token_id", tokenId), ("aud", .str refreshAudience), ("iat", iat), ("exp", exp),
    ("iss", t.codec.issuer)]

lemma refresh_of_createPair (hl : t.refreshLifetime = .num refresh)
    (hclock : m.clock = .reads wall) (h : t.createPair m id tokenId = .ok pair) : ∃ iat,
      pair.refresh = t.codec.sign
        (t.refreshPayload id tokenId (.num iat) (.num (wall.seconds.add refresh))) ∧
      ∀ q, iat = .finite q → Number.IsBinary q := by
  rw [createPair] at h
  obtain ⟨access, -, h⟩ := Except.bind_eq_ok.1 h
  obtain ⟨token, hcreate, h⟩ := Except.bind_eq_ok.1 h
  obtain rfl := Except.ok.inj h
  have hlife := refreshLifetime_eq hl
  have hnow : m.clock.seconds = .ok wall.seconds := by rw [hclock]; rfl
  rw [create] at hcreate
  simp only [hlife, hnow] at hcreate
  cases hlifetime : lifetime? (.num refresh) with
  | none =>
    simp only [hlifetime] at hcreate
    obtain ⟨f, -, hf⟩ := Except.bind_eq_ok.1 hcreate
    cases hf
  | some seconds =>
    obtain rfl : refresh = seconds := by
      rw [lifetime?] at hlifetime
      split_ifs at hlifetime
      exact Option.some.inj hlifetime
    simp only [hlifetime] at hcreate
    have hpayload (iat exp : Value) : t.codec.payload [("id", id), ("token_id", tokenId)]
        (.str refreshAudience) iat exp = t.refreshPayload id tokenId iat exp :=
      Codec.payload_eq (by simp [Record.keys])
    have hencode : t.codec.encode m.wall [("id", id), ("token_id", tokenId)] (.str refreshAudience)
        (.num wall.seconds) (.num (wall.seconds.add refresh)) = .ok token := hcreate
    have hsign := Codec.eq_sign_of_encode hencode
    rw [hpayload] at hsign
    split_ifs at hsign with htruthy
    · exact ⟨wall.seconds, hsign, fun q => isBinary_secondsOf⟩
    · exact ⟨m.wall.seconds, hsign, fun q => isBinary_secondsOf⟩

lemma print_refreshPayload (t : Issuer) (id tokenId : Value) (iat exp : Number) :
    Json.print (.obj (t.refreshPayload id tokenId (.num iat) (.num exp))) =
      Json.print (.obj (t.refreshPayload id tokenId (plain iat) (plain exp))) := by
  simp only [Json.print, Json.print?, refreshPayload, Json.printFields, print?_plain]

lemma readable_refreshPayload {issuer : String} (hi : t.codec.issuer = .str issuer)
    (hid : IsId id) (htoken : IsId tokenId) {iat exp : Number}
    (hiat : ∀ q, iat = .finite q → Number.IsBinary q)
    (hexp : ∀ q, exp = .finite q → Number.IsBinary q) :
    Json.Readable (.obj (t.refreshPayload id tokenId (plain iat) (plain exp))) := by
  refine ⟨⟨hid.readable, htoken.readable, trivial, readable_plain hiat, readable_plain hexp, ?_,
    trivial⟩, ?_⟩
  · rw [hi]
    trivial
  · exact Record.ofList_new (by simp [Record.keys, refreshPayload]; decide)
      (by simp [Record.keys, refreshPayload])

lemma shows_of_createPair {issuer : String} (hi : t.codec.issuer = .str issuer)
    (hl : t.refreshLifetime = .num refresh) (hb : ∀ q, refresh = .finite q → Number.IsBinary q)
    (hclock : m.clock = .reads wall) (hid : IsId id) (htoken : IsId tokenId)
    (h : t.createPair m id tokenId = .ok pair) : Shows pair.refresh "token_id" tokenId := by
  obtain ⟨iat, hsign, hiat⟩ := refresh_of_createPair hl hclock h
  have hexp : ∀ q, wall.seconds.add refresh = .finite q → Number.IsBinary q :=
    fun q hq => isBinary_of_add (fun _ => isBinary_secondsOf) hb hq
  have hread := readable_refreshPayload hi hid htoken hiat hexp
  have hwrap (r r' : Record) (hprint : Json.print (.obj r) = Json.print (.obj r')) :
      t.codec.sign r = t.codec.wrap (.obj r') := by
    rw [Codec.sign_eq]
    simp only [Codec.wrap, Codec.segments, Codec.segment, hprint]
  rw [hsign, hwrap _ _ (t.print_refreshPayload _ _ _ _)]
  exact ⟨_, _, t.codec.ofToken?_wrap hread, t.codec.parse?_segments hread, rfl⟩

end Issuer

end AuthGate.Token
