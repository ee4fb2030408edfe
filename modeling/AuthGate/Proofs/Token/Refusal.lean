import AuthGate.Proofs.Token.Acceptance

namespace AuthGate.Token

/-- A token in three segments whose signature holds other bytes than the digest of the other two. -/
def Forged (secret : String) (alg : Algorithm) (token : String) : Prop :=
  ∃ t, Segments.Cut token t ∧ Text.Base64.decode t.signature ≠
    Digest.hmac alg.hash (Text.utf8 secret.toList) (Text.utf8 (t.header ++ '.' :: t.payload))

lemma Segments.Cut.forged_iff {secret token : String} {alg : Algorithm} {t : Segments}
    (h : Cut token t) : Forged secret alg token ↔ Text.Base64.decode t.signature ≠
      Digest.hmac alg.hash (Text.utf8 secret.toList) (Text.utf8 t.signed) := by
  refine ⟨?_, fun hne => ⟨t, h, hne⟩⟩
  rintro ⟨t', h', hne⟩
  obtain rfl := h.unique h'
  exact hne

inductive Refused (secret : String) (alg : Algorithm) (token : String) : Failure → Prop
  | forged {cause} : Forged secret alg token → Refused secret alg token
      (.token .invalidSignature "Invalid token signature" (some cause))
  | other {fault message cause} : ¬ Forged secret alg token →
      fault ∈ [.invalidToken, .expired, .audienceMismatch] →
      Refused secret alg token (.token fault message cause)

def otherAudience (expected : String) : Failure :=
  .token .audienceMismatch s!"Token audience mismatch: expected {expected}" none

lemma AccessClaims.ofPayload_eq_error {v : Value} {f : Failure}
    (h : AccessClaims.ofPayload v = .error f) : f = malformed := by
  rw [AccessClaims.ofPayload] at h
  split at h
  · split_ifs at h
    exact (Except.error.inj h).symm
  · exact (Except.error.inj h).symm

lemma RefreshClaims.ofPayload_eq_error {v : Value} {f : Failure}
    (h : RefreshClaims.ofPayload v = .error f) : f = malformed := by
  rw [RefreshClaims.ofPayload] at h
  split at h
  · split at h
    · cases h
    · exact (Except.error.inj h).symm
  · exact (Except.error.inj h).symm
  · rename_i hb
    obtain rfl := Except.error.inj h
    exact AccessClaims.ofPayload_eq_error hb

namespace Codec

variable {c : Codec} {m : Moment} {token audience secret : String} {f : Failure} {v : Value}

lemma payloadFor_eq_error (h : c.payloadFor m token (.str audience) = .error f) :
    c.verify m.clock m.wall token = .error f ∨
      f = otherAudience audience ∧ ∃ v, c.verify m.clock m.wall token = .ok v := by
  obtain h | ⟨v, hv, h⟩ := Except.bind_eq_error.1 h
  · exact .inl h
  · split_ifs at h
    · cases h
    · exact .inr ⟨(Except.error.inj h).symm, v, hv⟩

lemma payloadFor_of_decode {result : Option Claims}
    (h : c.decode m token (.str audience) = .ok result) :
    ∃ v, c.payloadFor m token (.str audience) = .ok v := by
  rw [decode] at h
  split_ifs at h with haccess hrefresh
  · obtain ⟨claims, h, -⟩ := Except.map_eq_ok.1 h
    obtain ⟨v, hv, -⟩ := Except.bind_eq_ok.1 h
    exact ⟨v, Value.str.inj (Value.same_str.1 haccess) ▸ hv⟩
  · obtain ⟨claims, h, -⟩ := Except.map_eq_ok.1 h
    obtain ⟨v, hv, -⟩ := Except.bind_eq_ok.1 h
    exact ⟨v, Value.str.inj (Value.same_str.1 hrefresh) ▸ hv⟩
  · obtain ⟨claims, h, -⟩ := Except.map_eq_ok.1 h
    obtain ⟨v, hv, -⟩ := Except.bind_eq_ok.1 h
    exact ⟨v, hv⟩

lemma decode_of_payloadFor (h : c.payloadFor m token (.str audience) = .error f) :
    c.decode m token (.str audience) = .error f := by
  rw [decode]
  split_ifs with haccess hrefresh
  · rw [decodeAccess, ← Value.same_str.1 haccess, h]
    rfl
  · rw [decodeRefresh, ← Value.same_str.1 hrefresh, h]
    rfl
  · rw [h]
    rfl

lemma payloadFor_of_verify (h : c.verify m.clock m.wall token = .error f) :
    c.payloadFor m token (.str audience) = .error f := by
  rw [payloadFor, h]
  rfl

lemma decode_of_verify (h : c.verify m.clock m.wall token = .error f) :
    c.decode m token (.str audience) = .error f :=
  decode_of_payloadFor (payloadFor_of_verify h)

lemma decode_eq_error (h : c.decode m token (.str audience) = .error f) :
    c.payloadFor m token (.str audience) = .error f ∨
      f = malformed ∧ ∃ v, c.payloadFor m token (.str audience) = .ok v := by
  cases hp : c.payloadFor m token (.str audience) with
  | error g =>
    obtain rfl := Except.error.inj ((decode_of_payloadFor hp).symm.trans h)
    exact .inl rfl
  | ok v =>
    refine .inr ⟨?_, v, rfl⟩
    rw [decode] at h
    split_ifs at h with haccess hrefresh
    · rw [Except.map_eq_error, decodeAccess, ← Value.same_str.1 haccess, hp] at h
      exact AccessClaims.ofPayload_eq_error h
    · rw [Except.map_eq_error, decodeRefresh, ← Value.same_str.1 hrefresh, hp] at h
      exact RefreshClaims.ofPayload_eq_error h
    · rw [Except.map_eq_error, hp] at h
      exact AccessClaims.ofPayload_eq_error h

lemma mac_eq (hs : c.secret = .str secret) (signed : List Char) : c.mac signed =
    Digest.hmac c.algorithm.hash (Text.utf8 secret.toList) (Text.utf8 signed) := by
  rw [mac, hs]
  rfl

lemma isAuthentic_eq_ok (hs : c.secret = .str secret) {authentic : Bool} :
    c.isAuthentic token = .ok authentic ↔
      (authentic = false ↔ Forged secret c.algorithm token) := by
  have hk : c.isKeyed = true := by rw [isKeyed, hs]; rfl
  rw [isAuthentic]
  cases ht : Segments.ofToken? token with
  | none =>
    have hforged : ¬ Forged secret c.algorithm token := by
      rintro ⟨t, hcut, -⟩
      rw [Segments.ofToken?_eq_some.2 hcut] at ht
      cases ht
    cases authentic <;> simp [hforged]
  | some t =>
    have hforged : Forged secret c.algorithm token ↔
        Text.Base64.decode t.signature ≠ c.mac t.signed := by
      rw [mac_eq hs]
      exact (Segments.ofToken?_eq_some.1 ht).forged_iff
    cases authentic <;> simp [hk, hforged]

lemma Opens.not_forged {t : Segments} {header : Value} (h : c.Opens token t header v)
    (hs : c.secret = .str secret) : ¬ Forged secret c.algorithm token := by
  have hsignature : Text.Base64.decode t.signature = c.mac t.signed := by
    conv_lhs => rw [h.signature]
    exact Text.Base64.decode_encodeUrl _
  rw [(Segments.ofToken?_eq_some.1 h.cut).forged_iff, not_not]
  exact hsignature.trans (mac_eq hs _)

lemma not_forged_of_verify (hs : c.secret = .str secret)
    (h : c.verify m.clock m.wall token = .ok v) : ¬ Forged secret c.algorithm token := by
  obtain ⟨s, -, hi, -⟩ := verify_eq_ok.1 h
  obtain ⟨⟨t, header, ho⟩, -⟩ := inspect_eq_ok.1 hi
  exact ho.not_forged hs

lemma not_forged_of_payloadFor (hs : c.secret = .str secret)
    (h : c.payloadFor m token (.str audience) = .ok v) : ¬ Forged secret c.algorithm token :=
  not_forged_of_verify hs (payloadFor_eq_ok.1 h).1

lemma refusal_of_forged (hs : c.secret = .str secret) (h : Forged secret c.algorithm token)
    (cause : Failure) : c.refusal token cause =
      .token .invalidSignature "Invalid token signature" (some cause) := by
  rw [refusal, (isAuthentic_eq_ok hs).2 (iff_of_true rfl h)]

lemma refusal_of_not_forged (hs : c.secret = .str secret)
    (h : ¬ Forged secret c.algorithm token) (cause : Failure) : c.refusal token cause =
      .token .invalidToken s!"Invalid token: {cause.reason}" (some cause) := by
  rw [refusal, (isAuthentic_eq_ok hs).2 (iff_of_false Bool.true_eq_false_eq_False h)]

lemma refused_refusal (hs : c.secret = .str secret) (cause : Failure) :
    Refused secret c.algorithm token (c.refusal token cause) := by
  by_cases h : Forged secret c.algorithm token
  · rw [refusal_of_forged hs h]
    exact .forged h
  · rw [refusal_of_not_forged hs h]
    exact .other h (by simp)

section

variable {clock : Clock} {wall : Number}

lemma verify_of_objection {s : Number} {o : Objection} (hs : now clock wall = .ok s)
    (ho : c.inspect s token = .error o) (hne : o ≠ .expired) :
    c.verify clock wall token = .error (c.refusal token o.failure) := by
  rw [verify, hs]
  simp only [ho]

lemma verify_of_expired {s : Number} (hs : now clock wall = .ok s)
    (ho : c.inspect s token = .error .expired) : c.verify clock wall token =
      .error (.token .expired "Token has expired" (some Objection.expired.failure)) := by
  rw [verify, hs]
  simp only [ho]

lemma verify_of_unread (hs : now clock wall = .error f) :
    c.verify clock wall token = .error (c.refusal token f) := by
  rw [verify, hs]

lemma verify_of_not_opens (clock : Clock) (wall : Number)
    (h : ∀ t header payload, ¬ c.Opens token t header payload) :
    ∃ cause, c.verify clock wall token = .error (c.refusal token cause) := by
  cases hs : now clock wall with
  | error f => exact ⟨f, verify_of_unread hs⟩
  | ok s =>
    obtain ⟨t, header, payload, ho⟩ | ⟨o, ho, hne⟩ := c.opens_or_error s token
    · exact absurd ho (h t header payload)
    · exact ⟨o.failure, verify_of_objection hs ho hne⟩

lemma refused_of_verify (hs : c.secret = .str secret) (h : c.verify clock wall token = .error f) :
    Refused secret c.algorithm token f := by
  by_cases ho : ∃ t header payload, c.Opens token t header payload
  · obtain ⟨t, header, payload, ho⟩ := ho
    rw [verify] at h
    split at h
    · obtain rfl := Except.error.inj h
      exact refused_refusal hs _
    split at h
    · obtain rfl := Except.error.inj h
      exact .other (ho.not_forged hs) (by simp)
    · obtain rfl := Except.error.inj h
      exact refused_refusal hs _
    · obtain rfl := Except.error.inj h
      exact .other (ho.not_forged hs) (by simp)
    · cases h
  · obtain ⟨cause, hv⟩ := verify_of_not_opens clock wall
      fun t header payload hp => ho ⟨t, header, payload, hp⟩
    obtain rfl := Except.error.inj (hv.symm.trans h)
    exact refused_refusal hs cause

end

lemma refused_of_payloadFor (hs : c.secret = .str secret)
    (h : c.payloadFor m token (.str audience) = .error f) :
    Refused secret c.algorithm token f := by
  obtain h | ⟨rfl, v, hv⟩ := payloadFor_eq_error h
  · exact refused_of_verify hs h
  · exact .other (not_forged_of_verify hs hv) (by simp)

lemma refused_of_decode (hs : c.secret = .str secret)
    (h : c.decode m token (.str audience) = .error f) : Refused secret c.algorithm token f := by
  obtain h | ⟨rfl, v, hv⟩ := decode_eq_error h
  · exact refused_of_payloadFor hs h
  · exact .other (not_forged_of_payloadFor hs hv) (by simp)

def Refuses (f : Failure) : Prop := ∃ fault message cause, f = .token fault message cause

lemma secret_of_isKeyed (hk : c.isKeyed = true) : ∃ secret, c.secret = .str secret := by
  rw [isKeyed] at hk
  cases hs : c.secret with
  | str secret => exact ⟨secret, rfl⟩
  | _ => simp [hs, Value.isText] at hk

lemma refuses_of_decodeRefresh (hk : c.isKeyed = true) (h : c.decodeRefresh m token = .error f) :
    Refuses f := by
  obtain ⟨secret, hs⟩ := secret_of_isKeyed hk
  have hd : c.decode m token (.str refreshAudience) = .error f := by
    rw [decode, if_neg (by decide), if_pos (by decide), Except.map_eq_error, h]
  cases refused_of_decode hs hd <;> exact ⟨_, _, _, rfl⟩

lemma make?_eq_ok {issuer : Value} {alg : Algorithm}
    (h : make? (.str secret) issuer (.str alg.name) = .ok c) :
    c.secret = .str secret ∧ c.issuer = issuer ∧ c.algorithm = alg ∧ c.isNamed = true := by
  have ha : algorithmOf (.str alg.name) = .ok alg := by cases alg <;> rfl
  rw [make?] at h
  simp only [Value.isAbsent, Value.isUndefined, Value.isNull, Bool.or_self, Bool.false_eq_true,
    if_false, ha] at h
  split_ifs at h
  obtain rfl := Except.ok.inj h
  exact ⟨rfl, rfl, rfl, rfl⟩

end Codec

def FailsWith {α : Type} (fault : TokenFault) (r : Except Failure α) : Prop :=
  ∃ message cause, r = .error (.token fault message cause)

lemma Codec.failsWith_of_not_opens {c : Codec} {m : Moment} {token secret : String}
    (hs : c.secret = .str secret) (h : ∀ t header payload, ¬ c.Opens token t header payload)
    (audience : String) :
    (FailsWith .invalidSignature (c.decode m token (.str audience)) ↔
      Forged secret c.algorithm token) ∧
    (FailsWith .invalidToken (c.decode m token (.str audience)) ↔
      ¬ Forged secret c.algorithm token) := by
  obtain ⟨cause, hverify⟩ := verify_of_not_opens m.clock m.wall h
  rw [decode_of_verify hverify]
  by_cases hforged : Forged secret c.algorithm token
  · simp [FailsWith, refusal_of_forged hs hforged, hforged]
  · simp [FailsWith, refusal_of_not_forged hs hforged, hforged]

/-- A token is refused as unauthentic exactly if it is forged, so that any other outcome vouches for
the signature of a token in three segments; and it is never refused but for one of four faults. -/
theorem invalidSignature_iff_forged {c : Codec} {secret : String} {issuer : Value}
    {alg : Algorithm} (hc : Codec.make? (.str secret) issuer (.str alg.name) = .ok c) (m : Moment)
    (token audience : String) :
    (FailsWith .invalidSignature (c.decode m token (.str audience)) ↔ Forged secret alg token) ∧
    (∀ t, Segments.Cut token t →
      ¬ FailsWith .invalidSignature (c.decode m token (.str audience)) →
        Text.Base64.decode t.signature = Digest.hmac alg.hash (Text.utf8 secret.toList)
          (Text.utf8 (t.header ++ '.' :: t.payload))) ∧
    ∀ f, c.decode m token (.str audience) = .error f →
      ∃ fault ∈ TokenFault.listed, ∃ message cause, f = .token fault message cause := by
  obtain ⟨hs, -, rfl, -⟩ := Codec.make?_eq_ok hc
  have hiff : FailsWith .invalidSignature (c.decode m token (.str audience)) ↔
      Forged secret c.algorithm token := by
    constructor
    · rintro ⟨message, cause, hd⟩
      cases Codec.refused_of_decode hs hd with
      | forged h => exact h
      | other _ hfault => simp at hfault
    · intro h
      cases hd : c.decode m token (.str audience) with
      | ok result =>
        obtain ⟨v, hv⟩ := Codec.payloadFor_of_decode hd
        exact absurd h (Codec.not_forged_of_payloadFor hs hv)
      | error f =>
        cases Codec.refused_of_decode hs hd with
        | forged _ => exact ⟨_, _, rfl⟩
        | other hnot _ => exact absurd h hnot
  refine ⟨hiff, fun t hcut hno => ?_, fun f hf => ?_⟩
  · by_contra hne
    exact hno (hiff.2 ⟨t, hcut, hne⟩)
  · cases Codec.refused_of_decode hs hf with
    | forged _ => exact ⟨_, by simp [TokenFault.listed], _, _, rfl⟩
    | other _ hfault =>
      refine ⟨_, ?_, _, _, rfl⟩
      simp only [List.mem_cons, List.not_mem_nil, or_false] at hfault
      rcases hfault with rfl | rfl | rfl <;> simp [TokenFault.listed]

theorem invalidSignature_unsigned :
    FailsWith .invalidSignature (sampleCodec.decode ⟨.raises (.error "no clock"), .finite 0, false⟩
      "eyJhbGciOiJub25lIn0.e30." (.str "access")) := by
  refine (invalidSignature_iff_forged make?_sampleCodec _ _ _).1.2
    ⟨⟨"eyJhbGciOiJub25lIn0".toList, "e30".toList, []⟩, ⟨?_, ?_, ?_, ?_⟩, ?_⟩
  · decide
  · decide
  · decide
  · simp
  · exact (Digest.hmac_ne_nil _ _ _).symm

end AuthGate.Token
