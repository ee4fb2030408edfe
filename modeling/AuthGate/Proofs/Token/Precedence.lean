import AuthGate.Proofs.Token.Issue

namespace AuthGate.Token

def Outlived (r : Record) (m : Moment) : Prop :=
  ∃ now exp, Codec.now m.clock m.wall = .ok now ∧ r.get "exp" = .num exp ∧ exp.le now = true

lemma checkExpiry_eq_expired {payload : Value} {now : Number} :
    checkExpiry payload now = .error .expired ↔
      ∃ n, payload.field "exp" = .num n ∧ n.le now = true := by
  rw [checkExpiry]
  split
  · simp_all
  · rename_i n hn
    simp [hn]
  · simp_all

namespace Codec

variable {c : Codec} {m : Moment} {token secret issuer : String} {r : Record}

lemma judge_foreign {now : Number} (hi : issuer ≠ "") (hc : c.issuer = .str issuer)
    (hnbf : r.get "nbf" = .undefined) (hiss : r.get "iss" ≠ .str issuer) :
    c.judge now (.obj r) =
      (checkExpiry (.obj r) now).bind fun _ => .error (.otherIssuer issuer) := by
  have hstart : checkStart (.obj r) now = .ok () := checkStart_eq_ok.2 (.inl hnbf)
  have hissuer : checkIssuer (.obj r) c.issuer = .error (.otherIssuer issuer) := by
    have hno : ¬ acceptsIssuer (.str issuer) ((Value.obj r).field "iss") = true :=
      fun h => hiss ((acceptsIssuer_str hi).1 h)
    rw [checkIssuer, hc, if_neg hno]
    rfl
  simp only [judge, Value.isNull, hstart, hissuer, bind, Except.bind, Bool.false_eq_true, if_false]

section

variable {t : Segments} {header : Value} (ho : c.Opens token t header (.obj r))
  (hi : issuer ≠ "") (hc : c.issuer = .str issuer) (hnbf : r.get "nbf" = .undefined)
  (hiss : r.get "iss" ≠ .str issuer)

include ho hi hc hnbf hiss

lemma verify_of_outlived (h : Outlived r m) : c.verify m.clock m.wall token =
    .error (.token .expired "Token has expired" (some Objection.expired.failure)) := by
  obtain ⟨now, exp, hnow, hexp, hle⟩ := h
  have hexpired : checkExpiry (.obj r) now = .error .expired :=
    checkExpiry_eq_expired.2 ⟨exp, hexp, hle⟩
  refine verify_of_expired hnow ?_
  rw [ho.inspect, judge_foreign hi hc hnbf hiss, hexpired]
  rfl

lemma verify_of_lasting {now : Number} (hnow : Codec.now m.clock m.wall = .ok now)
    (hexp : checkExpiry (.obj r) now = .ok ()) : c.verify m.clock m.wall token =
      .error (c.refusal token (Objection.otherIssuer issuer).failure) := by
  refine verify_of_objection hnow ?_ (by simp)
  rw [ho.inspect, judge_foreign hi hc hnbf hiss, hexp]
  rfl

lemma verify_of_not_outlived (h : ¬ Outlived r m) :
    ∃ cause, c.verify m.clock m.wall token = .error (c.refusal token cause) := by
  cases hnow : Codec.now m.clock m.wall with
  | error f => exact ⟨f, verify_of_unread hnow⟩
  | ok now =>
    cases hexp : checkExpiry (.obj r) now with
    | ok u => exact ⟨_, verify_of_lasting ho hi hc hnbf hiss hnow hexp⟩
    | error o =>
      refine ⟨o.failure, verify_of_objection hnow ?_ fun he => ?_⟩
      · rw [ho.inspect, judge_foreign hi hc hnbf hiss, hexp]
        rfl
      · obtain ⟨n, hn, hle⟩ := checkExpiry_eq_expired.1 (he ▸ hexp)
        exact h ⟨now, n, hnow, hn, hle⟩

end

end Codec

/-- A token of another issuer is refused as expired if its time is over, and as invalid if not: for
its issuer, where it is known to last. -/
theorem foreign_refused {c : Codec} {secret issuer : String} {alg : Algorithm} (hi : issuer ≠ "")
    (hc : Codec.make? (.str secret) (.str issuer) (.str alg.name) = .ok c) {token : String}
    {t : Segments} {header : Value} {r : Record}
    (hcut : token.toList = t.header ++ '.' :: t.payload ++ '.' :: t.signature)
    (ha : Authentic secret alg t header)
    (hp : Segments.Carries header (Text.ofUtf8 (Text.Base64.decode t.payload)) r)
    (hnbf : r.has "nbf" = false) (hiss : r.get "iss" ≠ .str issuer) (m : Moment)
    (audience : String) :
    (FailsWith .expired (c.decode m token (.str audience)) ↔ Outlived r m) ∧
    (FailsWith .invalidToken (c.decode m token (.str audience)) ↔ ¬ Outlived r m) ∧
    ∀ now, Codec.now m.clock m.wall = .ok now →
      (r.has "exp" = false ∨ ∃ exp, r.get "exp" = .num exp ∧ exp.le now = false) →
        c.decode m token (.str audience) = .error (.token .invalidToken
          s!"Invalid token: jwt issuer invalid. expected: {issuer}"
          (some (Objection.otherIssuer issuer).failure)) := by
  obtain ⟨hs, hissuer, rfl, hnamed⟩ := Codec.make?_eq_ok hc
  obtain ⟨t, header, ho⟩ := (Codec.opens_iff hs hnamed).2 ⟨t, header, hcut, ha, hp⟩
  have hforged := ho.not_forged hs
  have hstart : r.get "nbf" = .undefined := hp.shown.absent.2 hnbf
  refine and_assoc.1 ⟨?_, fun now hnow hexp => ?_⟩
  · by_cases hout : Outlived r m
    · rw [Codec.decode_of_verify (Codec.verify_of_outlived ho hi hissuer hstart hiss hout)]
      simp [FailsWith, hout]
    · obtain ⟨cause, hverify⟩ := Codec.verify_of_not_outlived ho hi hissuer hstart hiss hout
      rw [Codec.decode_of_verify hverify, Codec.refusal_of_not_forged hs hforged]
      simp [FailsWith, hout]
  · have hlasts : checkExpiry (.obj r) now = .ok () := by
      rw [← hp.shown.absent] at hexp
      exact checkExpiry_eq_ok.2 hexp
    rw [Codec.decode_of_verify (Codec.verify_of_lasting ho hi hissuer hstart hiss hnow hlasts),
      Codec.refusal_of_not_forged hs hforged]
    rfl

def foreignCodec : Codec := { sampleCodec with issuer := .str "someone-else" }

def foreignPayload : Record :=
  [("id", .str "user-1"), ("aud", .str accessAudience), ("iat", .num (.finite 1700000000)),
    ("exp", .num (.finite 1700000060)), ("iss", foreignCodec.issuer)]

def expiryMoment : Moment := ⟨.reads (.finite 1700000060000), .finite 0, false⟩

theorem foreign_refused_late : FailsWith .expired (sampleCodec.decode expiryMoment
    (sampleCodec.wrap (.obj foreignPayload)) (.str accessAudience)) := by
  have hbinary (n : ℕ) (h : n ≤ 2 ^ 53) : Number.IsBinary n := Number.isBinary_natCast h
  have hread : Json.Readable (.obj foreignPayload) :=
    Issuer.readable_access (t := ⟨foreignCodec, .null, .null⟩) rfl
      (by exact_mod_cast hbinary 1700000000 (by norm_num))
      (by exact_mod_cast hbinary 1700000060 (by norm_num))
  have hseconds : Number.seconds (.finite 1700000060000) = .finite 1700000060 := by decide +kernel
  have hnow : Codec.now expiryMoment.clock expiryMoment.wall = .ok (.finite 1700000060) :=
    Issuer.now_eq (congrArg Except.ok hseconds) (by norm_num)
  have hiss : foreignPayload.get "iss" ≠ .str "wishlist-backend" :=
    fun h => absurd (Value.str.inj h) (by decide)
  obtain ⟨t, header, hcut, ha, hp⟩ := authentic_wrap (c := sampleCodec) rfl rfl hread rfl
  exact (foreign_refused (by decide) make?_sampleCodec hcut ha hp rfl hiss _ _).1.2
    ⟨_, _, hnow, rfl, by decide +kernel⟩

end AuthGate.Token
