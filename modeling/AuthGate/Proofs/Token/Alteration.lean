import AuthGate.Proofs.Token.Shown

namespace AuthGate.Token

def Segments.altered (t : Segments) (i : ℕ) (letter : Char) : String :=
  .ofList { t with signature := t.signature.set i letter }.chars

def Algorithm.spareBits : Algorithm → ℕ
  | .hs256 => 2
  | .hs384 => 0
  | .hs512 => 4

lemma Segments.Cut.altered {token : String} {t : Segments} (h : Cut token t) {letter : Char}
    (hletter : Text.Base64.isUrlChar letter = true) (i : ℕ) :
    Cut (t.altered i letter) { t with signature := t.signature.set i letter } := by
  refine ⟨String.toList_ofList, h.header, h.payload, fun hdot => ?_⟩
  rcases List.mem_or_eq_of_mem_set hdot with hdot | rfl
  · exact h.signature hdot
  · exact absurd hletter (by decide)

namespace Codec

variable {c : Codec}

lemma cut_segments (c : Codec) (v : Value) : Segments.Cut (c.wrap v) (c.segments v) := by
  refine ⟨String.toList_ofList, ?_, ?_, ?_⟩ <;> simp only [segments, segment, signature]
  all_goals exact Segments.dot_notMem (Text.Base64.encodeUrl_all _)

lemma spareBits_signature (c : Codec) (signed : List Char) :
    Text.Base64.spareBits (c.signature signed).length = c.algorithm.spareBits := by
  rw [length_signature]
  cases c.algorithm <;> rfl

section

variable {token secret : String} {t : Segments} {i : ℕ} {letter : Char}
  (hcut : Segments.Cut token t) (hsignature : t.signature = c.signature t.signed)
  (hi : i < t.signature.length) (hletter : Text.Base64.isUrlChar letter = true)
  (hne : letter ≠ t.signature[i])

include hcut hsignature hi hletter hne

lemma forged_altered (hs : c.secret = .str secret) :
    Forged secret c.algorithm (t.altered i letter) ↔
      ¬ Text.Base64.Spare t.signature.length i letter t.signature[i] := by
  rw [(hcut.altered hletter i).forged_iff, ← mac_eq hs]
  obtain ⟨header, payload, signature⟩ := t
  obtain rfl : signature = c.signature (header ++ '.' :: payload) := hsignature
  exact (Text.Base64.decode_set hi hletter hne).not

lemma not_opens_altered (t' : Segments) (header payload : Value) :
    ¬ c.Opens (t.altered i letter) t' header payload := by
  intro h
  obtain rfl := (hcut.altered hletter i).unique (Segments.ofToken?_eq_some.1 h.cut)
  have hset : t.signature.set i letter = t.signature := h.signature.trans hsignature.symm
  have hget := List.getElem_set_self (a := letter) (by simpa using hi)
  simp only [hset] at hget
  exact hne hget.symm

end

lemma isKeyed_of_encode {wall : Number} {data : Record} {audience iat exp : Value} {token : String}
    (h : c.encode wall data audience iat exp = .ok token) : c.isKeyed = true := by
  rw [encode] at h
  split_ifs at h with h1 h2 h3
  all_goals simp_all

end Codec

/-- Whatever codec has made a token, the token with one letter of its signature replaced is refused
by that codec at any time and for any audience: as invalid if the letter is the last one and the new
one differs from it in spare bits only, and as unauthentic if not. -/
theorem altered_signature {c : Codec} {wall : Number} {data : Record} {audience iat exp : Value}
    {token : String} (h : c.encode wall data audience iat exp = .ok token) :
    ∃ t, Segments.Cut token t ∧
      Text.Base64.spareBits t.signature.length = c.algorithm.spareBits ∧
      ∀ i (hi : i < t.signature.length) (letter : Char), Text.Base64.isUrlChar letter = true →
        letter ≠ t.signature[i] → ∀ (m : Moment) (expected : String),
          (FailsWith .invalidSignature (c.decode m (t.altered i letter) (.str expected)) ↔
            ¬ Text.Base64.Spare t.signature.length i letter t.signature[i]) ∧
          (FailsWith .invalidToken (c.decode m (t.altered i letter) (.str expected)) ↔
            Text.Base64.Spare t.signature.length i letter t.signature[i]) := by
  obtain ⟨secret, hs⟩ := Codec.secret_of_isKeyed (Codec.isKeyed_of_encode h)
  obtain ⟨r, rfl⟩ : ∃ r, token = c.wrap (.obj r) :=
    ⟨_, (Codec.eq_sign_of_encode h).trans (c.sign_eq _)⟩
  have hcut := c.cut_segments (.obj r)
  have hsignature := c.signature_segments (.obj r)
  refine ⟨_, hcut, ?_, fun i hi letter hletter hne m expected => ?_⟩
  · rw [hsignature, c.spareBits_signature]
  · have hfails := Codec.failsWith_of_not_opens (m := m) hs
      (Codec.not_opens_altered hcut hsignature hi hletter hne) expected
    rwa [Codec.forged_altered hcut hsignature hi hletter hne hs, not_not] at hfails

lemma encode_sample : sampleCodec.encode (.finite 0) [("id", .str "user-1")] (.str accessAudience)
    (.num (.finite 1700000000)) (.num (.finite 1700000060)) =
      .ok (sampleCodec.sign samplePayload) := by
  have hpayload : sampleCodec.payload [("id", .str "user-1")] (.str accessAudience)
      (.num (.finite 1700000000)) (.num (.finite 1700000060)) = samplePayload :=
    Codec.payload_eq (by simp [Record.keys])
  rw [Codec.encode_eq_ok rfl rfl (by decide) (by rw [hpayload]; rfl), hpayload]

lemma signature_sample : (sampleCodec.segments (.obj samplePayload)).signature =
    "T7jWktkOO0ySQIbFGd6PLY-1rpe1Jm5kMFQNIMXjPF0".toList := by
  decide +kernel

theorem altered_signature_last :
    FailsWith .invalidToken (sampleCodec.decode sampleMoment
      ((sampleCodec.segments (.obj samplePayload)).altered 42 '1') (.str accessAudience)) ∧
    FailsWith .invalidSignature (sampleCodec.decode sampleMoment
      ((sampleCodec.segments (.obj samplePayload)).altered 42 'A') (.str accessAudience)) := by
  obtain ⟨t, hcut, -, hletters⟩ := altered_signature encode_sample
  obtain rfl : sampleCodec.segments (.obj samplePayload) = t :=
    (sampleCodec.cut_segments _).unique (Codec.sign_eq _ _ ▸ hcut)
  have hi : 42 < (sampleCodec.segments (.obj samplePayload)).signature.length := by
    rw [signature_sample]
    decide
  have hlast : (sampleCodec.segments (.obj samplePayload)).signature[42] = '0' := by
    simp only [signature_sample]
    rfl
  refine ⟨(hletters 42 hi '1' (by decide) ?_ _ _).2.2 ?_,
    (hletters 42 hi 'A' (by decide) ?_ _ _).1.2 ?_⟩
  · rw [hlast]
    decide
  · rw [hlast, signature_sample]
    exact ⟨by decide, by decide⟩
  · rw [hlast]
    decide
  · rw [hlast, signature_sample]
    exact fun h => absurd h.2 (by decide)

end AuthGate.Token
