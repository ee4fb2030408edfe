import AuthGate.Proofs.Json.RoundTrip
import AuthGate.Proofs.Record
import AuthGate.Proofs.Text.Utf8
import AuthGate.Proofs.Token.Segments
import AuthGate.Token.Claims

/-! Signed tokens. What a codec has signed it opens again, and it opens nothing else; what is left
to check then is a matter of the payload alone. -/

namespace AuthGate

namespace Digest

lemma Family.digest_ne_nil {W : Type} (F : Family W) (start : Chain W) {n : ℕ} (hn : n ≠ 0)
    (hw : F.wordBytes ≠ 0) (message : List UInt8) : F.digest start n message ≠ [] := by
  obtain ⟨n, rfl⟩ := Nat.exists_eq_succ_of_ne_zero hn
  intro h
  simp only [digest, words, List.take_succ_cons, List.flatMap_cons, List.append_eq_nil_iff] at h
  simp [bytesOf, hw] at h

lemma hmac_ne_nil (h : Hash) (key message : List UInt8) : hmac h key message ≠ [] := by
  cases h with
  | sha256 => exact family32.digest_ne_nil _ (by decide) (by decide) _
  | sha384 => exact family64.digest_ne_nil _ (by decide) (by decide) _
  | sha512 => exact family64.digest_ne_nil _ (by decide) (by decide) _

end Digest

namespace Token

variable {c : Codec} {now : Number} {token : String} {t : Segments} {header payload : Value}

lemma checkIssuer_eq_ok {expected : Value} : checkIssuer payload expected = .ok () ↔
    acceptsIssuer expected (payload.field "iss") = true := by
  rw [checkIssuer]
  split_ifs with hi
  · simp [hi]
  · split <;> simp [hi]

namespace Codec

lemma signature_ne_nil (c : Codec) (signed : List Char) : c.signature signed ≠ [] :=
  Text.Base64.encodeUrl_ne_nil (Digest.hmac_ne_nil _ _ _)

def judge (c : Codec) (now : Number) (payload : Value) : Except Objection Unit := do
  if payload.isNull then throw .nullPayload
  checkStart payload now
  checkExpiry payload now
  checkIssuer payload c.issuer

/-- A token of the codec's own making, as far as its signature can tell. -/
structure Opens (c : Codec) (token : String) (t : Segments) (header payload : Value) : Prop where
  cut : Segments.ofToken? token = some t
  wellFormed : t.isWellFormed = true
  readHeader : t.readHeader = some header
  readPayload : t.readPayload header = .ok payload
  keyed : c.isKeyed = true
  named : c.isNamed = true
  algorithm : header.field "alg" = .str c.algorithm.name
  signature : t.signature = c.signature t.signed

lemma Opens.inspect (h : c.Opens token t header payload) (now : Number) :
    c.inspect now token = (c.judge now payload).map fun _ => payload := by
  have hempty : token ≠ "" := by
    rintro rfl
    simpa [Segments.ofToken?, Text.splitAt] using h.cut
  have hs : (c.signature t.signed).isEmpty = false :=
    List.isEmpty_eq_false_iff.2 (c.signature_ne_nil _)
  have halg : (header.field "alg").same (.str c.algorithm.name) = true :=
    Value.same_str.2 h.algorithm
  rw [Codec.inspect, judge]
  simp only [hempty, h.cut, h.wellFormed, h.readHeader, h.readPayload, hs, h.keyed, h.named, halg,
    h.signature, bind, pure, Except.bind, Except.pure, throw, throwThe, MonadExceptOf.throw,
    Bool.not_true, Bool.and_self, Bool.false_eq_true, ne_eq, not_true_eq_false, if_false]
  split_ifs
  · rfl
  · cases checkStart payload now with
    | error o => rfl
    | ok u =>
      cases checkExpiry payload now with
      | error o => rfl
      | ok u => cases checkIssuer payload c.issuer <;> rfl

lemma opens_or_error (c : Codec) (now : Number) (token : String) :
    (∃ t header payload, c.Opens token t header payload) ∨
      ∃ o, c.inspect now token = .error o ∧ o ≠ .expired := by
  rw [Codec.inspect]
  simp only [bind, pure, Except.bind, Except.pure, throw, throwThe, MonadExceptOf.throw]
  split
  · exact .inr ⟨_, rfl, by simp⟩
  split
  · rename_i t hcut
    split
    · exact .inr ⟨_, rfl, by simp⟩
    rename_i hw
    split
    · rename_i header hheader
      split
      · rename_i o ho
        exact .inr ⟨o, rfl, Segments.readPayload_eq_error ho ▸ by simp⟩
      rename_i payload hpayload
      split
      · exact .inr ⟨_, rfl, by simp⟩
      split
      · exact .inr ⟨_, rfl, by simp⟩
      rename_i hk
      split
      · exact .inr ⟨_, rfl, by simp⟩
      rename_i halg
      split
      · exact .inr ⟨_, rfl, by simp⟩
      rename_i hs
      simp only [Bool.not_eq_true, Bool.not_eq_false', Bool.and_eq_true] at hw hk halg
      exact .inl ⟨t, header, payload, hcut, hw, hheader, hpayload, hk, halg.1,
        Value.same_str.1 halg.2, not_not.1 hs⟩
    · exact .inr ⟨_, rfl, by simp⟩
  · exact .inr ⟨_, rfl, by simp⟩

lemma inspect_eq_ok {v : Value} : c.inspect now token = .ok v ↔
    (∃ t header, c.Opens token t header v) ∧ c.judge now v = .ok () := by
  constructor
  · intro h
    obtain ⟨t, header, payload, ho⟩ | ⟨o, ho, -⟩ := c.opens_or_error now token
    · rw [ho.inspect] at h
      cases hj : c.judge now payload with
      | error o => simp [hj, Except.map] at h
      | ok u =>
        rw [hj] at h
        obtain rfl := Except.ok.inj h
        exact ⟨⟨t, header, ho⟩, hj⟩
    · rw [ho] at h
      cases h
  · rintro ⟨⟨t, header, ho⟩, hj⟩
    rw [ho.inspect, hj]
    rfl

lemma judge_eq_ok {v : Value} : c.judge now v = .ok () ↔ v ≠ .null ∧ checkStart v now = .ok () ∧
    checkExpiry v now = .ok () ∧ acceptsIssuer c.issuer (v.field "iss") = true := by
  have hnull : v.isNull = true ↔ v = .null := by cases v <;> simp [Value.isNull]
  rw [← checkIssuer_eq_ok, ne_eq, ← hnull]
  rw [judge]
  simp only [bind, Except.bind, throw, throwThe, MonadExceptOf.throw]
  split_ifs with h
  · simp [h]
  · cases checkStart v now with
    | error o => simp
    | ok u => cases checkExpiry v now <;> simp [h]

def segments (c : Codec) (v : Value) : Segments :=
  ⟨segment c.header, segment v, c.signature (segment c.header ++ '.' :: segment v)⟩

def wrap (c : Codec) (v : Value) : String := .ofList (c.segments v).chars

lemma sign_eq (c : Codec) (payload : Record) : c.sign payload = c.wrap (.obj payload) := by
  simp only [sign, wrap, segments, Segments.chars, Segments.signed]

lemma readable_header (c : Codec) : Json.Readable c.header :=
  ⟨⟨trivial, trivial, trivial⟩, Record.ofList_new (by simp [Record.keys]; decide)
    (by simp [Record.keys])⟩

lemma header_ascii (c : Codec) : ∀ ch ∈ Json.print c.header, ch.toNat < 0x80 := by
  have h (a : Algorithm) : (Json.print (.obj [("alg", .str a.name), ("typ", .str "JWT")])).all
      (fun ch => decide (ch.toNat < 0x80)) = true := by
    cases a <;> decide +kernel
  intro ch hch
  exact of_decide_eq_true (List.all_eq_true.1 (h c.algorithm) ch hch)

lemma segment_ne_nil {v : Value} (h : Json.print v ≠ []) : segment v ≠ [] :=
  Text.Base64.encodeUrl_ne_nil (Text.utf8_ne_nil h)

lemma print_ne_nil {v : Value} (h : Json.Doubles v) : Json.print v ≠ [] :=
  List.ne_nil_of_length_pos (Json.reads_print v h).1.length_pos

lemma parse?_segments (c : Codec) {v : Value} (hv : Json.Readable v) :
    Json.parse? (Text.ofUtf8 (Text.Base64.decode (c.segments v).payload)) = some v := by
  simp only [segments, segment, Text.Base64.decode_encodeUrl, Text.ofUtf8_utf8,
    Json.parse?_print hv]

lemma isWellFormed_segments (c : Codec) {v : Value} (hv : Json.Readable v) :
    (c.segments v).isWellFormed = true := by
  have hne {w : Value} (hw : Json.Readable w) : segment w ≠ [] :=
    segment_ne_nil (print_ne_nil (Json.readBack_eq w hw).1)
  rw [Segments.isWellFormed_iff]
  simp only [segments, signature]
  exact ⟨hne c.readable_header, hne hv,
    Text.Base64.encodeUrl_all _, Text.Base64.encodeUrl_all _, Text.Base64.encodeUrl_all _⟩

lemma ofToken?_wrap (c : Codec) {v : Value} (hv : Json.Readable v) :
    Segments.ofToken? (c.wrap v) = some (c.segments v) :=
  Segments.ofToken?_of_chars String.toList_ofList (c.isWellFormed_segments hv)

lemma signature_segments (c : Codec) (v : Value) :
    (c.segments v).signature = c.signature (c.segments v).signed := by
  simp only [segments, Segments.signed]

lemma opens_wrap {v : Value} (hk : c.isKeyed = true) (hn : c.isNamed = true)
    (hv : Json.Readable v) :
    c.Opens (c.wrap v) (c.segments v) c.header (Segments.openText v) := by
  have hheader : (c.segments v).readHeader = some c.header := by
    simp only [Segments.readHeader, segments, segment, Text.Base64.decode_encodeUrl,
      Text.ofLatin1_utf8 c.header_ascii, Json.parse?_print c.readable_header]
    rfl
  have hpayload : (c.segments v).readPayload c.header = .ok (Segments.openText v) := by
    simp only [Segments.readPayload, c.parse?_segments hv]
    rfl
  exact ⟨c.ofToken?_wrap hv, c.isWellFormed_segments hv, hheader, hpayload, hk, hn, rfl,
    c.signature_segments v⟩

end Codec

lemma checkStart_eq_ok : checkStart payload now = .ok () ↔ payload.field "nbf" = .undefined ∨
    ∃ n, payload.field "nbf" = .num n ∧ now.lt n = false := by
  rw [checkStart]
  split
  · simp_all
  · rename_i n hn
    simp [hn]
  · simp_all

lemma checkExpiry_eq_ok : checkExpiry payload now = .ok () ↔ payload.field "exp" = .undefined ∨
    ∃ n, payload.field "exp" = .num n ∧ n.le now = false := by
  rw [checkExpiry]
  split
  · simp_all
  · rename_i n hn
    simp [hn]
  · simp_all

end Token

end AuthGate
