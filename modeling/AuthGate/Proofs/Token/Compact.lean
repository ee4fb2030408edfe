import AuthGate.Proofs.Number.Integer
import AuthGate.Proofs.Text.Words
import AuthGate.Proofs.Token.Window

namespace AuthGate

lemma Json.same_of_readNumber {m n : Number} (hm : m.isSafeInteger = true)
    (hn : n.isSafeInteger = true) (h : readNumber m = readNumber n) :
    (Value.num m).same (.num n) = true := by
  rcases Number.eq_intCast_of_isSafeInteger hm with rfl | ⟨j, rfl, -⟩ <;>
    rcases Number.eq_intCast_of_isSafeInteger hn with rfl | ⟨k, rfl, -⟩
  · rfl
  · obtain hk : 0 = (k : ℚ) := Number.finite.inj (Value.num.inj h)
    simp [Value.same, Number.isZero, ← hk]
  · obtain hj : (j : ℚ) = 0 := Number.finite.inj (Value.num.inj h)
    simp [Value.same, Number.isZero, hj]
  · obtain hjk : (j : ℚ) = k := Number.finite.inj (Value.num.inj h)
    simp [Value.same, hjk]

namespace Token

variable {c : Codec} {token : String} {t : Segments} {v w : Value}

def IsSegment (s : List Char) : Prop := s ≠ [] ∧ ∀ ch ∈ s, Text.Base64.isUrlChar ch = true

structure Compact (token : String) (t : Segments) : Prop where
  chars : token.toList = t.header ++ '.' :: t.payload ++ '.' :: t.signature
  header : IsSegment t.header
  payload : IsSegment t.payload
  signature : IsSegment t.signature

lemma isSegment_encodeUrl {bs : List UInt8} (h : Text.Base64.encodeUrl bs ≠ []) :
    IsSegment (Text.Base64.encodeUrl bs) :=
  ⟨h, List.all_eq_true.1 (Text.Base64.encodeUrl_all bs)⟩

lemma IsSegment.dot_notMem {s : List Char} (h : IsSegment s) : '.' ∉ s := by
  intro hdot
  exact absurd (h.2 '.' hdot) (by decide)

lemma Compact.cut (h : Compact token t) : Segments.Cut token t :=
  ⟨h.chars, h.header.dot_notMem, h.payload.dot_notMem, h.signature.dot_notMem⟩

lemma Compact.isWord (h : Compact token t) : Text.IsWord token.toList := by
  rw [h.chars]
  refine ⟨by simp, fun ch hch => ?_⟩
  simp only [List.mem_append, List.mem_cons] at hch
  have hsegment {s : List Char} (hs : IsSegment s) (hmem : ch ∈ s) : Text.isBlank ch = false :=
    Text.Base64.not_isBlank_of_isUrlChar (hs.2 ch hmem)
  rcases hch with (hch | rfl | hch) | rfl | hch
  · exact hsegment h.header hch
  · decide
  · exact hsegment h.payload hch
  · decide
  · exact hsegment h.signature hch

lemma Codec.compact_wrap (c : Codec) (h : Json.Doubles v) : Compact (c.wrap v) (c.segments v) := by
  have hsegment {w : Value} (hw : Json.Doubles w) : IsSegment (segment w) :=
    isSegment_encodeUrl (segment_ne_nil (print_ne_nil hw))
  refine ⟨String.toList_ofList, ?_, hsegment h, ?_⟩
  · apply hsegment
    exact (Json.readBack_eq _ c.readable_header).1
  · exact isSegment_encodeUrl (c.signature_ne_nil _)

/-- Each layer of a token can be undone: its segments, their bytes, the characters of these and the
values that they spell. -/
lemma Codec.readBack_of_wrap (hv : Json.Doubles v) (hw : Json.Doubles w)
    (h : c.wrap v = c.wrap w) : Json.readBack v = Json.readBack w := by
  have hcut : Segments.Cut (c.wrap w) (c.segments v) := h ▸ (c.compact_wrap hv).cut
  have hsegments : c.segments v = c.segments w := hcut.unique (c.compact_wrap hw).cut
  have hpayload : segment v = segment w := congrArg Segments.payload hsegments
  apply Json.readBack_of_print hv hw
  exact Text.utf8_injective (Text.Base64.encodeUrl_injective hpayload)

structure Draft where
  subject : Subject
  data : Record
  issuedAt : Number
  expiresAt : Number
  valid : subject.Valid
  gives : Gives data subject
  issuedAt_safe : issuedAt.isSafeInteger = true
  issuedAt_ne_zero : issuedAt.isZero = false
  expiresAt_safe : expiresAt.isSafeInteger = true

namespace Draft

variable {d e : Draft} {issuer : String}

def payload (c : Codec) (d : Draft) : Record :=
  c.payload d.data (.str d.subject.audience) (.num d.issuedAt) (.num d.expiresAt)

def encode (c : Codec) (wall : Number) (d : Draft) : Except Failure String :=
  c.encode wall d.data (.str d.subject.audience) (.num d.issuedAt) (.num d.expiresAt)

structure Same (d e : Draft) : Prop where
  subject : d.subject = e.subject
  issuedAt : d.issuedAt = e.issuedAt
  expiresAt : (Value.num d.expiresAt).same (.num e.expiresAt) = true

lemma encode_eq (hk : c.isKeyed = true) (hn : c.isNamed = true) (wall : Number) (d : Draft) :
    d.encode c wall = .ok (c.wrap (.obj (d.payload c))) := by
  have hblank : d.issuedAt.isBlank = false := by
    rw [Number.isBlank, d.issuedAt_ne_zero, Bool.or_false]
    rcases Number.eq_intCast_of_isSafeInteger d.issuedAt_safe with h | ⟨k, h, -⟩ <;> rw [h] <;> rfl
  have hclaims := Codec.checkClaims_of_gives (c := c) d.gives (.str d.subject.audience)
    d.issuedAt d.expiresAt
  rw [encode, Codec.encode_eq_ok hk hn hblank hclaims, Codec.sign_eq]
  rfl

lemma doubles_num {n : Number} (h : n.isSafeInteger = true) : Json.Doubles (.num n) := by
  cases n with
  | finite q => exact Number.isBinary_of_isSafeInteger h q rfl
  | _ => trivial

lemma doubles_data {x : Subject} (hx : x.Valid) : ∀ p ∈ x.data, Json.Doubles p.2 := by
  cases x with
  | access id => simp [Subject.data, Json.Doubles]
  | refresh id tokenId =>
    simp only [Subject.data, List.forall_mem_cons]
    refine ⟨trivial, ?_, by simp⟩
    exact Number.isBinary_natCast (hx.2.2.trans (by decide))

lemma doubles_payload (hi : c.issuer = .str issuer) (d : Draft) :
    Json.Doubles (.obj (d.payload c)) := by
  apply Json.doubleFields_iff.2
  intro p hp
  rcases (Codec.mem_payload d.gives).1 hp with hp | hp
  · exact doubles_data d.valid p hp
  · simp only [hi, List.mem_cons, List.not_mem_nil, or_false] at hp
    rcases hp with rfl | rfl | rfl | rfl
    · trivial
    · exact doubles_num d.issuedAt_safe
    · exact doubles_num d.expiresAt_safe
    · trivial

def claims (c : Codec) (d : Draft) : Record :=
  d.subject.data ++ [("aud", .str d.subject.audience), ("iat", .num d.issuedAt),
    ("exp", .num d.expiresAt), ("iss", c.issuer)]

lemma told_payload (d : Draft) {p : String × Value} (h : p ∈ d.claims c) :
    (Json.readBack (.obj (d.payload c))).field p.1 = Json.told p.2 := by
  have hget : (d.payload c).get p.1 = p.2 := Codec.get_payload d.gives (List.mem_append.1 h)
  have hnodup : (d.payload c).keys.Nodup := Codec.nodup_payload d.gives
  rw [Json.field_readBack hnodup, hget]

lemma subject_eq {x y : Subject} (ha : x.audience = y.audience)
    (h : ∀ k v w, (k, v) ∈ x.data → (k, w) ∈ y.data → Json.told v = Json.told w) : x = y := by
  have hother : accessAudience ≠ refreshAudience := by decide
  cases x with
  | access id =>
    cases y with
    | access id' =>
      have hid : Json.told (.str id) = Json.told (.str id') :=
        h "id" _ _ (by simp [Subject.data]) (by simp [Subject.data])
      rw [Value.str.inj hid]
    | refresh id' n => exact absurd ha hother
  | refresh id m =>
    cases y with
    | access id' => exact absurd ha.symm hother
    | refresh id' n =>
      have hid : Json.told (.str id) = Json.told (.str id') :=
        h "id" _ _ (by simp [Subject.data]) (by simp [Subject.data])
      have htoken : Json.told (.num (.finite m)) = Json.told (.num (.finite n)) :=
        h "token_id" _ _ (by simp [Subject.data]) (by simp [Subject.data])
      obtain rfl : m = n := Nat.cast_injective (Number.finite.inj (Value.num.inj htoken))
      rw [Value.str.inj hid]

lemma same_of_readBack
    (h : Json.readBack (.obj (d.payload c)) = Json.readBack (.obj (e.payload c))) : d.Same e := by
  have htold (k : String) (v w : Value) (hv : (k, v) ∈ d.claims c) (hw : (k, w) ∈ e.claims c) :
      Json.told v = Json.told w := by
    rw [← d.told_payload hv, ← e.told_payload hw, h]
  have haudience : Json.told (.str d.subject.audience) = Json.told (.str e.subject.audience) :=
    htold "aud" _ _ (by simp [claims]) (by simp [claims])
  have hissued : Json.told (.num d.issuedAt) = Json.told (.num e.issuedAt) :=
    htold "iat" _ _ (by simp [claims]) (by simp [claims])
  have hexpires : Json.told (.num d.expiresAt) = Json.told (.num e.expiresAt) :=
    htold "exp" _ _ (by simp [claims]) (by simp [claims])
  refine ⟨subject_eq (Value.str.inj haudience) fun k v w hv hw => ?_, ?_, ?_⟩
  · apply htold k
    · exact List.mem_append_left _ hv
    · exact List.mem_append_left _ hw
  · have hsame := Json.same_of_readNumber d.issuedAt_safe e.issuedAt_safe hissued
    simpa [Value.same, d.issuedAt_ne_zero] using hsame
  · exact Json.same_of_readNumber d.expiresAt_safe e.expiresAt_safe hexpires

lemma exists_make? {secret : String} (hne : secret ≠ "") (issuer : String) {algorithm : Value}
    (halg : algorithm.isAbsent = true ∨ ∃ a : Algorithm, algorithm = .str a.name) :
    ∃ c, Codec.make? (.str secret) (.str issuer) algorithm = .ok c ∧ c.isKeyed = true ∧
      c.isNamed = true ∧ c.issuer = .str issuer := by
  obtain ⟨a, ha⟩ : ∃ a : Algorithm, Codec.make? (.str secret) (.str issuer) algorithm =
      Codec.make? (.str secret) (.str issuer) (.str a.name) := by
    rcases halg with habsent | ⟨a, rfl⟩
    · refine ⟨.hs256, ?_⟩
      rw [Codec.make?, habsent]
      rfl
    · exact ⟨a, rfl⟩
  obtain ⟨c, hc, hsecret, hi, -, hn⟩ := Codec.make?_texts hne issuer a
  refine ⟨c, ha.trans hc, ?_, hn, hi⟩
  rw [Codec.isKeyed, hsecret]
  rfl

/-- From a secret, an issuer and the name of an algorithm a codec is made that turns every draft
into a token: three segments of the URL-safe alphabet, and one word. Drafts with the same token have
the same audience and data and the same times. -/
theorem encode_injective {secret : String} (hne : secret ≠ "") (issuer : String)
    {algorithm : Value}
    (halg : algorithm.isAbsent = true ∨ ∃ a : Algorithm, algorithm = .str a.name) :
    ∃ c, Codec.make? (.str secret) (.str issuer) algorithm = .ok c ∧
      (∀ (wall : Number) (d : Draft), ∃ token t, d.encode c wall = .ok token ∧ Compact token t ∧
        Text.IsWord token.toList) ∧
      ∀ (wall wall' : Number) (d e : Draft) (token : String), d.encode c wall = .ok token →
        e.encode c wall' = .ok token → d.Same e := by
  obtain ⟨c, hc, hk, hn, hi⟩ := exists_make? hne issuer halg
  refine ⟨c, hc, fun wall d => ?_, fun wall wall' d e token hd he => ?_⟩
  · have hcompact := c.compact_wrap (d.doubles_payload hi)
    exact ⟨_, _, d.encode_eq hk hn wall, hcompact, hcompact.isWord⟩
  · rw [encode_eq hk hn] at hd he
    have hwrap := (Except.ok.inj hd).trans (Except.ok.inj he).symm
    apply same_of_readBack
    exact Codec.readBack_of_wrap (d.doubles_payload hi) (e.doubles_payload hi) hwrap

def earlyDraft : Draft where
  subject := .refresh "Zoë \"1\"\n" 7
  data := greedyData
  issuedAt := .finite (-1)
  expiresAt := .negZero
  valid := ⟨by decide, by decide, by decide⟩
  gives := gives_greedyData
  issuedAt_safe := by decide
  issuedAt_ne_zero := by decide
  expiresAt_safe := by decide

def lateDraft : Draft where
  subject := .refresh "Zoë \"1\"\n" 8
  data := [("token_id", .num (.finite (8 : ℕ))), ("id", .str "Zoë \"1\"\n")]
  issuedAt := .finite (-1)
  expiresAt := .zero
  valid := ⟨by decide, by decide, by decide⟩
  gives := ⟨by decide, List.Perm.swap ..⟩
  issuedAt_safe := by decide
  issuedAt_ne_zero := by decide
  expiresAt_safe := by decide

theorem encode_injective_records : ∃ c token token',
    Codec.make? (.str "test-secret") (.str "") .undefined = .ok c ∧
    earlyDraft.encode c .zero = .ok token ∧ lateDraft.encode c .zero = .ok token' ∧
    token ≠ token' := by
  have hne : "test-secret" ≠ "" := by decide
  have habsent : Value.undefined.isAbsent = true := rfl
  obtain ⟨c, hc, hencode, hsame⟩ := encode_injective hne "" (.inl habsent)
  obtain ⟨token, -, hearly, -⟩ := hencode .zero earlyDraft
  obtain ⟨token', -, hlate, -⟩ := hencode .zero lateDraft
  refine ⟨c, token, token', hc, hearly, hlate, ?_⟩
  rintro rfl
  have hsubject : Subject.refresh "Zoë \"1\"\n" 7 = .refresh "Zoë \"1\"\n" 8 :=
    (hsame _ _ _ _ _ hearly hlate).subject
  exact absurd (Subject.refresh.inj hsubject).2 (by decide)

end Draft

end Token

end AuthGate
