import AuthGate.Proofs.Memory
import AuthGate.Proofs.Token.Issue
import AuthGate.Service.Session

namespace AuthGate

open Program

namespace Program

variable {β : Type} {c : Call} {s : Memory} {m : Moment}

lemma run_ask_ok {a : c.Answer} (h : (Memory.stores c s).result = .ok a) (f : c.Answer → Program β) :
    ((ask c).bind f).run Memory.stores s = (f a).run Memory.stores (Memory.stores c s).state := by
  change (call c fun r => (done r).bind f).run Memory.stores s = _
  simp only [run, h, bind_ok, Memory.stores_lines, List.nil_append]

lemma run_ask_error {e : Failure} (h : (Memory.stores c s).result = .error e)
    (f : c.Answer → Program β) :
    ((ask c).bind f).run Memory.stores s = ⟨.error e, [], (Memory.stores c s).state⟩ := by
  change (call c fun r => (done r).bind f).run Memory.stores s = _
  simp only [run, h, bind_error, Memory.stores_lines, List.nil_append]

lemma log_eq {e : Log.Entry} {l : Log.Line} (h : e.write m.wall = .ok l) :
    log m e = write l (done (.ok ())) := by
  rw [log, h]

end Program

namespace Log.Entry

variable {wall : Number}

lemma write_of_stamp {time : String} (ht : stamp wall = .ok time)
    (requestId userId success code : Value) {reason : Value}
    (hr : reason = .undefined ∨ ∃ s, reason = .str s) :
    ∃ l, (authentication requestId userId success code reason).write wall = .ok l := by
  simp only [write, ht]
  rcases hr with rfl | ⟨s, rfl⟩
  · exact ⟨_, rfl⟩
  · exact ⟨_, rfl⟩

lemma write_authentication (hw : (Calendar.iso? wall).isSome = true)
    (requestId userId success code reason : Value)
    (hr : reason = .undefined ∨ ∃ s, reason = .str s) :
    ∃ l, (authentication requestId userId success code reason).write wall = .ok l := by
  obtain ⟨time, ht⟩ := Option.isSome_iff_exists.1 hw
  exact write_of_stamp (by rw [stamp, ht]) requestId userId success code hr

lemma write_credential (wall : Number) (requestId userId success code : Value) {reason : Value}
    (hr : reason = .undefined ∨ ∃ s, reason = .str s) : ∃ line,
      (authentication requestId userId success code reason).write wall =
        (stamp wall).map fun _ => line := by
  cases ht : stamp wall with
  | error f => exact ⟨⟨.out, ""⟩, by rw [write, ht]; rfl⟩
  | ok time => exact write_of_stamp ht requestId userId success code hr

def reuseLine (time : String) (requestId userId : Value) (tokenId count : ℕ) : Line :=
  written (.str error) (Json.printFields (opening time error "SECURITY_VIOLATION" requestId ++
    [("user_id", userId), ("violation_type", .str "REFRESH_TOKEN_REUSE"), ("severity", .str "HIGH"),
      ("context", .obj [("token_id", .ofNat tokenId), ("revoked_count", .ofNat count)])]))

lemma write_reuse {time : String} (ht : Calendar.iso? wall = some time) (requestId userId : Value)
    (tokenId count : ℕ) :
    (security requestId userId (.str "REFRESH_TOKEN_REUSE") (.str "HIGH")
      (.obj [("token_id", .ofNat tokenId), ("revoked_count", .ofNat count)])).write wall =
      .ok (reuseLine time requestId userId tokenId count) := by
  have hi : isPersonal "token_id" = false := by decide
  have hc : isPersonal "revoked_count" = false := by decide
  have hf : redactFields [("token_id", .ofNat tokenId), ("revoked_count", .ofNat count)] =
      [("token_id", .ofNat tokenId), ("revoked_count", .ofNat count)] := by
    simp [redactFields, hi, hc, Value.ofNat, redact]
  have hn : fault? (.obj [("token_id", .ofNat tokenId), ("revoked_count", .ofNat count)]) = none := by
    simp [fault?, parentFault?, fieldsFault?, hi, hc, Value.ofNat]
  simp only [write, stamp, ht, Value.entries, hf, hn]
  rfl

end Log.Entry

namespace Session

variable {t : Token.Issuer} {issuer : String} {access refresh : Number} {m : Moment} {now : ℚ}
  {s : Memory}

def reused : Failure := .auth .revokedToken Authentication.failedMessage none

/-- The pair for a user and a record gives both back to whoever decodes it before it expires. -/
structure PairFor (t : Token.Issuer) (m : Moment) (now : ℚ) (access refresh : Number)
    (pair : Token.Pair) (id : String) (k : ℕ) : Prop where
  access : ∀ exp, Token.Lasts now access exp →
    t.codec.decodeAccess m pair.access = .ok ⟨id, .finite now, .finite exp⟩
  refresh : ∀ exp, Token.Lasts now refresh exp → k ≤ Number.maxSafe →
    t.codec.decodeRefresh m pair.refresh = .ok ⟨⟨id, .finite now, .finite exp⟩, k⟩

structure Presents (t : Token.Issuer) (m : Moment) (s : Memory) (token : String)
    (claims : Token.RefreshClaims) (user : User) : Prop where
  decoded : t.codec.decodeRefresh m token = .ok claims
  found : s.users.find? (·.id.same (.str claims.id)) = some user
  owner : user.id = .str claims.id
  confirmed : user.status = .confirmed

inductive Refreshed (t : Token.Issuer) (m : Moment) (now : ℚ) (access refresh : Number)
    (requestId : Value) (token : String) (s : Memory) : Outcome Memory Token.Pair → Prop where
  | renewed {o : Outcome Memory Token.Pair} {pair claims user} : o.result = .ok pair →
      Presents t m s token claims user → s.Rotated o.state claims.tokenId user.id →
      PairFor t m now access refresh pair claims.id (s.records.length + 1) →
      Refreshed t m now access refresh requestId token s o
  | reused {o : Outcome Memory Token.Pair} {claims user time} : o.result = .error reused →
      Presents t m s token claims user → s.isLive claims.tokenId user.id = false →
      s.Cleared o.state user.id → Calendar.iso? m.wall = some time →
      o.lines = [Log.Entry.reuseLine time requestId user.id claims.tokenId (s.liveCount user.id)] →
      Refreshed t m now access refresh requestId token s o
  | failed {o : Outcome Memory Token.Pair} {f} : o.result = .error f →
      (∀ message cause, f ≠ .auth .revokedToken message cause) → o.state.records = s.records →
      Refreshed t m now access refresh requestId token s o

lemma createPair_for (ht : t.Sound issuer access refresh)
    (hm : m.clock.seconds = .ok (.finite now)) (h1 : 1 ≤ now) {id : String} (hid : id ≠ "") (k : ℕ)
    (hk : 0 < k) : ∃ pair, t.createPair m (.str id) (.ofNat k) = .ok pair ∧
      PairFor t m now access refresh pair id k := by
  have h0 : now ≠ 0 := by
    rintro rfl
    exact absurd h1 (by norm_num)
  exact ⟨_, Token.Issuer.createPair_eq_ok ht hm h0 id (.ofNat k),
    fun exp hl => Token.Issuer.decodeAccess_sign ht hm h0 hid hl,
    fun exp hl hmax => Token.Issuer.decodeRefresh_sign ht hm h0 hid ⟨hk, hmax⟩ hl⟩

lemma id_ne_empty {token : String} {claims : Token.RefreshClaims}
    (h : t.codec.decodeRefresh m token = .ok claims) : claims.id ≠ "" := by
  obtain ⟨v, -, hp⟩ := Except.bind_eq_ok.1 h
  obtain ⟨r, rfl⟩ := Token.RefreshClaims.obj_of_ofPayload hp
  exact (Token.AccessClaims.ofPayload_eq_ok.1 (Token.RefreshClaims.ofPayload_eq_ok.1 hp).1).2.1

section

variable (ht : t.Sound issuer access refresh) (hm : m.clock.seconds = .ok (.finite now))
  (h1 : 1 ≤ now) (hw : (Calendar.iso? m.wall).isSome = true)

include ht hm h1 hw

lemma refreshed_for {requestId : Value} {token : String} {claims : Token.RefreshClaims} {user : User}
    (hp : Presents t m s token claims user) {s₁ : Memory} (hs : s₁.records = s.records) :
    Refreshed t m now access refresh requestId token s
      ((refreshFor t m requestId claims (some user)).run Memory.stores s₁) := by
  obtain ⟨time, htime⟩ := Option.isSome_iff_exists.1 hw
  rw [refreshFor, if_neg (by simp [hp.confirmed])]
  simp only [bind_eq]
  rcases Memory.rotate_cases claims.tokenId user.id s₁ with
    ⟨hf, hs₂⟩ | ⟨hr, hl, hs₂⟩ | ⟨hr, hrot⟩
  · obtain ⟨name, text, he⟩ := hf
    rw [run_ask_error he]
    exact .failed rfl (by simp) (hs₂.trans hs)
  · -- The record was used: its owner loses all others, unless the stores fail.
    rw [run_ask_ok hr]
    simp only [reuse, bind_eq]
    rcases Memory.revokeAllFor_cases user.id (Memory.stores (.rotate claims.tokenId user.id) s₁).state
      with ⟨⟨name, text, he⟩, hs₃⟩ | ⟨hc, hclear⟩
    · rw [run_ask_error he]
      exact .failed rfl (by simp) (hs₃.trans (hs₂.trans hs))
    · have hsr := hs₂.trans hs
      rw [run_ask_ok hc, log_eq (Log.Entry.write_reuse htime _ _ _ _)]
      refine .reused rfl hp ?_ (hclear.of_records hsr) htime ?_
      · rw [← Memory.isLive_congr hs, hl]
      · rw [Memory.liveCount_congr hsr]
        rfl
  · obtain ⟨line, hline⟩ := Log.Entry.write_authentication hw requestId (.str claims.id)
      (.bool true) .undefined .undefined (.inl rfl)
    obtain ⟨pair, hpair, hfor⟩ := createPair_for ht hm h1 (id_ne_empty hp.decoded)
      (s₁.records.length + 1) (Nat.succ_pos _)
    rw [run_ask_ok hr]
    simp only [log_eq hline, bind_write, bind_ok, hp.owner, hpair]
    exact .renewed rfl hp (hrot.of_records hs) (hs ▸ hfor)

end

theorem refresh_law {settings : AuthSettings} {secret : String}
    (hs : Token.Regular settings secret issuer access refresh)
    (ht : Token.Issuer.make? settings = .ok t) (hm : m.clock.seconds = .ok (.finite now))
    (h1 : 1 ≤ now) (hw : (Calendar.iso? m.wall).isSome = true) (s : Memory) (requestId : Value)
    (token : String) : Refreshed t m now access refresh requestId token s
      ((Session.refresh t m requestId token).run Memory.stores s) := by
  have hsound := hs.sound ht
  rw [Session.refresh]
  cases hd : t.codec.decodeRefresh m token with
  | error f =>
    obtain ⟨fault, text, cause, rfl⟩ := Token.Codec.refuses_of_decodeRefresh hsound.keyed hd
    exact .failed rfl (by simp) rfl
  | ok claims =>
    simp only [bind_eq, bind_ok]
    obtain ⟨hs, ⟨name, text, he⟩ | hr⟩ := Memory.findById_cases claims.id s
    · rw [run_ask_error he]
      exact .failed rfl (by simp) hs
    rw [run_ask_ok hr]
    cases hu : s.users.find? (·.id.same (.str claims.id)) with
    | none =>
      obtain ⟨line, hline⟩ := Log.Entry.write_authentication hw requestId .undefined (.bool false)
        AuthFault.unknownPrincipal.code
        (.str s!"Refresh for missing user {claims.id}") (.inr ⟨_, rfl⟩)
      simp only [refreshFor, bind_eq, log_eq hline]
      exact .failed rfl (by simp) hs
    | some user =>
      have howner : user.id = .str claims.id :=
        Value.same_str.1 (by simpa using List.find?_some hu)
      by_cases hc : user.status = .confirmed
      · exact refreshed_for hsound hm h1 hw ⟨hd, hu, howner, hc⟩ hs
      · obtain ⟨line, hline⟩ := Log.Entry.write_authentication hw requestId user.id (.bool false)
          AuthFault.inactivePrincipal.code
          (.str s!"Refresh refused for status {user.status.label}") (.inr ⟨_, rfl⟩)
        simp only [refreshFor, if_pos hc, bind_eq, log_eq hline]
        exact .failed rfl (by simp [Failure.inactive]) hs

def sampleUser : User :=
  ⟨.str "user-1", .str "alice@example.com", .null, .confirmed, .null, .null, .null, .null⟩

def sampleMemory : Memory := ⟨[sampleUser], ⟨[], [], []⟩, [⟨.str "user-1", true⟩], true, [], []⟩

def lastingPayload : Record :=
  Token.sampleIssuer.claimsPayload [("id", .str "user-1"), ("token_id", .num (.finite (1 : ℕ)))]
    Token.refreshAudience (.finite 1) (.finite (2 ^ 71))

def lastingToken : String := Token.sampleIssuer.codec.sign lastingPayload

lemma isBinary_two_pow {k : ℕ} (hk : k ≤ 971) : Number.IsBinary (2 ^ k) := by
  refine ⟨1, k, by norm_num, by norm_num, by omega, ?_⟩
  rw [abs_of_pos (by positivity)]
  exact pow_lt_pow_right₀ (by norm_num) (by omega)

section

variable (hm : m.clock.seconds = .ok (.finite now)) (h0 : now ≠ 0) (hlt : now < 2 ^ 71)

include hm h0 hlt

lemma decodeRefresh_lasting : Token.sampleIssuer.codec.decodeRefresh m lastingToken =
    .ok ⟨⟨"user-1", .finite 1, .finite (2 ^ 71)⟩, 1⟩ := by
  have hread : Json.Readable (.obj lastingPayload) :=
    Token.Issuer.readable_refresh rfl (by norm_num) (isBinary_two_pow (k := 0) (by norm_num))
      (isBinary_two_pow (k := 71) (by norm_num))
  rw [Token.Codec.decodeRefresh, Except.bind_eq_ok]
  exact ⟨_, Token.Codec.payloadFor_sign rfl rfl hread (Token.Issuer.now_eq hm h0)
    (Token.Codec.judge_of_lasting rfl rfl rfl hlt rfl) rfl,
    Token.RefreshClaims.ofPayload_eq_ok.2 ⟨Token.AccessClaims.ofPayload_eq_ok.2
      ⟨rfl, by decide, rfl, rfl⟩, rfl, by decide, by decide⟩⟩

lemma refresh_lasting (hw : (Calendar.iso? m.wall).isSome = true) :
    ((Session.refresh Token.sampleIssuer m .undefined lastingToken).run Memory.stores
      sampleMemory).result = Token.sampleIssuer.createPair m (.str "user-1") (.ofNat 2) := by
  have hfound : (Memory.stores (.findById "user-1") sampleMemory).result =
      .ok (some sampleUser) := rfl
  have hrotated : (Memory.stores (.rotate 1 sampleUser.id)
      (Memory.stores (.findById "user-1") sampleMemory).state).result = .ok (some (.ofNat 2)) := rfl
  obtain ⟨line, hline⟩ := Log.Entry.write_authentication hw .undefined sampleUser.id (.bool true)
    .undefined .undefined (.inl rfl)
  rw [Session.refresh]
  simp only [decodeRefresh_lasting hm h0 hlt, bind_eq, bind_ok]
  rw [run_ask_ok hfound, refreshFor, if_neg (by decide), bind_eq, run_ask_ok hrotated]
  simp only [bind_eq, log_eq hline]
  rfl

end

lemma decodeRefresh_sample : Token.sampleIssuer.codec.decodeRefresh Token.sampleMoment
    lastingToken = .ok ⟨⟨"user-1", .finite 1, .finite (2 ^ 71)⟩, 1⟩ :=
  decodeRefresh_lasting Token.sampleMoment_seconds (by norm_num) (by norm_num)

theorem refresh_law_sample :
    let o := (Session.refresh Token.sampleIssuer Token.sampleMoment .undefined lastingToken).run
      Memory.stores sampleMemory
    Refreshed Token.sampleIssuer Token.sampleMoment 1700000000 (.finite 3600) (.finite 2592000)
        .undefined lastingToken sampleMemory o ∧
      ∃ pair, o.result = .ok pair ∧
        Token.sampleIssuer.codec.decodeAccess Token.sampleMoment pair.access =
          .ok ⟨"user-1", .finite 1700000000, .finite 1700003600⟩ := by
  intro o
  have hlaw : Refreshed Token.sampleIssuer Token.sampleMoment 1700000000 (.finite 3600)
      (.finite 2592000) .undefined lastingToken sampleMemory o :=
    refresh_law Token.regular_sampleSettings Token.make?_sampleSettings Token.sampleMoment_seconds
      (by norm_num) Token.sampleMoment_wall _ _ _
  have hhour : Token.Lasts 1700000000 (.finite 3600) 1700003600 :=
    ⟨by decide +kernel, by norm_num⟩
  have hresult : o.result = Token.sampleIssuer.createPair Token.sampleMoment (.str "user-1") _ :=
    refresh_lasting Token.sampleMoment_seconds (by norm_num) (by norm_num) Token.sampleMoment_wall
  rw [Token.Issuer.createPair_eq_ok
    (Token.regular_sampleSettings.sound Token.make?_sampleSettings) Token.sampleMoment_seconds
    (by norm_num)] at hresult
  refine ⟨hlaw, _, hresult, ?_⟩
  cases hlaw with
  | renewed hpair hpresents _ hfor =>
    obtain rfl := Except.ok.inj (hresult.symm.trans hpair)
    obtain rfl := Except.ok.inj (decodeRefresh_sample.symm.trans hpresents.decoded)
    exact hfor.access _ hhour
  | reused hfails | failed hfails => cases hresult.symm.trans hfails

/-- So late that the next number is more than an hour away. -/
def coarseMoment : Moment := ⟨.reads (.finite (1000 * 2 ^ 70)), .finite 0, false⟩

lemma coarseMoment_seconds : coarseMoment.clock.seconds = .ok (.finite (2 ^ 70)) := by
  have h : Number.seconds (.finite (1000 * 2 ^ 70)) = .finite (2 ^ 70) := by decide +kernel
  exact congrArg Except.ok h

lemma coarseMoment_wall : (Calendar.iso? coarseMoment.wall).isSome = true := by decide +kernel

lemma createPair_late (k : ℕ) :
    ∃ pair, Token.sampleIssuer.createPair coarseMoment (.str "user-1") (.ofNat k) = .ok pair ∧
      Token.sampleIssuer.codec.decodeAccess coarseMoment pair.access =
        .error (.token .expired "Token has expired" (some Token.Objection.expired.failure)) := by
  have hsum : (Number.finite (2 ^ 70)).add (.finite 3600) = .finite (2 ^ 70) := by decide +kernel
  have hread : Json.Readable (.obj (Token.sampleIssuer.claimsPayload [("id", .str "user-1")]
      Token.accessAudience (.finite (2 ^ 70)) (.finite (2 ^ 70)))) :=
    Token.Issuer.readable_access rfl (isBinary_two_pow (k := 70) (by norm_num))
      (isBinary_two_pow (k := 70) (by norm_num))
  refine ⟨_, Token.Issuer.createPair_eq_ok
    (Token.regular_sampleSettings.sound Token.make?_sampleSettings) coarseMoment_seconds
    (by norm_num) "user-1" (.ofNat k), ?_⟩
  rw [hsum, Token.Codec.decodeAccess, Token.Codec.payloadFor_expired rfl rfl hread
    (Token.Issuer.now_eq coarseMoment_seconds (by norm_num))
    (Token.Codec.judge_of_expired rfl rfl le_rfl)]
  rfl

theorem refresh_late :
    ∃ pair, ((Session.refresh Token.sampleIssuer coarseMoment .undefined lastingToken).run
        Memory.stores sampleMemory).result = .ok pair ∧
      Token.sampleIssuer.codec.decodeAccess coarseMoment pair.access =
        .error (.token .expired "Token has expired" (some Token.Objection.expired.failure)) := by
  obtain ⟨pair, hpair, hexpired⟩ := createPair_late 2
  have hresult := refresh_lasting coarseMoment_seconds (by norm_num) (by norm_num)
    coarseMoment_wall
  exact ⟨pair, hresult.trans hpair, hexpired⟩

end Session

end AuthGate
