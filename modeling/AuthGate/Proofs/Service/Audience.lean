import AuthGate.Proofs.Service.Gate

namespace AuthGate

open Program

namespace Token

variable {c : Codec} {m : Moment} {token a b : String}

namespace Codec

lemma payloadFor_other {v : Value} (h : c.payloadFor m token (.str a) = .ok v) (hab : a ≠ b) :
    c.payloadFor m token (.str b) = .error (otherAudience b) := by
  obtain ⟨hv, ha⟩ := payloadFor_eq_ok.1 h
  have hb : ¬ (v.field "aud").same (.str b) = true := by simpa [ha, Value.same] using hab
  rw [payloadFor, hv]
  exact if_neg hb

lemma decode_other {result : Option Claims} (h : c.decode m token (.str a) = .ok result)
    (hab : a ≠ b) : c.decode m token (.str b) = .error (otherAudience b) := by
  obtain ⟨v, hv⟩ := payloadFor_of_decode h
  exact decode_of_payloadFor (payloadFor_other hv hab)

lemma decodeRefresh_of_access {claims : AccessClaims} (h : c.decodeAccess m token = .ok claims) :
    c.decodeRefresh m token = .error (otherAudience refreshAudience) := by
  obtain ⟨v, hv, -⟩ := Except.bind_eq_ok.1 h
  rw [decodeRefresh, payloadFor_other hv (by decide)]
  rfl

lemma decodeAccess_of_refresh {claims : RefreshClaims} (h : c.decodeRefresh m token = .ok claims) :
    c.decodeAccess m token = .error (otherAudience accessAudience) := by
  obtain ⟨v, hv, -⟩ := Except.bind_eq_ok.1 h
  rw [decodeAccess, payloadFor_other hv (by decide)]
  rfl

end Codec

end Token

namespace Session

variable {t : Token.Issuer} {m : Moment} {token : String} {f : Failure}

lemma refresh_of_error (h : t.codec.decodeRefresh m token = .error f) (requestId : Value) :
    refresh t m requestId token = raise f := by
  rw [refresh, h]
  rfl

lemma logout_of_error (h : t.codec.decodeRefresh m token = .error f) :
    logout t m token = raise f := by
  rw [logout, h]
  rfl

end Session

namespace Authentication

variable {t : Token.Issuer} {m : Moment} {schemePrefix headers : Value} {token : String}

lemma check_of_carries {fault : TokenFault} {message : String} {cause : Option Failure}
    (h : Carries schemePrefix headers token)
    (hd : t.codec.decodeAccess m token = .error (.token fault message cause)) (requestId : Value) :
    check t schemePrefix m requestId headers =
      reject m requestId (.token fault) message (.token fault message cause) := by
  obtain ⟨scheme, asked, hw, rfl, hl⟩ := words_of_carries h
  simp only [check, hw, bind_eq, bind_ok, Value.textFor, hl, ne_eq, not_true_eq_false, if_false,
    checkCredential, checkToken, hd]

def notAccess : Failure :=
  .auth (.token .audienceMismatch) failedMessage (some (Token.otherAudience Token.accessAudience))

lemma reject_run {σ : Type} (stores : Stores σ) (hw : (Calendar.iso? m.wall).isSome = true)
    (requestId : Value) (fault : AuthFault) (reason : String) (cause : Failure) :
    ∃ line, ∀ s, (reject m requestId fault reason cause).run stores s =
      ⟨.ok (.rejected (.auth fault failedMessage (some cause))), [line], s⟩ := by
  obtain ⟨line, hline⟩ := Log.Entry.write_authentication hw requestId .undefined (.bool false)
    fault.code (.str reason) (.inr ⟨_, rfl⟩)
  refine ⟨line, fun s => ?_⟩
  rw [reject, log_eq hline]
  rfl

end Authentication

/-- Access and refresh tokens are never interchangeable. What is decoded for one audience is refused
for every other; to refresh or to log out with an access token fails at once; and for a refresh
token that a request carries no store is asked, and the request is rejected if that can be
logged. -/
theorem interchange_refused {σ : Type} (stores : Stores σ) (t : Token.Issuer) (m : Moment)
    (token : String) (s : σ) :
    (∀ a b : String, a ≠ b → ∀ claims, t.codec.decode m token (.str a) = .ok claims →
      t.codec.decode m token (.str b) = .error (Token.otherAudience b)) ∧
    (∀ claims, t.codec.decodeAccess m token = .ok claims → ∀ requestId,
      (Session.refresh t m requestId token).run stores s =
          ⟨.error (Token.otherAudience Token.refreshAudience), [], s⟩ ∧
        (Session.logout t m token).run stores s =
          ⟨.error (Token.otherAudience Token.refreshAudience), [], s⟩) ∧
    ∀ claims, t.codec.decodeRefresh m token = .ok claims → ∀ schemePrefix headers requestId,
      Authentication.Carries schemePrefix headers token →
      ((Authentication.check t schemePrefix m requestId headers).run stores s).state = s ∧
        ((Calendar.iso? m.wall).isSome = true →
          ((Authentication.check t schemePrefix m requestId headers).run stores s).result =
            .ok (.rejected Authentication.notAccess)) := by
  refine ⟨fun a b hab claims h => Token.Codec.decode_other h hab, fun claims h requestId => ?_,
    fun claims h schemePrefix headers requestId hc => ?_⟩
  · have hd := Token.Codec.decodeRefresh_of_access h
    rw [Session.refresh_of_error hd, Session.logout_of_error hd]
    exact ⟨rfl, rfl⟩
  · rw [Authentication.check_of_carries hc (Token.Codec.decodeAccess_of_refresh h)]
    refine ⟨(Authentication.quiet_reject _ _ _).state s, fun hw => ?_⟩
    obtain ⟨line, hline⟩ := Authentication.reject_run stores hw requestId
      (.token .audienceMismatch) _ (Token.otherAudience Token.accessAudience)
    exact congrArg Outcome.result (hline s)

def refreshHeaders : Value :=
  .obj [("Authorization", .str ("Bearer" ++ " " ++ Session.lastingToken))]

lemma carries_refreshHeaders :
    Authentication.Carries (.str "Bearer") refreshHeaders Session.lastingToken :=
  Api.carries_bearing Session.lastingPayload

theorem interchange_refused_sample :
    Token.sampleIssuer.codec.decode Token.sampleMoment Session.lastingToken (.str "access") =
        .error (Token.otherAudience "access") ∧
      (Session.refresh Token.sampleIssuer Token.sampleMoment .undefined Api.accessToken).run
          Memory.stores Session.sampleMemory =
        ⟨.error (Token.otherAudience "refresh"), [], Session.sampleMemory⟩ ∧
      ((Authentication.check Token.sampleIssuer (.str "Bearer") Token.sampleMoment .undefined
        refreshHeaders).run Memory.stores Session.sampleMemory).result =
        .ok (.rejected Authentication.notAccess) := by
  have hdecode :
      Token.sampleIssuer.codec.decode Token.sampleMoment Session.lastingToken (.str "refresh") =
        .ok (some (.refresh ⟨⟨"user-1", .finite 1, .finite (2 ^ 71)⟩, 1⟩)) := by
    rw [Token.Codec.decode, if_neg (by decide), if_pos (by decide),
      Session.decodeRefresh_sample]
    rfl
  obtain ⟨hother, -, hrejected⟩ := interchange_refused Memory.stores Token.sampleIssuer
    Token.sampleMoment Session.lastingToken Session.sampleMemory
  obtain ⟨-, hfails, -⟩ := interchange_refused Memory.stores Token.sampleIssuer
    Token.sampleMoment Api.accessToken Session.sampleMemory
  exact ⟨hother "refresh" "access" (by decide) _ hdecode,
    (hfails _ (Api.decodeAccess_accessToken Token.sampleMoment_seconds) _).1,
    (hrejected _ Session.decodeRefresh_sample _ _ _ carries_refreshHeaders).2
      Token.sampleMoment_wall⟩

def timeless : Moment := { Token.sampleMoment with wall := .nan }

theorem not_rejected_timeless :
    (∃ claims, Token.sampleIssuer.codec.decodeRefresh timeless Session.lastingToken = .ok claims) ∧
      Authentication.Carries (.str "Bearer") refreshHeaders Session.lastingToken ∧
      ((Authentication.check Token.sampleIssuer (.str "Bearer") timeless .undefined
        refreshHeaders).run Memory.stores Session.sampleMemory).result =
        .error (.rangeError "Invalid time value") := by
  have hd := Session.decodeRefresh_lasting (m := timeless) Token.sampleMoment_seconds (by norm_num)
    (by norm_num)
  have hstamp : Log.Entry.stamp timeless.wall = .error (.rangeError "Invalid time value") := rfl
  refine ⟨⟨_, hd⟩, carries_refreshHeaders, ?_⟩
  rw [Authentication.check_of_carries carries_refreshHeaders
    (Token.Codec.decodeAccess_of_refresh hd), Authentication.reject, log, Log.Entry.write, hstamp]
  rfl

end AuthGate
