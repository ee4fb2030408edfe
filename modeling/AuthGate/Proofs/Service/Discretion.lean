import AuthGate.Proofs.Service.Audience
import AuthGate.Proofs.Service.Terms
import AuthGate.Proofs.Session.Login

namespace AuthGate

open Program

variable {σ : Type} {stores : Stores σ} {s : σ} {m : Moment}

namespace Log.Entry

lemma stamp_error {wall : Number} {f : Failure} (h : stamp wall = .error f) :
    f = .rangeError "Invalid time value" := by
  rw [stamp] at h
  split at h
  · cases h
  · exact (Except.error.inj h).symm

lemma write_unhandled_error {wall : Number} {f : Failure} (h : stamp wall = .error f)
    (requestId : Value) (g : Failure) : (Failure.unhandled requestId g).write wall = .error f := by
  rw [Failure.unhandled, write, h]
  rfl

end Log.Entry

namespace Session

variable {t : Token.Issuer} {requestId : Value} {email password : String} {found : Option User}

inductive Refused (password : String) : Option User → Prop where
  | unknown : Refused password none
  | mistaken {u} : belongs (.str password) u.passwordHash = .ok false → Refused password (some u)
  | unconfirmed {u} : belongs (.str password) u.passwordHash = .ok true → u.status ≠ .confirmed →
      Refused password (some u)

lemma refuse_result {α : Type} (userId code : Value) (reason : String) (s : σ) :
    ((refuse m requestId userId code reason : Program α).run stores s).result =
      (Log.Entry.stamp m.wall).bind fun _ => .error .wrongCredentials := by
  obtain ⟨line, hline⟩ := Log.Entry.write_credential m.wall requestId userId (.bool false) code
    (.inr ⟨reason, rfl⟩)
  rw [refuse, log, hline]
  cases Log.Entry.stamp m.wall with
  | ok time => rfl
  | error f => rfl

lemma login_result (t : Token.Issuer) (m : Moment) (requestId : Value)
    (h : (stores (.findByEmail (.str email)) s).result = .ok found) (hr : Refused password found) :
    ((login t m requestId (.str email) (.str password)).run stores s).result =
      (Log.Entry.stamp m.wall).bind fun _ => .error .wrongCredentials := by
  rw [login, bind_eq, run_bind_ok (a := found) (by rw [run_ask, h])]
  cases hr with
  | unknown => exact refuse_result _ _ _ _
  | mistaken hb =>
    simp only [hb, bind_eq, bind_ok]
    exact refuse_result _ _ _ _
  | unconfirmed hb hc =>
    simp only [hb, bind_eq, bind_ok, Bool.not_true, Bool.false_eq_true, if_false, if_pos hc]
    exact refuse_result _ _ _ _

end Session

namespace Authentication

variable {t : Token.Issuer} {schemePrefix headers requestId : Value}

def Uniform (m : Moment) (r : Except Failure Authentication) : Prop :=
  ∀ f, r = .ok (.rejected f) → (∃ fault cause, f = .auth fault failedMessage cause) ∧
    ∃ time, Log.Entry.stamp m.wall = .ok time

variable {A : (c : Call) → Except Failure c.Answer → Prop} {L : Log.Line → Prop}

lemma uniform_error (f : Failure) : Uniform m (.error f) := by
  rintro g ⟨⟩

lemma uniform_reject (fault : AuthFault) (reason : String) (cause : Failure) :
    (reject m requestId fault reason cause).Abides A (fun _ => True) (Uniform m) := by
  obtain ⟨line, hline⟩ := Log.Entry.write_credential m.wall requestId .undefined (.bool false)
    fault.code (.inr ⟨reason, rfl⟩)
  rw [reject, log, hline]
  cases ht : Log.Entry.stamp m.wall with
  | error f => exact .done (uniform_error f)
  | ok time =>
    refine .write trivial (.done ?_)
    rintro f ⟨⟩
    exact ⟨⟨_, _, rfl⟩, time, ht⟩

lemma uniform_checkUser (credentials : Credentials) (found : Option User) :
    (checkUser m requestId credentials found).Abides A (fun _ => True) (Uniform m) := by
  cases found with
  | none => exact uniform_reject _ _ _
  | some u =>
    rw [checkUser]
    split_ifs with hc
    · rw [bind_eq, log]
      cases (Log.Entry.authentication requestId u.id (.bool true) .undefined .undefined).write
        m.wall with
      | error f => exact .done (uniform_error f)
      | ok line => exact .write trivial (.done (by rintro f ⟨⟩))
    · cases u.id.text with
      | error f => exact .done (uniform_error f)
      | ok id => exact uniform_reject _ _ _

lemma uniform_check : (check t schemePrefix m requestId headers).Abides A (fun _ => True)
    (Uniform m) := by
  have hcovers : Covers A (fun _ => True) (Uniform m) m requestId :=
    { failed := fun f _ => uniform_error f
      unanswered := fun _ f _ => uniform_error f
      anonymous := by rintro f ⟨⟩
      rejected := fun fault reason cause _ => uniform_reject fault reason cause
      found := fun credentials _ user _ => uniform_checkUser credentials user }
  exact hcovers.check

end Authentication

def Request.LoginRefused (stores : Stores σ) (s : σ) (r : Request) : Prop :=
  Endpoint.ofRequest r = .ok (some .login) ∧ ∃ body form found, r.content = .ok body ∧
    Login.ofBody body = .ok form ∧
    (stores (.findByEmail (.str form.email)) s).result = .ok found ∧
    Session.Refused form.password found

namespace Api

variable {api : Api} {requestId : String} {r : Request}

def Rejects (api : Api) (m : Moment) (requestId : String) (stores : Stores σ) (s : σ)
    (r : Request) : Prop :=
  (∃ e, Endpoint.ofRequest r = .ok (some e) ∧ e.NeedsCaller) ∧
    ∃ f, ((Authentication.check api.tokens api.schemePrefix m (.str requestId) r.headers).run
      stores s).result = .ok (.rejected f)

def refusedLogin (requestId : String) : Response :=
  .plain 400 .invalidCredentials (.str requestId) "Invalid credentials."

def rejection (requestId : String) : Response :=
  .plain 401 .authentication (.str requestId) Authentication.failedMessage

lemma respond_unstamped {f : Failure} (h : Log.Entry.stamp m.wall = .error f) (s : σ) :
    ((Failure.respond m (.str requestId) requestId f).run stores s).result = .error f := by
  obtain rfl := Log.Entry.stamp_error h
  have hloss : Failure.isConnectionLoss "Invalid time value" = false := by decide +kernel
  have hline := Log.Entry.write_unhandled_error h (.str requestId)
    (.rangeError "Invalid time value")
  have hrespond : Failure.respond m (.str requestId) requestId (.rangeError "Invalid time value") =
      Failure.respondOther m (.str requestId) requestId (.rangeError "Invalid time value") := rfl
  rw [hrespond, Failure.respondOther, if_neg (by simp [Failure.rangeError, Failure.message, hloss]),
    Failure.internal, log, hline]
  rfl

lemma respond_wrongCredentials (m : Moment) (requestId : String) (s : σ) :
    ((Failure.respond m (.str requestId) requestId .wrongCredentials).run stores s).result =
      .ok (refusedLogin requestId) := by
  change Except.ok (Response.plain 400 _ (idOr requestId (.str requestId)) _) = _
  rw [idOr_str]
  rfl

lemma respond_auth (m : Moment) (requestId : String) (fault : AuthFault) (cause : Option Failure)
    (s : σ) : ((Failure.respond m (.str requestId) requestId
      (.auth fault Authentication.failedMessage cause)).run stores s).result =
      .ok (rejection requestId) := by
  change Except.ok (Response.plain 401 _ (idOr requestId (.str requestId)) _) = _
  rw [idOr_str]
  rfl

lemma handle_refused (api : Api) (m : Moment) (requestId : String)
    (h : r.LoginRefused stores s) : ((api.handle m requestId r).run stores s).result =
      (Log.Entry.stamp m.wall).map fun _ => refusedLogin requestId := by
  obtain ⟨he, body, form, found, hbody, hform, hfound, hr⟩ := h
  have hlogin := Session.login_result api.tokens m (.str requestId) hfound hr
  have hendpoint : api.login m requestId r =
      (Session.login api.tokens m (.str requestId) (.str form.email) (.str form.password)).bind
        fun pair => succeed m requestId (pairFields pair) := by
    simp only [login, hbody, hform, bind_eq, bind_ok]
  rw [(handle_run api r s).1, answer, he]
  simp only [servePublic_result]
  cases ht : Log.Entry.stamp m.wall with
  | ok time =>
    rw [ht] at hlogin
    have hfails : ((api.login m requestId r).run stores s).result = .error .wrongCredentials := by
      rw [hendpoint, run_bind_error hlogin]
    rw [(settle_of_error m requestId hfails s).1, respond_wrongCredentials]
    rfl
  | error f =>
    rw [ht] at hlogin
    have hfails : ((api.login m requestId r).run stores s).result = .error f := by
      rw [hendpoint, run_bind_error hlogin]
    rw [(settle_of_error m requestId hfails s).1, respond_unstamped ht]
    rfl

lemma handle_rejected (h : api.Rejects m requestId stores s r) :
    ((api.handle m requestId r).run stores s).result = .ok (rejection requestId) := by
  obtain ⟨⟨e, he, hcaller⟩, f, hf⟩ := h
  obtain ⟨⟨fault, cause, rfl⟩, time, ht⟩ := ((Authentication.uniform_check
    (A := fun _ _ => True)).run (fun _ _ => trivial) (fun _ _ _ _ => trivial) s).1 f hf
  have hfails : ((api.authenticate m requestId r).run stores s).result =
      .error (.auth fault Authentication.failedMessage cause) := by
    rw [authenticate, bind_eq, run_bind_ok hf]
    rfl
  obtain ⟨endpoint, hanswer⟩ := answer_eq_serve api m requestId he hcaller
  rw [(handle_run api r s).1, hanswer, (serve_of_error hfails s).1, respond_auth, ht]
  rfl

/-- Refusals are alike. Two logins that are refused are answered with the same response, each if the
wall clock can stamp what is logged of it; and so are two requests that are rejected. -/
theorem refusals_alike {τ : Type} (requestId : String) (api api' : Api) (m m' : Moment)
    (stores : Stores σ) (stores' : Stores τ) (s : σ) (s' : τ) (r r' : Request) :
    (r.LoginRefused stores s → r'.LoginRefused stores' s' → ∃ response,
      ((api.handle m requestId r).run stores s).result =
          (Log.Entry.stamp m.wall).map (fun _ => response) ∧
        ((api'.handle m' requestId r').run stores' s').result =
          (Log.Entry.stamp m'.wall).map fun _ => response) ∧
    (api.Rejects m requestId stores s r → api'.Rejects m' requestId stores' s' r' → ∃ response,
      ((api.handle m requestId r).run stores s).result = .ok response ∧
        ((api'.handle m' requestId r').run stores' s').result = .ok response) :=
  ⟨fun h h' => ⟨_, handle_refused api m requestId h, handle_refused api' m' requestId h'⟩,
    fun h h' => ⟨_, handle_rejected h, handle_rejected h'⟩⟩

lemma content_of_text {r : Request} {v : Value} (hread : Json.Readable v)
    (hbody : r.body = .str (Json.text v)) (hplain : r.isBase64 = false) : r.content = .ok v := by
  have hprint : (Json.text v).toList = Json.print v := String.toList_ofList
  have hne : Json.text v ≠ "" := by
    intro h
    have hparse := Json.parse?_print hread
    rw [← hprint, h] at hparse
    cases hparse
  have htext : r.bodyText = .ok (some (Json.print v)) := by
    rw [Request.bodyText, hplain, hbody, ← hprint]
    rfl
  have htruthy : r.body.truthy = true := hbody ▸ decide_eq_true hne
  rw [Request.content, htruthy, if_neg (by decide), htext]
  refine Except.bind_eq_ok.2 ⟨_, rfl, ?_⟩
  rw [Option.bind_some, Json.parse?_print hread]
  rfl

def loginBody (email password : String) : Value :=
  .obj [("email", .str email), ("password", .str password)]

def loginRequest (email password : String) : Request :=
  ⟨.obj [], .str "POST", .str "/tokens", .str (Json.text (loginBody email password)), false⟩

lemma content_loginRequest (email password : String) :
    (loginRequest email password).content = .ok (loginBody email password) := by
  have hread : Json.Readable (loginBody email password) :=
    ⟨⟨trivial, trivial, trivial⟩, Record.ofList_new (by simp [Record.keys]; decide)
      (by simp [Record.keys])⟩
  exact content_of_text hread rfl rfl

lemma ofBody_loginBody {email password : String} (h : (Form.faults loginForm
    [("email", .str email), ("password", .str password)]).isEmpty = true) :
    Login.ofBody (loginBody email password) = .ok ⟨email, password⟩ := by
  have hcheck : Form.check loginForm (loginBody email password) =
      .ok [("email", .str email), ("password", .str password)] := if_pos h
  rw [Login.ofBody, hcheck]
  rfl

def archivedMemory : Memory :=
  { Session.loginMemory with users := [{ Session.loginUser with status := .archived }] }

lemma refused_archived :
    (loginRequest "alice@example.com" "test-password").LoginRefused Memory.stores archivedMemory :=
  ⟨rfl, _, _, some _, content_loginRequest _ _, ofBody_loginBody (by decide +kernel), rfl,
    .unconfirmed (congrArg Except.ok Session.accepts_sampleHash) (by decide)⟩

lemma refused_unknown : (loginRequest "bob@example.com" "guess").LoginRefused Memory.stores
    Session.sampleMemory :=
  ⟨rfl, _, _, none, content_loginRequest _ _, ofBody_loginBody (by decide +kernel), rfl, .unknown⟩

def tokenlessRequest : Request :=
  ⟨.obj [("authorization", .str "Bearer")], .str "GET", .str Endpoint.mePath, .null, false⟩

lemma rejects_tokenless : sampleApi.Rejects Token.sampleMoment "request-1" Memory.stores
    Session.sampleMemory tokenlessRequest := by
  obtain ⟨line, hline⟩ := Authentication.reject_run Memory.stores Token.sampleMoment_wall
    (.str "request-1") .missingToken "Authorization header has no token"
    (.error "Authorization header has no token")
  exact ⟨⟨.me, rfl, trivial⟩, _, congrArg Outcome.result (hline Session.sampleMemory)⟩

def refreshingRequest : Request :=
  ⟨refreshHeaders, .str "GET", .str (Endpoint.permissionsPath "user-1"), .null, false⟩

lemma rejects_refreshing : sampleApi.Rejects Token.sampleMoment "request-1" Memory.stores
    readerMemory refreshingRequest := by
  have hd := Token.Codec.decodeAccess_of_refresh Session.decodeRefresh_sample
  obtain ⟨line, hline⟩ := Authentication.reject_run Memory.stores Token.sampleMoment_wall
    (.str "request-1") (.token .audienceMismatch)
    (Token.otherAudience Token.accessAudience).message (Token.otherAudience Token.accessAudience)
  refine ⟨⟨_, Endpoint.ofRequest_permissions ⟨by decide, by decide⟩ ⟨rfl, rfl⟩, trivial⟩,
    Authentication.notAccess, ?_⟩
  have hcheck := Authentication.check_of_carries carries_refreshHeaders hd (.str "request-1")
  exact (congrArg (fun p => (run Memory.stores p readerMemory).result) hcheck).trans
    (congrArg Outcome.result (hline readerMemory))

theorem refusals_alike_sample :
    (∃ response,
      ((sampleApi.handle Token.sampleMoment "request-1"
          (loginRequest "bob@example.com" "guess")).run Memory.stores Session.sampleMemory).result =
        (Log.Entry.stamp Token.sampleMoment.wall).map (fun _ => response) ∧
      ((sampleApi.handle Token.sampleMoment "request-1"
          (loginRequest "alice@example.com" "test-password")).run Memory.stores
          archivedMemory).result =
        (Log.Entry.stamp Token.sampleMoment.wall).map fun _ => response) ∧
    ∃ response,
      ((sampleApi.handle Token.sampleMoment "request-1" tokenlessRequest).run Memory.stores
        Session.sampleMemory).result = .ok response ∧
      ((sampleApi.handle Token.sampleMoment "request-1" refreshingRequest).run Memory.stores
        readerMemory).result = .ok response := by
  obtain ⟨hlogin, -⟩ := refusals_alike "request-1" sampleApi sampleApi Token.sampleMoment
    Token.sampleMoment Memory.stores Memory.stores Session.sampleMemory archivedMemory
    (loginRequest "bob@example.com" "guess") (loginRequest "alice@example.com" "test-password")
  obtain ⟨-, hrejected⟩ := refusals_alike "request-1" sampleApi sampleApi Token.sampleMoment
    Token.sampleMoment Memory.stores Memory.stores Session.sampleMemory readerMemory
    tokenlessRequest refreshingRequest
  exact ⟨hlogin refused_unknown refused_archived, hrejected rejects_tokenless rejects_refreshing⟩

end Api

end AuthGate
