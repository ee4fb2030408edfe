import AuthGate.Memory.Scenario
import AuthGate.Proofs.Service.Answer
import AuthGate.Proofs.Service.Authentication

/-! Screening. Whoever logs in, refreshes or calls is looked up before anything else is done;
unless a confirmed user is found, nothing more is asked and nothing is given, over any stores. -/

namespace AuthGate

open Program

inductive Lookup where
  | byEmail (email : Value)
  | byId (id : String)

def Lookup.program : Lookup → Program (Option User)
  | byEmail email => ask (.findByEmail email)
  | byId id => ask (.findById id)

def Unconfirmed (r : Except Failure (Option User)) : Prop :=
  ∀ u, r = .ok (some u) → u.status ≠ .confirmed

def Refuses {α : Type} (r : Except Failure α) : Prop := ∀ a, r ≠ .ok a

namespace Program

variable {α β σ : Type} {stores : Stores σ} {l : Lookup} {p : Program α}
  {P : Except Failure α → Prop} {Q : Except Failure β → Prop}

/-- Looks a user up before anything else, and does no more unless a confirmed one is found. -/
def Screens (l : Lookup) (P : Except Failure α → Prop) (p : Program α) : Prop :=
  ∃ f, p = l.program.follow f ∧ ∀ r, Unconfirmed r → (f r).Quiet P

lemma screens_bind {f : Option User → Program α} (herror : ∀ e, P (.error e))
    (h : ∀ o, Unconfirmed (.ok o) → (f o).Quiet P) : (l.program.bind f).Screens l P := by
  refine ⟨_, bind_eq_follow _ _, fun r hr => ?_⟩
  cases r with
  | ok o => exact h o hr
  | error e => exact .done (herror e)

namespace Screens

lemma follow {f : Except Failure α → Program β} (h : p.Screens l P)
    (hf : ∀ r, P r → (f r).Quiet Q) : (p.follow f).Screens l Q := by
  obtain ⟨g, rfl, hg⟩ := h
  exact ⟨_, follow_follow _ _ _, fun r hr => (hg r hr).follow hf⟩

lemma bind {f : α → Program β} (h : p.Screens l P) (hok : ∀ a, P (.ok a) → (f a).Quiet Q)
    (herror : ∀ e, P (.error e) → Q (.error e)) : (p.bind f).Screens l Q := by
  rw [bind_eq_follow]
  refine h.follow fun r hr => ?_
  cases r with
  | ok a => exact hok a hr
  | error e => exact .done (herror e hr)

lemma attempt (h : p.Screens l P) : p.attempt.Screens l fun r => ∃ r', r = .ok r' ∧ P r' := by
  rw [attempt_eq_follow]
  exact h.follow fun r hr => .done ⟨r, rfl, hr⟩

lemma run (h : p.Screens l P) {s : σ} (hu : Unconfirmed (l.program.run stores s).result) :
    P (p.run stores s).result ∧ (p.run stores s).state = (l.program.run stores s).state := by
  obtain ⟨f, rfl, hf⟩ := h
  rw [run_follow]
  exact ⟨(hf _ hu).result _, (hf _ hu).state _⟩

end Screens

end Program

namespace Session

variable {t : Token.Issuer} {m : Moment} {requestId : Value}

lemma quiet_log_raise {α : Type} (e : Log.Entry) (f : Failure) :
    ((log m e).bind fun _ => (raise f : Program α)).Quiet Refuses :=
  (quiet_log m e).bind (fun _ _ => .done (forall_success_error f)) fun e _ => forall_success_error e

lemma screens_login (t : Token.Issuer) (m : Moment) (requestId email password : Value) :
    (login t m requestId email password).Screens (.byEmail email) Refuses := by
  rw [login, bind_eq]
  refine screens_bind (l := .byEmail email) forall_success_error fun o ho => ?_
  cases o with
  | none =>
    cases belongs password noHash with
    | error f => exact .done (forall_success_error f)
    | ok b => exact quiet_log_raise _ _
  | some u =>
    simp only [bind_eq]
    cases belongs password u.passwordHash with
    | error f => exact .done (forall_success_error f)
    | ok b =>
      rw [bind_ok]
      split_ifs with hb hc
      · exact quiet_log_raise _ _
      · exact quiet_log_raise _ _
      -- Only here a record would be issued, and only for a confirmed user.
      · exact absurd (not_not.1 hc) (ho u rfl)

lemma screens_refresh {token : String} {claims : Token.RefreshClaims}
    (hd : t.codec.decodeRefresh m token = .ok claims) (requestId : Value) :
    (refresh t m requestId token).Screens (.byId claims.id) Refuses := by
  rw [refresh, hd]
  refine screens_bind (l := .byId claims.id) forall_success_error fun o ho => ?_
  cases o with
  | none => exact quiet_log_raise _ _
  | some u =>
    rw [refreshFor, if_pos (ho u rfl)]
    exact quiet_log_raise _ _

end Session

lemma Authentication.screens_check {t : Token.Issuer} {m : Moment} {schemePrefix headers : Value}
    {claims : Token.AccessClaims} (h : Presents t schemePrefix m headers claims)
    (requestId : Value) : (check t schemePrefix m requestId headers).Screens (.byId claims.id)
      Unauthenticated := by
  obtain ⟨credentials, hcheck⟩ := check_of_presents h
  rw [hcheck]
  exact screens_bind (l := .byId claims.id) (by simp [Unauthenticated])
    fun o ho => quiet_checkUser fun u hu => ho u (congrArg _ hu)

inductive Request.LooksUp (api : Api) (m : Moment) (r : Request) : Lookup → Prop where
  | login {body form} : Endpoint.ofRequest r = .ok (some .login) → r.content = .ok body →
      Login.ofBody body = .ok form → LooksUp api m r (.byEmail (.str form.email))
  | refresh {body token claims} : Endpoint.ofRequest r = .ok (some .refresh) →
      r.content = .ok body → presentedToken body = .ok token →
      api.tokens.codec.decodeRefresh m token = .ok claims → LooksUp api m r (.byId claims.id)
  | caller {claims} : Endpoint.ofRequest r = .ok (some .me) ∨
        (∃ x, Endpoint.ofRequest r = .ok (some (.permissionsOf x))) →
      Authentication.Presents api.tokens api.schemePrefix m r.headers claims →
      LooksUp api m r (.byId claims.id)

namespace Api

variable {api : Api} {m : Moment} {requestId : String} {r : Request} {l : Lookup}

lemma screens_settle {p : Program Response} (h : p.Screens l Refuses) :
    (settle m requestId p).Screens l Unsuccessful := by
  rw [settle, bind_eq]
  refine h.attempt.bind (fun r hr => ?_) fun f _ => forall_success_error f
  obtain ⟨r', hr, hrefuses⟩ := hr
  obtain rfl := Except.ok.inj hr
  cases r with
  | ok response => exact absurd rfl (hrefuses response)
  | error f => exact Failure.quiet_respond m _ _ f

lemma quiet_tag {p : Program Response} (userId : Value) (h : p.Quiet Unsuccessful) :
    (p.bind fun response => (pure (userId, response) : Program (Value × Response))).Quiet
      fun r => Unsuccessful (r.map Prod.snd) :=
  h.bind (fun _ ha => .done ha) fun f _ => forall_success_error f

lemma screens_servePublic {p : Program Response} (h : p.Screens l Refuses) :
    (servePublic m requestId p).Screens l fun r => Unsuccessful (r.map Prod.snd) :=
  (screens_settle h).bind (fun _ ha => .done ha) fun f _ => forall_success_error f

lemma screens_serve {principal : Program Principal} {endpoint : Principal → Program Response}
    (h : principal.Screens l Refuses) :
    (serve m requestId principal endpoint).Screens l fun r => Unsuccessful (r.map Prod.snd) := by
  rw [serve, bind_eq]
  refine h.attempt.bind (fun r hr => ?_) fun f _ => forall_success_error f
  obtain ⟨r', hr, hrefuses⟩ := hr
  obtain rfl := Except.ok.inj hr
  cases r with
  | ok p => exact absurd rfl (hrefuses p)
  | error f => exact quiet_tag _ (Failure.quiet_respond m _ _ f)

lemma screens_authenticate {claims : Token.AccessClaims}
    (h : Authentication.Presents api.tokens api.schemePrefix m r.headers claims) :
    (api.authenticate m requestId r).Screens (.byId claims.id) Refuses := by
  refine (Authentication.screens_check h _).bind (fun a ha => .done fun p hp => ?_)
    fun f _ => forall_success_error f
  obtain ⟨credentials, rfl⟩ := Authentication.principal_eq_ok hp
  exact ha _ _ rfl

lemma screens_answer (h : r.LooksUp api m l) :
    (api.answer m requestId r).Screens l fun r => Unsuccessful (r.map Prod.snd) := by
  rw [answer]
  cases h with
  | login he hbody hform =>
    simp only [he]
    apply screens_servePublic
    simp only [login, hbody, hform, bind_eq, bind_ok]
    exact (Session.screens_login _ _ _ _ _).bind (fun a ha => absurd rfl (ha a))
      fun f _ => forall_success_error f
  | refresh he hbody htoken hd =>
    simp only [he]
    apply screens_servePublic
    simp only [refresh, hbody, htoken, bind_eq, bind_ok]
    exact (Session.screens_refresh hd _).bind (fun a ha => absurd rfl (ha a))
      fun f _ => forall_success_error f
  | caller he hp =>
    rcases he with he | ⟨x, he⟩
    · simp only [he]
      exact screens_serve (screens_authenticate hp)
    · simp only [he]
      exact screens_serve (screens_authenticate hp)

lemma screens_handle (requestId : String) (h : r.LooksUp api m l) :
    (api.handle m requestId r).Screens l Unsuccessful := by
  rw [handle, bind_eq]
  exact (screens_answer h).bind (fun a ha => (quiet_log m _).bind (fun _ _ => .done ha)
    fun f _ => forall_success_error f) fun f _ => forall_success_error f

end Api

namespace Scenario

inductive Step.LooksUp (api : Api) (m : Moment) : Step → Lookup → Prop where
  | login {email password requestId} : LooksUp api m (.login email password requestId)
      (.byEmail email)
  | refresh {token claims requestId} : api.tokens.codec.decodeRefresh m token = .ok claims →
      LooksUp api m (.refresh (.str token) requestId) (.byId claims.id)
  | authenticate {headers claims requestId} :
      Authentication.Presents api.tokens api.schemePrefix m headers claims →
      LooksUp api m (.authenticate headers requestId) (.byId claims.id)
  | request {r l} : r.LooksUp api m l → LooksUp api m (.request r) l

def Answer.Admits : Answer → Prop
  | .pair _ => True
  | .authentication (.authenticated _ _) => True
  | .response r => r.status = 200
  | _ => False

def Rejects (r : Except Failure Answer) : Prop := ∀ a, r = .ok a → ¬ a.Admits

lemma screens_program {x : Scenario} {t : Step} {l : Lookup} (h : t.LooksUp x.api x.moment l)
    (requestId : String) : (x.program requestId t).Screens l Rejects := by
  cases h with
  | login =>
    exact (Session.screens_login _ _ _ _ _).bind (fun a ha => absurd rfl (ha a))
      fun f _ => forall_success_error f
  | refresh hd =>
    exact (Session.screens_refresh hd _).bind (fun a ha => absurd rfl (ha a))
      fun f _ => forall_success_error f
  | authenticate hp =>
    refine (Authentication.screens_check hp _).bind (fun a ha => .done (forall_success_ok ?_))
      fun f _ => forall_success_error f
    cases a with
    | authenticated credentials principal => exact absurd rfl (ha credentials principal)
    | anonymous => exact id
    | rejected f => exact id
  | request hr =>
    exact (Api.screens_handle _ hr).bind (fun a ha => .done (forall_success_ok (ha a rfl)))
      fun f _ => forall_success_error f

end Scenario

end AuthGate
