import AuthGate.Proofs.Service.Answer
import AuthGate.Proofs.Service.Authentication
import AuthGate.Proofs.Service.Authorization
import AuthGate.Proofs.Session.Refresh

namespace AuthGate

open Program

def Request.Gets (r : Request) (path : String) : Prop :=
  r.method = .str "GET" ∧ r.path.text = .ok path

namespace Endpoint

def mePath : String := "/users/me"

def permissionsPath (userId : String) : String := "/users/" ++ userId ++ "/permissions"

def IsSegment (s : String) : Prop := s ≠ "" ∧ '/' ∉ s.toList

lemma userSegment?_permissionsPath {x : String} (hx : IsSegment x) :
    userSegment? (permissionsPath x).toList = some x := by
  have hcut : (permissionsPath x).toList =
      [] ++ '/' :: ("users".toList ++ '/' :: (x.toList ++ '/' :: "permissions".toList)) := by
    simp [permissionsPath]
  have hne : x.toList ≠ [] := by simpa using hx.1
  rw [userSegment?, hcut, Text.splitAt_append (by simp), Text.splitAt_append (by decide),
    Text.splitAt_append hx.2, Text.splitAt_whole (by decide)]
  simp [hne]

lemma ofRequest_me {r : Request} (h : r.Gets mePath) : ofRequest r = .ok (some .me) := by
  rw [ofRequest, h.1]
  simp only [h.2]
  rfl

lemma ofRequest_permissions {r : Request} {x : String} (hx : IsSegment x)
    (h : r.Gets (permissionsPath x)) : ofRequest r = .ok (some (.permissionsOf x)) := by
  have hseg := userSegment?_permissionsPath hx
  have hother (path : String) (hpath : userSegment? path.toList = none) :
      permissionsPath x ≠ path := by
    rintro rfl
    exact absurd (hseg.symm.trans hpath) (by simp)
  have hroot := hother "/" (by decide)
  have hme := hother "/users/me" (by decide)
  rw [ofRequest, h.1]
  simp [h.2, Except.map, find?, methods, hroot, hme, hseg]

end Endpoint

namespace Api

variable {api : Api} {m : Moment} {requestId : String} {r r' : Request} {s : Memory}
  {p : Principal}

/-- The caller of a request: the confirmed user of a token that it carries and that is accepted. -/
def Caller (api : Api) (m : Moment) (s : Memory) (headers : Value) (u : User) : Prop :=
  ∃ claims, Authentication.Presents api.tokens api.schemePrefix m headers claims ∧
    s.users.find? (·.id.same (.str claims.id)) = some u ∧ u.status = .confirmed

def enter (api : Api) (m : Moment) (requestId : String) (r : Request) : Program Access :=
  (api.authenticate m requestId r).bind fun p => Authorization.resolve (some p.id)

lemma quiet_authenticate (requestId : String)
    (h : ∀ claims, ¬ Authentication.Presents api.tokens api.schemePrefix m r.headers claims) :
    (api.authenticate m requestId r).Quiet fun result => ∀ p, result ≠ .ok p := by
  rw [authenticate, bind_eq]
  refine (Authentication.quiet_check h).bind (fun a ha => .done fun p hp => ?_)
    fun e _ p hp => by cases hp
  obtain ⟨credentials, rfl⟩ := Authentication.principal_eq_ok hp
  exact ha _ _ rfl

lemma authenticate_success
    (h : ((api.authenticate m requestId r).run Memory.stores s).result = .ok p) :
    ∃ u, Caller api m s r.headers u ∧ p = u.principal := by
  by_cases hc : ∃ claims, Authentication.Presents api.tokens api.schemePrefix m r.headers claims
  swap
  · exact absurd h ((quiet_authenticate requestId (not_exists.1 hc)).result s p)
  obtain ⟨claims, hpresents⟩ := hc
  obtain ⟨credentials, hcheck⟩ := Authentication.check_of_presents hpresents
  rw [authenticate, bind_eq, hcheck] at h
  simp only [result_bind_eq_ok] at h
  obtain ⟨a, ⟨found, hfound, ha⟩, hp⟩ := h
  have hfound : s.users.find? (·.id.same (.str claims.id)) = found := by
    rw [run_ask] at hfound
    exact Except.ok.inj (Memory.perform_of_ok hfound)
  by_cases hu : ∃ u, found = some u ∧ u.status = .confirmed
  · obtain ⟨u, rfl, hconfirmed⟩ := hu
    obtain rfl := (Authentication.quiet_checkUser_confirmed hconfirmed).result _ a ha
    exact ⟨u, ⟨claims, hpresents, hfound, hconfirmed⟩, (Except.ok.inj hp).symm⟩
  · obtain ⟨credentials, rfl⟩ := Authentication.principal_eq_ok hp
    exact absurd ha ((Authentication.quiet_checkUser fun u hfound hconfirmed =>
      hu ⟨u, hfound, hconfirmed⟩).result _ _ _)

lemma authenticate_of_presents (requestId : String) {claims : Token.AccessClaims} {u : User}
    (hw : (Calendar.iso? m.wall).isSome = true)
    (hp : Authentication.Presents api.tokens api.schemePrefix m r.headers claims)
    (hf : (Memory.stores (.findById claims.id) s).result = .ok (some u))
    (hc : u.status = .confirmed) :
    ((api.authenticate m requestId r).run Memory.stores s).result = .ok u.principal ∧
      ((api.authenticate m requestId r).run Memory.stores s).state =
        (Memory.stores (.findById claims.id) s).state := by
  obtain ⟨credentials, hcheck⟩ := Authentication.check_of_presents hp
  obtain ⟨line, hline⟩ := Log.Entry.write_authentication hw (.str requestId) u.id (.bool true)
    .undefined .undefined (.inl rfl)
  have hrun : (Authentication.check api.tokens api.schemePrefix m (.str requestId) r.headers).run
      Memory.stores s = ⟨.ok (.authenticated credentials u.principal), [line],
        (Memory.stores (.findById claims.id) s).state⟩ := by
    rw [hcheck, run_ask_ok hf, Authentication.checkUser, if_pos hc, bind_eq, log_eq hline]
    rfl
  rw [authenticate, bind_eq, run_bind_ok (congrArg Outcome.result hrun), hrun]
  exact ⟨rfl, rfl⟩

lemma serve_of_presents {claims : Token.AccessClaims} {u : User}
    {endpoint : Principal → Program Response} {response : Response}
    (hw : (Calendar.iso? m.wall).isSome = true)
    (hp : Authentication.Presents api.tokens api.schemePrefix m r.headers claims)
    (hf : (Memory.stores (.findById claims.id) s).result = .ok (some u))
    (hc : u.status = .confirmed) (he : ((endpoint u.principal).run Memory.stores
      (Memory.stores (.findById claims.id) s).state).result = .ok response) :
    ((serve m requestId (api.authenticate m requestId r) endpoint).run Memory.stores s).result =
      .ok (u.principal.id, response) := by
  obtain ⟨hr, hs⟩ := authenticate_of_presents requestId hw hp hf hc
  rw [(serve_of_ok hr).1, hs, (settle_of_ok he).1]
  rfl

lemma me_state (m : Moment) (requestId : String) (p : Principal) (s : Memory) :
    ((me m requestId p).run Memory.stores s).state =
      ((Authorization.resolve (some p.id)).run Memory.stores s).state := by
  rw [me, bind_eq, ← Authorization.describe_state]
  refine state_bind_quiet (fun _ => ?_) _ _
  exact .done trivial

lemma permissionsOf_success {x : String} {response : Response}
    (h : ((permissionsOf m requestId x p).run Memory.stores s).result = .ok response) :
    s.grants.Reaches p.id readPermission := by
  rw [permissionsOf, bind_eq, result_bind_eq_ok] at h
  obtain ⟨⟨⟩, h, -⟩ := h
  exact Authorization.requirePermission_reaches h

lemma permissionsOf_refused (m : Moment) (requestId : String)
    (h : ¬ s.grants.Reaches p.id readPermission) :
    ∃ f lines, ∀ x, (permissionsOf m requestId x p).run Memory.stores s =
      ⟨.error f, lines, ((Authorization.resolve (some p.id)).run Memory.stores s).state⟩ := by
  cases hr : ((Authorization.requirePermission m (.str requestId) (some p.id)
    (.str readPermission)).run Memory.stores s).result with
  | ok u => exact absurd (Authorization.requirePermission_reaches hr) h
  | error f =>
    -- The check comes first and does not see the target, so one failure serves all of them.
    exact ⟨f, _, fun x => (run_bind_error hr _).trans (by
      rw [Authorization.requirePermission_state])⟩

lemma answer_me (api : Api) (m : Moment) (requestId : String) (h : r.Gets Endpoint.mePath) :
    api.answer m requestId r = serve m requestId (api.authenticate m requestId r)
      (me m requestId) := by
  rw [answer, Endpoint.ofRequest_me h]

lemma answer_permissions (api : Api) (m : Moment) (requestId : String) {x : String}
    (hx : Endpoint.IsSegment x) (h : r.Gets (Endpoint.permissionsPath x)) :
    api.answer m requestId r = serve m requestId (api.authenticate m requestId r)
      (permissionsOf m requestId x) := by
  rw [answer, Endpoint.ofRequest_permissions hx h]

lemma serve_silent {endpoint : Principal → Program Response}
    (h : ∀ claims, ¬ Authentication.Presents api.tokens api.schemePrefix m r.headers claims) :
    ((serve m requestId (api.authenticate m requestId r) endpoint).run Memory.stores s).state =
      s := by
  have hq := quiet_authenticate requestId h
  cases hp : ((api.authenticate m requestId r).run Memory.stores s).result with
  | ok p => exact absurd hp (hq.result s p)
  | error f => rw [(serve_of_error hp s).2, hq.state]

lemma serve_me : ((serve m requestId (api.authenticate m requestId r) (me m requestId)).run
    Memory.stores s).state = ((api.enter m requestId r).run Memory.stores s).state := by
  rw [enter]
  cases hp : ((api.authenticate m requestId r).run Memory.stores s).result with
  | ok p => rw [(serve_of_ok hp).2, run_bind_ok hp, me_state]
  | error f => rw [(serve_of_error hp s).2, run_bind_error hp]

lemma serve_permissions_refused (requestId : String)
    (h : ∀ u, Caller api m s r.headers u → ¬ s.grants.Reaches u.id readPermission) :
    ∃ result, ∀ x, ((serve m requestId (api.authenticate m requestId r)
        (permissionsOf m requestId x)).run Memory.stores s).result = result ∧
      ((serve m requestId (api.authenticate m requestId r)
        (permissionsOf m requestId x)).run Memory.stores s).state =
        ((api.enter m requestId r).run Memory.stores s).state := by
  rw [enter]
  cases hp : ((api.authenticate m requestId r).run Memory.stores s).result with
  | error f =>
    refine ⟨_, fun x => ⟨(serve_of_error hp s).1, ?_⟩⟩
    rw [(serve_of_error hp s).2, run_bind_error hp]
  | ok p =>
    obtain ⟨u, hu, rfl⟩ := authenticate_success hp
    have hreach : ¬ ((api.authenticate m requestId r).run Memory.stores s).state.grants.Reaches
        u.principal.id readPermission := by
      rw [(Memory.fixed_run _ s).grants]
      exact h u hu
    obtain ⟨f, lines, hrefused⟩ := permissionsOf_refused m requestId hreach
    have hsettled (x : String) :=
      settle_of_error m requestId (congrArg Outcome.result (hrefused x)) s
    refine ⟨_, fun x => ⟨(serve_of_ok hp).1.trans (congrArg _ (hsettled x).1), ?_⟩⟩
    rw [(serve_of_ok hp).2, hrefused, run_bind_ok hp]

lemma handle_me_success {response : Response} (hr : r.Gets Endpoint.mePath)
    (h : ((api.handle m requestId r).run Memory.stores s).result = .ok response)
    (hok : response.status = 200) : ∃ u, Caller api m s r.headers u := by
  obtain ⟨userId, h⟩ := handle_success h
  rw [answer_me api m requestId hr] at h
  obtain ⟨p, hp, -⟩ := serve_success h hok
  obtain ⟨u, hu, -⟩ := authenticate_success hp
  exact ⟨u, hu⟩

lemma handle_permissions_success {x : String} {response : Response} (hx : Endpoint.IsSegment x)
    (hr : r.Gets (Endpoint.permissionsPath x))
    (h : ((api.handle m requestId r).run Memory.stores s).result = .ok response)
    (hok : response.status = 200) :
    ∃ u, Caller api m s r.headers u ∧ s.grants.Reaches u.id readPermission := by
  obtain ⟨userId, h⟩ := handle_success h
  rw [answer_permissions api m requestId hx hr] at h
  obtain ⟨p, hp, h⟩ := serve_success h hok
  obtain ⟨u, hu, rfl⟩ := authenticate_success hp
  have hreach := permissionsOf_success h
  rw [(Memory.fixed_run _ s).grants] at hreach
  exact ⟨u, hu, hreach⟩

/-- The law of the gate. Success is for callers alone, and for those who may read permissions where
these are told; without a token that is accepted the stores are not asked, and those who may not
read permissions are told the same whomever they ask for. -/
theorem gated (api : Api) (m : Moment) (requestId : String) (s : Memory) :
    (∀ r : Request, r.Gets Endpoint.mePath → ∀ response,
      ((api.handle m requestId r).run Memory.stores s).result = .ok response →
      response.status = 200 → ∃ u, Caller api m s r.headers u) ∧
    (∀ (r : Request) x, Endpoint.IsSegment x → r.Gets (Endpoint.permissionsPath x) → ∀ response,
      ((api.handle m requestId r).run Memory.stores s).result = .ok response →
      response.status = 200 →
      ∃ u, Caller api m s r.headers u ∧ s.grants.Reaches u.id readPermission) ∧
    (∀ r : Request, r.Gets Endpoint.mePath ∨
        (∃ x, Endpoint.IsSegment x ∧ r.Gets (Endpoint.permissionsPath x)) →
      (∀ claims, ¬ Authentication.Presents api.tokens api.schemePrefix m r.headers claims) →
      ((api.handle m requestId r).run Memory.stores s).state = s) ∧
    (∀ r : Request, r.Gets Endpoint.mePath →
      ((api.handle m requestId r).run Memory.stores s).state =
        ((api.enter m requestId r).run Memory.stores s).state) ∧
    ∀ (r r' : Request) x y, Endpoint.IsSegment x → r.Gets (Endpoint.permissionsPath x) →
      Endpoint.IsSegment y → r'.Gets (Endpoint.permissionsPath y) → r'.headers = r.headers →
      (∀ u, Caller api m s r.headers u → ¬ s.grants.Reaches u.id readPermission) →
      ((api.handle m requestId r).run Memory.stores s).state =
          ((api.enter m requestId r).run Memory.stores s).state ∧
        ((api.handle m requestId r).run Memory.stores s).result =
          ((api.handle m requestId r').run Memory.stores s).result := by
  refine ⟨fun r hr response => handle_me_success hr,
    fun r x hx hr response => handle_permissions_success hx hr, fun r hr hno => ?_, fun r hr => ?_,
    fun r r' x y hx hr hy hr' hheaders hno => ⟨?_, ?_⟩⟩
  · rw [(handle_run api r s).2]
    rcases hr with hr | ⟨x, hx, hr⟩
    · rw [answer_me api m requestId hr, serve_silent hno]
    · rw [answer_permissions api m requestId hx hr, serve_silent hno]
  · rw [(handle_run api r s).2, answer_me api m requestId hr, serve_me]
  · obtain ⟨result, hrefused⟩ := serve_permissions_refused requestId hno
    rw [(handle_run api r s).2, answer_permissions api m requestId hx hr, (hrefused x).2]
  · obtain ⟨result, hrefused⟩ := serve_permissions_refused requestId hno
    have hauth : api.authenticate m requestId r' = api.authenticate m requestId r := by
      rw [authenticate, authenticate, hheaders]
    apply handle_congr
    rw [answer_permissions api m requestId hx hr, answer_permissions api m requestId hy hr', hauth,
      (hrefused x).1, (hrefused y).1]

def accessPayload : Record :=
  Token.sampleIssuer.claimsPayload [("id", .str "user-1")] Token.accessAudience (.finite 1)
    (.finite (2 ^ 71))

def accessToken : String := Token.sampleIssuer.codec.sign accessPayload

lemma decodeAccess_accessToken (hm : m.clock.seconds = .ok (.finite 1700000000)) :
    Token.sampleIssuer.codec.decodeAccess m accessToken =
      .ok ⟨"user-1", .finite 1, .finite (2 ^ 71)⟩ := by
  have hread : Json.Readable (.obj accessPayload) := Token.Issuer.readable_access rfl
    (Session.isBinary_two_pow (k := 0) (by norm_num))
    (Session.isBinary_two_pow (k := 71) (by norm_num))
  rw [Token.Codec.decodeAccess, Except.bind_eq_ok]
  exact ⟨_, Token.Codec.payloadFor_sign rfl rfl hread (Token.Issuer.now_eq hm (by norm_num))
    (Token.Codec.judge_of_lasting rfl rfl rfl (by norm_num) rfl) rfl,
    Token.AccessClaims.ofPayload_eq_ok.2 ⟨rfl, by decide, rfl, rfl⟩⟩

def sampleApi : Api := ⟨Token.sampleIssuer, .str "Bearer"⟩

def sampleRequest (path : String) : Request :=
  ⟨.obj [("Authorization", .str ("Bearer" ++ " " ++ accessToken))], .str "GET", .str path, .null,
    false⟩

lemma carries_bearing (payload : Record) :
    Authentication.Carries (.str "Bearer")
      (.obj [("Authorization", .str ("Bearer" ++ " " ++ Token.sampleIssuer.codec.sign payload))])
      (Token.sampleIssuer.codec.sign payload) := by
  have hbearer : ∀ c ∈ "Bearer".toList, Text.isBlank c = false := by simp [Text.isBlank]
  refine Authentication.carries_header hbearer (by decide) (Token.Codec.sign_not_blank _ _) ?_
  rw [Token.Codec.sign]
  simp

lemma presents_sampleRequest (hm : m.clock.seconds = .ok (.finite 1700000000)) (path : String) :
    Authentication.Presents sampleApi.tokens sampleApi.schemePrefix m (sampleRequest path).headers
      ⟨"user-1", .finite 1, .finite (2 ^ 71)⟩ :=
  ⟨accessToken, carries_bearing accessPayload, decodeAccess_accessToken hm⟩

lemma handle_sampleRequest {path : String} {endpoint : Principal → Program Response}
    {response : Response} (hf : (Memory.stores (.findById "user-1") s).result =
      .ok (some Session.sampleUser))
    (ha : sampleApi.answer Token.sampleMoment requestId (sampleRequest path) =
      serve Token.sampleMoment requestId
        (sampleApi.authenticate Token.sampleMoment requestId (sampleRequest path)) endpoint)
    (he : ((endpoint Session.sampleUser.principal).run Memory.stores
      (Memory.stores (.findById "user-1") s).state).result = .ok response) :
    ((sampleApi.handle Token.sampleMoment requestId (sampleRequest path)).run Memory.stores
      s).result = .ok response := by
  have hp := presents_sampleRequest Token.sampleMoment_seconds path
  rw [(handle_run _ _ _).1, ha, serve_of_presents Token.sampleMoment_wall hp hf rfl he]
  rfl

def readerMemory : Memory :=
  { Session.sampleMemory with grants :=
    ⟨[("user-1", .arr [.obj [("id", .str "g"), ("name", .str "staff")]])],
      [("g", .arr [.obj [("id", .str "r"), ("name", .str "reader")]])],
      [("r", .arr [.obj [("id", .str "p"), ("name", .str "user:read")]])]⟩ }

def anonymousRequest : Request := ⟨.obj [], .str "GET", .str "/users/me", .null, false⟩

theorem gated_sample :
    (∃ u, Caller sampleApi Token.sampleMoment readerMemory
      (sampleRequest Endpoint.mePath).headers u) ∧
    (∃ u, Caller sampleApi Token.sampleMoment readerMemory
        (sampleRequest (Endpoint.permissionsPath "user-1")).headers u ∧
      readerMemory.grants.Reaches u.id readPermission) ∧
    ((sampleApi.handle Token.sampleMoment "request-1" anonymousRequest).run Memory.stores
      readerMemory).state = readerMemory ∧
    ((sampleApi.handle Token.sampleMoment "request-1" (sampleRequest Endpoint.mePath)).run
        Memory.stores readerMemory).state =
      ((sampleApi.enter Token.sampleMoment "request-1" (sampleRequest Endpoint.mePath)).run
        Memory.stores readerMemory).state ∧
    ((sampleApi.handle Token.sampleMoment "request-1"
        (sampleRequest (Endpoint.permissionsPath "user-1"))).run Memory.stores
          Session.sampleMemory).result =
      ((sampleApi.handle Token.sampleMoment "request-1"
        (sampleRequest (Endpoint.permissionsPath "nobody"))).run Memory.stores
          Session.sampleMemory).result := by
  obtain ⟨hme, hpermissions, hsilent, hown, -⟩ :=
    gated sampleApi Token.sampleMoment "request-1" readerMemory
  obtain ⟨-, -, -, -, hsame⟩ :=
    gated sampleApi Token.sampleMoment "request-1" Session.sampleMemory
  have hgets : (sampleRequest Endpoint.mePath).Gets Endpoint.mePath := ⟨rfl, rfl⟩
  have hgets' (x : String) : (sampleRequest (Endpoint.permissionsPath x)).Gets
    (Endpoint.permissionsPath x) := ⟨rfl, rfl⟩
  have hone : Endpoint.IsSegment "user-1" := ⟨by decide, by decide⟩
  have hother : Endpoint.IsSegment "nobody" := ⟨by decide, by decide⟩
  refine ⟨hme _ hgets _ (handle_sampleRequest rfl (answer_me _ _ _ hgets) rfl) rfl,
    hpermissions _ _ hone (hgets' _) _
      (handle_sampleRequest rfl (answer_permissions _ _ _ hone (hgets' _)) rfl) rfl,
    hsilent _ (.inl ⟨rfl, rfl⟩) ?_, hown _ hgets,
    (hsame _ _ _ _ hone (hgets' _) hother (hgets' _) rfl ?_).2⟩
  · rintro claims ⟨token, ⟨text, scheme, asked, hf, -⟩, -⟩
    cases hf
  · rintro u ⟨claims, -, hu, -⟩ ⟨groups, hgroups, group, hgroup, -⟩
    obtain rfl := List.mem_singleton.1 (List.mem_of_find?_eq_some hu)
    obtain rfl : [] = groups := Except.ok.inj hgroups
    cases hgroup

end Api

end AuthGate
