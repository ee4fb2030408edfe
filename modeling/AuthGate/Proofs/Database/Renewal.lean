import AuthGate.Proofs.Database.Rotation
import AuthGate.Proofs.Service.Discretion
import AuthGate.Proofs.Service.Envelope

namespace AuthGate

open Token (IsId)

namespace Database

variable {t u : Value} {db : Database}

structure Queried (q : Query) (db db' : Database) : Prop where
  reply : ∀ k, db'.reply k = db.reply (k + 1)
  making : db'.making = []
  connects : db'.Connects → db.connectFailure = none
  trace : db'.trace = (db.making ++ [Event.query q]).reverse ++ db.trace

lemma queried_of_pooled {db₁ : Database} (h : db.Pooled (.ok (), db₁)) (q : Query) :
    db₁.reply 0 = db.reply 0 ∧ Queried q db (db₁.past 1 [.query q]) := by
  have hreply (hr : db₁.reply = db.reply) (k : ℕ) :
      (db₁.past 1 [.query q]).reply k = db.reply (k + 1) := by
    rw [reply_past, hr, Nat.add_comm]
  cases h with
  | @kept c hc =>
    exact ⟨rfl, hreply rfl, by simp [making, past, hc], And.right, by simp [making, past, hc]⟩
  | @made s hn hs =>
    exact ⟨rfl, hreply rfl, by simp [making, past], And.right, by simp [making, past, hn, hs]⟩

lemma query_eq_ok {q : Query} {rows : Rows} (h : (query q db).result = .ok rows) :
    db.reply 0 = .ok rows ∧ Queried q db (query q db).state := by
  have hpool := pooled_ensurePool db
  change ((query q).bare db).1 = _ at h
  change _ ∧ Queried q db ((query q).bare db).2
  rw [query, bare_bind] at h ⊢
  generalize ensurePool.bare db = p at hpool h ⊢
  obtain ⟨f | u, db₁⟩ := p
  · cases h
  · simp only [bare_next] at h ⊢
    obtain ⟨hreply, hqueried⟩ := queried_of_pooled hpool q
    exact ⟨hreply ▸ h, hqueried⟩

lemma userById_eq_some {id : String} {user : Record}
    (h : (userById (.str id) db).result = .ok (some user)) :
    (∃ row rows, db.reply 0 = .ok (row :: rows) ∧ userFields row = .ok user) ∧
      Queried (userBy "id" (.str id)) db (userById (.str id) db).state := by
  have hid : (Value.str id).text = .ok id := rfl
  rw [userById, hid, ofResult_ok_bind] at h ⊢
  split_ifs at h ⊢ with hu
  · rw [fetchUser, bind_result_eq_ok] at h
    obtain ⟨rows, hrows, h⟩ := h
    obtain ⟨hreply, hqueried⟩ := query_eq_ok hrows
    rw [fetchUser, (bind_of_ok hrows _).2]
    refine ⟨?_, hqueried⟩
    cases rows with
    | nil => cases h
    | cons row rows =>
      obtain ⟨fields, hf, hs⟩ := Except.map_eq_ok.1 h
      obtain rfl := Option.some.inj hs
      exact ⟨row, rows, hreply, hf⟩
  · cases h

end Database

namespace Session

open Program

variable {σ : Type} {stores : Stores σ} {s : σ} {i : Token.Issuer} {m : Moment}
  {requestId : Value} {token : String} {pair : Token.Pair}

structure Renews (stores : Stores σ) (i : Token.Issuer) (m : Moment) (s s' : σ)
    (claims : Token.RefreshClaims) (user : User) (tokenId : Value) (pair : Token.Pair) : Prop where
  found : (stores (.findById claims.id) s).result = .ok (some user)
  rotated : (stores (.rotate claims.tokenId user.id)
    (stores (.findById claims.id) s).state).result = .ok (some tokenId)
  state : s' = (stores (.rotate claims.tokenId user.id)
    (stores (.findById claims.id) s).state).state
  made : i.createPair m user.id tokenId = .ok pair

lemma renews_of_refresh (h : ((refresh i m requestId token).run stores s).result = .ok pair) :
    ∃ claims user tokenId, i.codec.decodeRefresh m token = .ok claims ∧
      Renews stores i m s ((refresh i m requestId token).run stores s).state claims user tokenId
        pair := by
  rw [refresh] at h ⊢
  simp only [bind_eq] at h ⊢
  cases hd : i.codec.decodeRefresh m token with
  | error f => simp [hd] at h
  | ok claims =>
    simp only [hd, bind_ok] at h ⊢
    rw [result_bind_eq_ok] at h
    obtain ⟨found, hfound, hrest⟩ := h
    rw [run_bind_ok hfound]
    rw [run_ask] at hfound hrest ⊢
    cases found with
    | none => exact absurd hrest ((quiet_log_raise _ _).result _ _)
    | some user =>
      rw [refreshFor] at hrest ⊢
      split_ifs at hrest ⊢ with hu
      · exact absurd hrest ((quiet_log_raise _ _).result _ _)
      · simp only [bind_eq] at hrest ⊢
        rw [result_bind_eq_ok] at hrest
        obtain ⟨o, ho, hrest⟩ := hrest
        rw [run_bind_ok ho]
        rw [run_ask] at ho hrest ⊢
        cases o with
        | none =>
          exact absurd hrest (result_bind_ne_ok (fun _ s => (quiet_log_raise _ _).result s _) _ _)
        | some tokenId =>
          obtain ⟨⟨⟩, -, hpair⟩ := result_bind_eq_ok.1 hrest
          have hquiet := (quiet_log m (.authentication requestId user.id (.bool true) .undefined
            .undefined)).bind (Q := fun _ => True)
              (f := fun _ => done (i.createPair m user.id tokenId))
              (fun _ _ => .done trivial) fun _ _ => trivial
          exact ⟨claims, user, tokenId, rfl, hfound, ho, hquiet.state _, hpair⟩

lemma refresh_of_renews {s' : σ} {claims : Token.RefreshClaims} {user : User} {tokenId : Value}
    (hd : i.codec.decodeRefresh m token = .ok claims)
    (h : Renews stores i m s s' claims user tokenId pair) (hc : user.status = .confirmed)
    (hw : (Calendar.iso? m.wall).isSome = true) (requestId : Value) :
    ((refresh i m requestId token).run stores s).result = .ok pair := by
  obtain ⟨line, hline⟩ := Log.Entry.write_authentication hw requestId user.id (.bool true)
    .undefined .undefined (.inl rfl)
  rw [refresh, hd]
  simp only [bind_eq, bind_ok]
  refine result_bind_eq_ok.2 ⟨some user, h.found, ?_⟩
  rw [run_ask, refreshFor, if_neg (by simp [hc])]
  refine result_bind_eq_ok.2 ⟨some tokenId, h.rotated, ?_⟩
  simp only [log_eq hline, bind_eq, bind_write, bind_ok]
  exact h.made

end Session

lemma id_ofRow_userFields {row : Value} {fields : Record} (h : userFields row = .ok fields) :
    (User.ofRow fields).id = row.field "id" := by
  obtain ⟨id, hid, h⟩ := Except.bind_eq_ok.1 h
  obtain rfl := Except.ok.inj h
  cases row with
  | undefined | null => cases hid
  | _ => exact (Except.ok.inj hid).symm

namespace Database

variable {db db' : Database} {i : Token.Issuer} {m : Moment} {claims : Token.RefreshClaims}
  {user : User} {tokenId : Value} {pair : Token.Pair}

structure Renewed (db : Database) (trace : List Event) (id : String) (tokenId userId row : Value) :
    Prop where
  connected : db.connectFailure = none
  found : ∃ user rows, db.reply 0 = .ok (user :: rows) ∧ user.field "id" = userId
  begun : ∃ rows, db.reply 1 = .ok rows
  revoked : ∃ row rows, db.reply 2 = .ok (row :: rows)
  issued : ∃ rows, db.reply 3 = .ok (row :: rows)
  committed : ∃ rows, db.reply 4 = .ok rows
  trace : trace = db.making ++ .query (userBy "id" (.str id)) :: renewal tokenId userId

lemma renewed_of_renews (h : Session.Renews stores i m db db' claims user tokenId pair)
    (hid : Identified (db.reply 3)) (htrace : db.trace = []) :
    ∃ row, row.field "id" = tokenId ∧
      db.Renewed db'.trace.reverse claims.id (.ofNat claims.tokenId) user.id row := by
  obtain ⟨hresult, hstate⟩ := map_run (Option.map User.ofRow) (userById (.str claims.id)) db
  have hfound := h.found
  rw [stores, answer, hresult] at hfound
  obtain ⟨o, hfields, ho⟩ := Except.map_eq_ok.1 hfound
  obtain ⟨fields, rfl, huser⟩ := Option.map_eq_some_iff.1 ho
  obtain ⟨⟨row, rows, hreply, hrow⟩, hqueried⟩ := userById_eq_some hfields
  have hrotated := h.rotated
  have hs := h.state
  rw [stores, answer, answer, hstate] at hrotated hs
  have hid' : Identified ((userById (.str claims.id) db).state.reply 2) := by
    rwa [hqueried.reply]
  obtain ⟨hconnects, hbegun, hrevoked, ⟨row', rows', hissued, hv⟩, hcommitted⟩ :=
    (rotate_eq_some hid' _ _).1 hrotated
  simp only [hqueried.reply] at hbegun hrevoked hissued hcommitted
  refine ⟨row', hv, hqueried.connects hconnects, ⟨row, rows, hreply, ?_⟩, hbegun, hrevoked,
    ⟨rows', hissued⟩, hcommitted, ?_⟩
  · rw [← huser, id_ofRow_userFields hrow]
  · rw [hs, rotate_trace hid' hrotated, hqueried.making, hqueried.trace, htrace]
    simp

end Database

namespace Api

open Program

variable {σ : Type} {stores : Stores σ} {s : σ} {api : Api} {m : Moment} {requestId : String}
  {r : Request} {response : Response}

lemma renews_of_refresh (h : ((api.refresh m requestId r).run stores s).result = .ok response) :
    ∃ token claims user tokenId pair, r.content.bind presentedToken = .ok token ∧
      api.tokens.codec.decodeRefresh m token = .ok claims ∧
      Session.Renews stores api.tokens m s ((api.refresh m requestId r).run stores s).state claims
        user tokenId pair ∧
      Response.success m (.str requestId) (.obj (pairFields pair)) = .ok response := by
  rw [refresh] at h ⊢
  simp only [bind_eq] at h ⊢
  cases hc : r.content with
  | error f => simp [hc] at h
  | ok body =>
    simp only [hc, bind_ok] at h ⊢
    cases ht : presentedToken body with
    | error f => simp [ht] at h
    | ok token =>
      simp only [ht, bind_ok] at h ⊢
      obtain ⟨pair, hpair, hsuccess⟩ := result_bind_eq_ok.1 h
      obtain ⟨claims, user, tokenId, hclaims, hrenews⟩ := Session.renews_of_refresh hpair
      have hquiet (pair : Token.Pair) :
          (succeed m requestId (pairFields pair)).Quiet fun _ => True := .done trivial
      rw [state_bind_quiet hquiet]
      exact ⟨token, claims, user, tokenId, pair, ht, hclaims, hrenews, hsuccess⟩

lemma refresh_of_renews {s' : σ} {body : Value} {token : String} {claims : Token.RefreshClaims}
    {user : User} {tokenId : Value} {pair : Token.Pair} (hcontent : r.content = .ok body)
    (ht : presentedToken body = .ok token)
    (hd : api.tokens.codec.decodeRefresh m token = .ok claims)
    (h : Session.Renews stores api.tokens m s s' claims user tokenId pair)
    (hc : user.status = .confirmed) (hw : (Calendar.iso? m.wall).isSome = true) :
    ((api.refresh m requestId r).run stores s).result =
      Response.success m (.str requestId) (.obj (pairFields pair)) := by
  have hpair := Session.refresh_of_renews hd h hc hw (.str requestId)
  rw [refresh, hcontent]
  simp only [bind_eq, bind_ok, ht]
  rw [run_bind_ok hpair]
  rfl

lemma handle_of_refresh (he : Endpoint.ofRequest r = .ok (some .refresh))
    (h : ((api.handle m requestId r).run stores s).result = .ok response)
    (hok : response.status = 200) :
    ((api.refresh m requestId r).run stores s).result = .ok response ∧
      ((api.handle m requestId r).run stores s).state =
        ((api.refresh m requestId r).run stores s).state := by
  have hanswer : api.answer m requestId r =
      servePublic m requestId (api.refresh m requestId r) := by
    rw [answer, he]
  obtain ⟨userId, hresult⟩ := handle_success h
  rw [hanswer, servePublic_result] at hresult
  obtain ⟨response', hsettled, hpair⟩ := Except.map_eq_ok.1 hresult
  obtain ⟨-, rfl⟩ := Prod.mk.inj hpair
  have hquiet (response : Response) :
      (pure (Value.undefined, response) : Program (Value × Response)).Quiet fun _ => True :=
    .done trivial
  refine ⟨settle_success hsettled hok, ?_⟩
  rw [(handle_run api r s).2, hanswer, servePublic, bind_eq, state_bind_quiet hquiet, settle_state]

end Api

def Request.Puts (r : Request) (path : String) : Prop :=
  r.method = .str "PUT" ∧ r.path.text = .ok path

lemma Endpoint.ofRequest_refresh {r : Request} (h : r.Puts "/tokens") :
    ofRequest r = .ok (some .refresh) := by
  rw [ofRequest, h.1]
  simp only [h.2]
  rfl

namespace Deployment

open Database (Event)

variable {d : Deployment} {env : Environment} {ts : List (Script × Step)} {script : Script}
  {r : Request} {response : Response} {api : Api}

lemma built_of_currentApi {P : Environment → Prop} (hP : ∀ env, P env → env.Loads) {wall : Number}
    (henv : P env) (hts : ∀ t ∈ ts, t.2.Sets P) {i : ℕ} (hi : i ≤ ts.length)
    (h : ((start env wall).after (ts.take i)).currentApi = .ok api) :
    ∃ env', P env' ∧ buildApi env' = .ok api := by
  have hloads : ∀ t ∈ ts, t.2.Sets Environment.Loads := by
    intro t ht
    have hset := hts t ht
    cases hstep : t.2 with
    | setEnvironment env' =>
      rw [hstep] at hset
      exact hP env' hset
    | _ => trivial
  have hholds := holds_after (d := start env wall) (hP env henv) hloads rfl rfl hi
  have hpool := pool_after (d := start env wall) (hP env henv) hloads rfl hi
  rw [currentApi] at h
  obtain ⟨k, -, api', hfirst, hheld⟩ | ⟨hnone, -⟩ := hholds
  · rw [hheld] at h
    obtain rfl := Except.ok.inj h
    exact ⟨_, environmentAfter_of henv hts k, hfirst.built⟩
  · rw [hnone, hpool.1] at h
    exact ⟨_, environmentAfter_of henv hts i, h⟩

lemma shows_of_built (henv : env.Textual) (hbuilt : buildApi env = .ok api) {m : Moment}
    {wall : Number} (hclock : m.clock = .reads wall) {id tokenId : Value} {pair : Token.Pair}
    (hid : IsId id) (htoken : IsId tokenId) (h : api.tokens.createPair m id tokenId = .ok pair) :
    Token.Shows pair.refresh "token_id" tokenId := by
  obtain ⟨s, hs, hv, hmake, -⟩ := buildApi_eq_ok.1 hbuilt
  obtain ⟨secret, issuer, hregular, -, hrefresh⟩ := Settings.regular_auth henv hs hv
  have hsound := hregular.sound hmake
  exact Token.Issuer.shows_of_createPair hsound.issuer hsound.refreshLifetime hrefresh hclock hid
    htoken h

lemma renewed_of_success (henv : env.Textual) (hts : ∀ t ∈ ts, t.2.Sets Environment.Textual)
    {wall : Number} {i : ℕ} {report : Report} (ht : ts[i]? = some (script, .handle r))
    (hr : r.Puts "/tokens") (hid : script.Identified)
    (hreport : ((start env wall).run ts)[i]? = some report)
    (hresult : report.result = .ok (.response response)) (hok : response.status = 200) :
    let d := (start env wall).after (ts.take i)
    ∃ id tokenId userId row, ∃ pair : Token.Pair, ∃ time,
      (d.ready script).Renewed report.trace id tokenId userId row ∧
      Token.Shows pair.refresh "token_id" (row.field "id") ∧
      response.body =
        Response.dataText (requestId (d.requests + 1)) time (Api.pairFields pair) := by
  intro d
  have hstep : report = (d.step script (.handle r)).1 := by
    rw [getElem?_run, ht] at hreport
    exact (Option.some.inj hreport).symm
  cases hc : d.currentApi with
  | error f =>
    rw [hstep, step_of_no_api hc] at hresult
    cases hresult
  | ok api =>
    rw [(step_of_currentApi hc script r).1] at hstep
    rw [hstep] at hresult ⊢
    obtain ⟨response', hhandle, hresponse⟩ := Except.map_eq_ok.1 hresult
    obtain rfl := Answer.response.inj hresponse
    obtain ⟨hrefresh, hstate⟩ := Api.handle_of_refresh (Endpoint.ofRequest_refresh hr) hhandle hok
    obtain ⟨token, claims, user, tokenId, pair, -, -, hrenews, hsuccess⟩ :=
      Api.renews_of_refresh hrefresh
    obtain ⟨row, hrow, hrenewed⟩ := Database.renewed_of_renews hrenews (hid 3) rfl
    have htrace : (d.handled api script r).trace = ((api.refresh d.moment
        (requestId (d.requests + 1)) r).run Database.stores (d.ready script)).state.trace.reverse :=
      congrArg (fun db => db.trace.reverse) hstate
    rw [htrace]
    -- The ids of both rows are such as a token can show.
    obtain ⟨userRow, userRows, hfound, huser⟩ := hrenewed.found
    obtain ⟨rows, hissued⟩ := hrenewed.issued
    have huserId := hid 0 _ hfound userRow List.mem_cons_self
    have htokenId := hid 3 _ hissued row List.mem_cons_self
    rw [huser] at huserId
    rw [hrow] at htokenId
    -- The interface may be older than the environment of this request.
    obtain ⟨env', henv', hbuilt⟩ := built_of_currentApi (fun _ => Settings.loads_of_textual) henv
      hts (List.getElem?_eq_some_iff.1 ht).1.le hc
    have hshows := shows_of_built henv' hbuilt rfl huserId htokenId hrenews.made
    obtain herror | ⟨time, htime⟩ := Response.success_cases d.moment (requestId (d.requests + 1))
      (Api.pairFields pair)
    · cases hsuccess.symm.trans herror
    · obtain rfl := Except.ok.inj (hsuccess.symm.trans htime)
      rw [← hrow] at hshows
      exact ⟨claims.id, .ofNat claims.tokenId, user.id, row, pair, time, hrenewed, hshows, rfl⟩

end Deployment

open Deployment Database in
/-- Tokens are given after the commit. A refresh that is answered with success has found its user,
and then revoked the old record, issued a new one and committed both on one connection, and the
refresh token of the answer names the new record; and a rotation gives no record, one record or a
failure as its queries are answered, issues none unless it revoked one, and releases its connection
last and once. -/
theorem Deployment.tokens_after_commit :
    (∀ (env : Environment) (wall : Number) (ts : List (Script × Step)), env.Textual →
      (∀ t ∈ ts, t.2.Sets Environment.Textual) → ∀ i script r report response,
      ts[i]? = some (script, .handle r) → r.Puts "/tokens" → script.Identified →
      ((start env wall).run ts)[i]? = some report → report.result = .ok (.response response) →
      response.status = 200 →
      let d := (start env wall).after (ts.take i)
      ∃ id tokenId userId row, ∃ pair : Token.Pair, ∃ time,
        (d.ready script).Renewed report.trace id tokenId userId row ∧
        Token.Shows pair.refresh "token_id" (row.field "id") ∧
        response.body =
          Response.dataText (requestId (d.requests + 1)) time (Api.pairFields pair)) ∧
    ∀ (d : Deployment) (script : Script) (tokenId userId : Value), script.Identified →
      d.Rotates script tokenId userId (d.step script (.rotate tokenId userId)).1 :=
  ⟨fun _ _ _ henv hts _ _ _ _ _ ht hr hid hreport hresult hok =>
    renewed_of_success henv hts ht hr hid hreport hresult hok,
    fun d _ tokenId userId hid => rotates hid d tokenId userId⟩

namespace Deployment

def renewingId : String := "00000000-0000-4000-8000-000000000001"

def renewingPayload : Record :=
  Token.sampleIssuer.claimsPayload [("id", .str renewingId), ("token_id", .ofNat 7)]
    Token.refreshAudience (.finite 1) ((Number.finite 1).add (.finite 2592000))

def renewingToken : String := Token.sampleIssuer.codec.sign renewingPayload

def renewingBody : Value := .obj [("refresh_token", .str renewingToken)]

def renewingRequest : Request :=
  ⟨.obj [], .str "PUT", .str "/tokens", .str (Json.text renewingBody), false⟩

/-- The user is found, the old record is revoked, and the new one has the id 8. -/
def renewingScript : Script :=
  ⟨[.ok [.obj [("id", .str renewingId), ("status", .str "CONFIRMED")]], .ok [],
    .ok [.obj [("id", .ofNat 7)]], .ok [.obj [("id", .ofNat 8)]], .ok []], none⟩

def renewing : Deployment := start (withSecret "test-secret") (.finite 1000)

lemma buildApi_renewing : renewing.currentApi = .ok Api.sampleApi := by
  have ht : (loadedWith "test-secret").secret.truthy = true := by decide
  exact buildApi_eq_ok.2 ⟨_, load_withSecret _, validate_withSecret (by decide), make?_auth ht, rfl⟩

lemma presentedToken_of_length {token : String} (hmin : 1 ≤ token.length)
    (hmax : token.length ≤ 8192) :
    presentedToken (.obj [("refresh_token", .str token)]) = .ok token := by
  have hproblems : Form.Field.textProblems ⟨"refresh_token", 1, 8192, false⟩ token = [] := by
    rw [Form.Field.textProblems, if_neg (Nat.not_lt.2 hmax), if_neg (Nat.not_lt.2 hmin)]
    rfl
  have hfaults : Form.faults refreshForm [("refresh_token", .str token)] =
      (Form.Field.textProblems ⟨"refresh_token", 1, 8192, false⟩ token).map
        (Prod.mk "refresh_token") ++ [] := rfl
  rw [hproblems] at hfaults
  have hcheck : Form.check refreshForm (.obj [("refresh_token", .str token)]) =
      .ok [("refresh_token", .str token)] := if_pos (by rw [hfaults]; rfl)
  rw [presentedToken, hcheck]
  rfl

lemma presentedToken_renewingBody : presentedToken renewingBody = .ok renewingToken := by
  have hsegments : (Token.Codec.segment Token.sampleIssuer.codec.header).length +
      (Token.Codec.segment (.obj renewingPayload)).length ≤ 8000 := by decide +kernel
  have hlength : renewingToken.length = _ := Token.Codec.length_sign _ renewingPayload
  have hsize : Token.sampleIssuer.codec.algorithm.hash.size = 32 := rfl
  exact presentedToken_of_length (by omega) (by omega)

lemma content_renewingRequest : renewingRequest.content = .ok renewingBody := by
  have hread : Json.Readable renewingBody :=
    ⟨⟨trivial, trivial⟩, Record.ofList_new (by simp [Record.keys]; decide) (by simp [Record.keys])⟩
  exact Api.content_of_text hread rfl rfl

lemma seconds_renewing : renewing.moment.clock.seconds = .ok (.finite 1) := by
  have h : Number.seconds (.finite 1000) = .finite 1 := by decide +kernel
  exact congrArg Except.ok h

lemma decodeRefresh_renewingToken :
    Token.sampleIssuer.codec.decodeRefresh renewing.moment renewingToken =
      .ok ⟨⟨renewingId, .finite 1, .finite 2592001⟩, 7⟩ :=
  Token.Issuer.decodeRefresh_sign
    (Token.regular_sampleSettings.sound Token.make?_sampleSettings) seconds_renewing
    (by norm_num) (by decide) (by decide) ⟨by decide +kernel, by norm_num⟩

def renewingUser : User :=
  ⟨.str renewingId, .undefined, .undefined, .confirmed, .undefined, .undefined, .undefined,
    .undefined⟩

def renewingFound : Database :=
  (Database.stores (.findById renewingId) (renewing.ready renewingScript)).state

lemma renews_renewing : ∃ pair, Session.Renews Database.stores Token.sampleIssuer renewing.moment
    (renewing.ready renewingScript)
    (Database.stores (.rotate 7 (.str renewingId)) renewingFound).state
    ⟨⟨renewingId, .finite 1, .finite 2592001⟩, 7⟩ renewingUser (.ofNat 8) pair :=
  ⟨_, rfl, rfl, rfl, Token.Issuer.createPair_eq_ok
    (Token.regular_sampleSettings.sound Token.make?_sampleSettings) seconds_renewing
    (by norm_num) renewingId (.ofNat 8)⟩

lemma handle_renewing : ∃ response, response.status = 200 ∧
    ((Api.sampleApi.handle renewing.moment (requestId 1) renewingRequest).run Database.stores
      (renewing.ready renewingScript)).result = .ok response := by
  have hw : (Calendar.iso? renewing.moment.wall).isSome = true := by decide +kernel
  obtain ⟨time, htime⟩ := Option.isSome_iff_exists.1 hw
  obtain ⟨pair, hrenews⟩ := renews_renewing
  have hrefresh : ((Api.sampleApi.refresh renewing.moment (requestId 1) renewingRequest).run
      Database.stores (renewing.ready renewingScript)).result = _ :=
    Api.refresh_of_renews content_renewingRequest presentedToken_renewingBody
      decodeRefresh_renewingToken hrenews rfl hw
  rw [Response.success, Response.successBody, htime] at hrefresh
  have hanswer : Api.sampleApi.answer renewing.moment (requestId 1) renewingRequest =
      Api.servePublic renewing.moment (requestId 1)
        (Api.sampleApi.refresh renewing.moment (requestId 1) renewingRequest) := rfl
  refine ⟨⟨200, Response.dataText (requestId 1) time (Api.pairFields pair)⟩, rfl, ?_⟩
  rw [(Api.handle_run _ _ _).1, hanswer, Api.servePublic_result, (Api.settle_of_ok hrefresh).1,
    Log.Entry.stamp, htime]
  rfl

lemma Script.identified_of_outcomes {script : Script}
    (h : ∀ r ∈ script.outcomes, Database.Identified r) : script.Identified := by
  intro k
  rw [Script.reply, List.getD_eq_getElem?_getD]
  cases hr : script.outcomes[k]? with
  | none =>
    rintro _ ⟨⟩ row hrow
    cases hrow
  | some r => exact h r (List.mem_of_getElem? hr)

lemma identified_renewingScript : renewingScript.Identified := by
  have hid (n : ℕ) (h : 0 < n ∧ n ≤ Number.maxSafe) : IsId (.ofNat n) := .inr ⟨n, h.1, h.2, rfl⟩
  have hone (row : Value) (h : IsId (row.field "id")) : Database.Identified (.ok [row]) := by
    rintro _ ⟨⟩ row hrow
    rwa [List.mem_singleton.1 hrow]
  have hnone : Database.Identified (.ok []) := by
    rintro _ ⟨⟩ row hrow
    cases hrow
  apply Script.identified_of_outcomes
  simp only [renewingScript, List.forall_mem_cons]
  exact ⟨hone _ (.inl ⟨_, rfl⟩), hnone, hone _ (hid 7 (by decide)), hone _ (hid 8 (by decide)),
    hnone, nofun⟩

open Database in
theorem tokens_after_commit_once :
    (∃ report response id tokenId userId, ∃ pair : Token.Pair,
      (renewing.run [(renewingScript, .handle renewingRequest)])[0]? = some report ∧
      report.result = .ok (.response response) ∧ response.status = 200 ∧
      (renewing.ready renewingScript).Renewed report.trace id tokenId userId
        (.obj [("id", .ofNat 8)]) ∧
      Token.Shows pair.refresh "token_id" (.ofNat 8)) ∧
    (renewing.step renewingScript (.rotate (.ofNat 7) (.str renewingId))).1.result =
      .ok (.value .null) := by
  obtain ⟨hgiven, hrotates⟩ := tokens_after_commit
  obtain ⟨response, hok, hhandle⟩ := handle_renewing
  have hstep := (step_of_currentApi buildApi_renewing renewingScript renewingRequest).1
  have hreport : (renewing.run [(renewingScript, .handle renewingRequest)])[0]? =
      some (renewing.handled Api.sampleApi renewingScript renewingRequest) :=
    congrArg some hstep
  have hresult : (renewing.handled Api.sampleApi renewingScript renewingRequest).result =
      .ok (.response response) := congrArg (Except.map Answer.response) hhandle
  obtain ⟨id, tokenId, userId, row, pair, time, hrenewed, hshows, -⟩ :=
    hgiven (withSecret "test-secret") (.finite 1000) _ (by simp [withSecret, Environment.Textual])
      (by simp [Step.Sets]) 0 _ _ _ _ rfl
      ⟨rfl, rfl⟩ identified_renewingScript hreport hresult hok
  obtain ⟨rows, hissued⟩ := hrenewed.issued
  obtain rfl : .obj [("id", .ofNat 8)] = row := (List.cons.inj (Except.ok.inj hissued)).1
  refine ⟨⟨_, response, id, tokenId, userId, pair, hreport, hresult, hok, hrenewed, hshows⟩, ?_⟩
  exact (hrotates renewing renewingScript _ _ identified_renewingScript).refused.2
    ⟨⟨.inr ⟨_, load_withSecret _⟩, rfl⟩, ⟨_, rfl⟩, rfl, _, rfl⟩

end Deployment

end AuthGate
