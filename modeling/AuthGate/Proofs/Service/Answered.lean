import AuthGate.Proofs.Service.Asides
import AuthGate.Proofs.Service.Envelope
import AuthGate.Proofs.Service.Gate

namespace AuthGate

open Program

namespace Endpoint

inductive Serves : String → String → Endpoint → Prop
  | health : Serves "GET" "/" health
  | login : Serves "POST" "/tokens" login
  | refresh : Serves "PUT" "/tokens" refresh
  | logout : Serves "DELETE" "/tokens" logout
  | me : Serves "GET" mePath me
  | permissionsOf {userId : String} : IsSegment userId →
      Serves "GET" (permissionsPath userId) (permissionsOf userId)

lemma userSegment?_eq_some {path x : String} :
    userSegment? path.toList = some x ↔ IsSegment x ∧ path = permissionsPath x := by
  constructor
  · intro h
    rw [userSegment?] at h
    split at h
    · rename_i users id permissions hcut
      split_ifs at h with hparts
      obtain ⟨rfl, rfl, hid⟩ := hparts
      obtain rfl := Option.some.inj h
      obtain ⟨-, ⟨h, -⟩ | ⟨r₁, hpath, hcut₁⟩⟩ := Text.splitAt_head hcut
      · cases h
      obtain ⟨-, ⟨h, -⟩ | ⟨r₂, hr₁, hcut₂⟩⟩ := Text.splitAt_head hcut₁
      · cases h
      obtain ⟨hslash, ⟨h, -⟩ | ⟨r₃, hr₂, hcut₃⟩⟩ := Text.splitAt_head hcut₂
      · cases h
      obtain ⟨-, ⟨-, hr₃⟩ | ⟨r₄, -, hcut₄⟩⟩ := Text.splitAt_head hcut₃
      · refine ⟨⟨by simpa using hid, by simpa using hslash⟩, ?_⟩
        rw [← String.toList_inj, hpath, hr₁, hr₂, hr₃]
        simp [permissionsPath]
      · exact absurd hcut₄ (Text.splitAt_ne_nil _ _)
    · cases h
  · rintro ⟨hx, rfl⟩
    exact userSegment?_permissionsPath hx

lemma find?_eq_some {method path : String} {e : Endpoint} :
    find? method path = some e ↔ Serves method path e := by
  constructor
  · intro h
    rw [find?] at h
    split_ifs at h with hhealth hlogin hrefresh hlogout hme hget
    · obtain ⟨rfl, rfl⟩ := hhealth
      obtain rfl := Option.some.inj h
      exact .health
    · obtain ⟨rfl, rfl⟩ := hlogin
      obtain rfl := Option.some.inj h
      exact .login
    · obtain ⟨rfl, rfl⟩ := hrefresh
      obtain rfl := Option.some.inj h
      exact .refresh
    · obtain ⟨rfl, rfl⟩ := hlogout
      obtain rfl := Option.some.inj h
      exact .logout
    · obtain ⟨rfl, rfl⟩ := hme
      obtain rfl := Option.some.inj h
      exact .me
    · obtain ⟨x, hx, rfl⟩ := Option.map_eq_some_iff.1 h
      obtain ⟨hsegment, rfl⟩ := userSegment?_eq_some.1 hx
      rw [hget]
      exact .permissionsOf hsegment
  · intro h
    cases h with
    | permissionsOf hx =>
      have h := ofRequest_permissions hx (r := ⟨.null, .str "GET", .str _, .null, false⟩) ⟨rfl, rfl⟩
      exact Except.ok.inj h
    | _ => rfl

lemma ofRequest_eq {r : Request} {method path : String} (hm : r.method = .str method)
    (hp : r.path = .str path) :
    ∃ found, ofRequest r = .ok found ∧ ∀ e, found = some e ↔ Serves method path e := by
  rw [ofRequest, hm, hp]
  dsimp only
  split_ifs with hmethod
  · exact ⟨_, rfl, fun e => find?_eq_some⟩
  · refine ⟨none, rfl, fun e => ⟨fun h => (by cases h), fun h => ?_⟩⟩
    cases h <;> exact absurd (by decide) hmethod

end Endpoint

namespace Api

variable {σ : Type} {stores : Stores σ} {s : σ} {api : Api} {m : Moment} {requestId : String}
  {r : Request} {method path time : String} {n : Number}

def Authenticates (api : Api) (m : Moment) (requestId : String) (stores : Stores σ) (s : σ)
    (r : Request) (method path : String) (p : Principal) : Prop :=
  (∃ e, Endpoint.Serves method path e ∧ e.NeedsCaller) ∧
    ∃ credentials, ((Authentication.check api.tokens api.schemePrefix m (.str requestId)
      r.headers).run stores s).result = .ok (.authenticated credentials p)

lemma authenticate_eq_ok {p : Principal} :
    ((api.authenticate m requestId r).run stores s).result = .ok p ↔ ∃ credentials,
      ((Authentication.check api.tokens api.schemePrefix m (.str requestId) r.headers).run
        stores s).result = .ok (.authenticated credentials p) := by
  rw [authenticate, bind_eq, result_bind_eq_ok]
  constructor
  · rintro ⟨a, ha, hp⟩
    obtain ⟨credentials, rfl⟩ := Authentication.principal_eq_ok hp
    exact ⟨credentials, ha⟩
  · rintro ⟨credentials, ha⟩
    exact ⟨_, ha, rfl⟩

lemma serve_userId {principal : Program Principal} {endpoint : Principal → Program Response}
    {userId : Value} {response : Response}
    (h : ((serve m requestId principal endpoint).run stores s).result = .ok (userId, response)) :
    (∃ p, (principal.run stores s).result = .ok p ∧ userId = p.id) ∨
      (∀ p, (principal.run stores s).result ≠ .ok p) ∧ userId = .undefined := by
  cases hp : (principal.run stores s).result with
  | ok p =>
    rw [(serve_of_ok hp).1] at h
    obtain ⟨response', -, h⟩ := Except.map_eq_ok.1 h
    exact .inl ⟨p, rfl, (Prod.mk.inj h).1.symm⟩
  | error f =>
    rw [(serve_of_error hp s).1] at h
    obtain ⟨response', -, h⟩ := Except.map_eq_ok.1 h
    exact .inr ⟨by simp, (Prod.mk.inj h).1.symm⟩

lemma answer_userId (hm : r.method = .str method) (hp : r.path = .str path) {userId : Value}
    {response : Response}
    (h : ((api.answer m requestId r).run stores s).result = .ok (userId, response)) :
    (∃ p, api.Authenticates m requestId stores s r method path p ∧ userId = p.id) ∨
      (∀ p, ¬ api.Authenticates m requestId stores s r method path p) ∧ userId = .undefined := by
  obtain ⟨found, hfound, hserves⟩ := Endpoint.ofRequest_eq hm hp
  -- Only routes that need a caller look at the header at all.
  by_cases hcaller : ∃ e, Endpoint.Serves method path e ∧ e.NeedsCaller
  · obtain ⟨e, he, hneeds⟩ := hcaller
    obtain rfl := (hserves e).2 he
    obtain ⟨endpoint, hanswer⟩ := answer_eq_serve api m requestId hfound hneeds
    rw [hanswer] at h
    obtain ⟨p, hp, hid⟩ | ⟨hno, hid⟩ := serve_userId h
    · exact .inl ⟨p, ⟨⟨e, he, hneeds⟩, authenticate_eq_ok.1 hp⟩, hid⟩
    · exact .inr ⟨fun p hp => hno p (authenticate_eq_ok.2 hp.2), hid⟩
  · refine .inr ⟨fun p hp => hcaller hp.1, ?_⟩
    cases found with
    | none =>
      rw [answer, hfound] at h
      exact (Prod.mk.inj (Except.ok.inj h)).1.symm
    | some e =>
      have hneeds : ¬ e.NeedsCaller := fun hneeds => hcaller ⟨e, (hserves e).1 rfl, hneeds⟩
      obtain ⟨endpoint, hanswer⟩ := answer_eq_servePublic api m requestId hfound hneeds
      rw [hanswer, servePublic_result] at h
      obtain ⟨response', -, h⟩ := Except.map_eq_ok.1 h
      exact (Prod.mk.inj h).1.symm

lemma answer_named (hstores : stores.Orderly) (hm : r.method = .str method)
    (hp : r.path = .str path) {userId : Value} {response : Response}
    (h : ((api.answer m requestId r).run stores s).result = .ok (userId, response)) :
    ∃ named : Option String, userId = (named.map .str).getD .undefined ∧
      ((∃ p id, api.Authenticates m requestId stores s r method path p ∧ p.id = .str id ∧
          named = some id) ∨
        (∀ p, ¬ api.Authenticates m requestId stores s r method path p) ∧ named = none) := by
  obtain ⟨p, hcaller, rfl⟩ | ⟨hno, rfl⟩ := answer_userId hm hp h
  · have hnamed := (gives_authenticate api m requestId r).run hstores.answers (by simp) s
    obtain ⟨id, hid⟩ := hnamed.1.2 p (authenticate_eq_ok.2 hcaller.2)
    exact ⟨some id, hid, .inl ⟨p, id, hcaller, hid, rfl⟩⟩
  · exact ⟨none, rfl, .inr ⟨hno, rfl⟩⟩

lemma sub_self_of_instant {wall : Number} (hw : (Calendar.iso? wall).isSome = true) :
    wall.sub wall = .zero := by
  cases wall with
  | nan | infinite => cases hw
  | negZero => rfl
  | finite q =>
    rw [Number.sub]
    split_ifs with hq
    · rw [hq]
      rfl
    · rw [Number.add, Rat.add_neg_cancel]
      rfl

lemma log_request (requestId : String) (userId : Option String) (method path : String)
    (hw : (Calendar.iso? m.wall).isSome = true) {status : ℕ} (hs : status ≤ 503) :
    ∃ line, log m (.request (.str requestId) ((userId.map .str).getD .undefined) (.str method)
        (.str path) (.ofNat status) (.num (m.wall.sub m.wall))) = write line (done (.ok ())) ∧
      line.IsOf "API_REQUEST" ∧
      line.Tells requestId userId method path status ∧ (line.stream = .err ↔ 500 ≤ status) := by
  obtain ⟨time, ht⟩ := Log.Entry.exists_stamp hw
  obtain ⟨line, hline, htells, hstream⟩ := Log.Entry.write_request requestId userId method path
    ht (hs.trans (by norm_num))
  rw [sub_self_of_instant hw]
  exact ⟨line, log_eq hline, Log.Entry.isOf_of_write rfl hline, htells, hstream⟩

lemma quiet_handle_unserved (hw : (Calendar.iso? m.wall).isSome = true)
    (hm : r.method = .str method) (hp : r.path = .str path)
    (hno : ∀ e, ¬ Endpoint.Serves method path e) : (api.handle m requestId r).Quiet
      (· = .ok (.notFound (.str requestId) "Route not found")) := by
  obtain ⟨found, hfound, hserves⟩ := Endpoint.ofRequest_eq hm hp
  have hnone : found = none := by
    cases found with
    | none => rfl
    | some e => exact absurd ((hserves e).1 rfl) (hno e)
  obtain ⟨line, hlog, -⟩ := log_request requestId none method path hw (show 404 ≤ 503 by norm_num)
  rw [handle, answer, hfound, hnone, hm, hp]
  change ((log m (.request (.str requestId) .undefined (.str method) (.str path) (.ofNat 404)
    (.num (m.wall.sub m.wall)))).bind fun _ => done _).Quiet _
  have hlog : log m (.request (.str requestId) .undefined (.str method) (.str path) (.ofNat 404)
    (.num (m.wall.sub m.wall))) = write line (done (.ok ())) := hlog
  rw [hlog]
  exact .write (.done rfl)

theorem always_answers (hstores : stores.Orderly) (hclock : m.clock = .reads n)
    (hwall : (Calendar.iso? m.wall).isSome = true) (hmethod : r.method = .str method)
    (hpath : r.path = .str path) (api : Api) (requestId : String) (s : σ) :
    (∃ response before line userId,
      ((api.handle m requestId r).run stores s).result = .ok response ∧
      response.Enveloped requestId ∧
      ((api.handle m requestId r).run stores s).lines = before ++ [line] ∧
      (∀ l ∈ before, ¬ l.IsOf "API_REQUEST") ∧ line.IsOf "API_REQUEST" ∧
      line.Tells requestId userId method path response.status ∧
      (line.stream = .err ↔ 500 ≤ response.status) ∧
      ((∃ p id, api.Authenticates m requestId stores s r method path p ∧ p.id = .str id ∧
          userId = some id) ∨
        (∀ p, ¬ api.Authenticates m requestId stores s r method path p) ∧ userId = none)) ∧
    ((∀ e, ¬ Endpoint.Serves method path e) → (api.handle m requestId r).Quiet
      (· = .ok (.notFound (.str requestId) "Route not found"))) := by
  obtain ⟨time, ht⟩ := Option.isSome_iff_exists.1 hwall
  have hstamp : Log.Entry.stamp m.wall = .ok time := by rw [Log.Entry.stamp, ht]
  refine ⟨?_, fun hno => ?_⟩
  · -- The status is known to be small before the last line is written, and so the line can be.
    obtain ⟨⟨⟨userId, response⟩, hresult, henveloped⟩, -⟩ :=
      (yields_answer api requestId r hstamp hclock).run hstores.answers (by simp) s
    have haside := (notes_answer api m requestId r).lines
      (fun _ _ _ he hl => he.not_isOf_request hl) hstores.lines s
    obtain ⟨named, rfl, hcaller⟩ := answer_named hstores hmethod hpath hresult
    obtain ⟨line, hlog, hkind, htells, hstream⟩ := log_request requestId named method path hwall
      henveloped.status_le
    have hrun : (api.handle m requestId r).run stores s = ⟨.ok response,
        ((api.answer m requestId r).run stores s).lines ++ [line],
        ((api.answer m requestId r).run stores s).state⟩ := by
      rw [handle, bind_eq, run_bind_ok hresult]
      simp only [hmethod, hpath, bind_eq, hlog]
      rfl
    rw [hrun]
    exact ⟨response, _, line, named, rfl, henveloped, rfl, haside, hkind, htells, hstream, hcaller⟩
  · exact quiet_handle_unserved hwall hmethod hpath hno

end Api

namespace Memory

def failing (fails : Call → Memory → Option Failure) : Stores Memory := fun c s =>
  match fails c s with
  | some f => ⟨.error f, [], { s with journal := c :: s.journal }⟩
  | none => stores c s

lemma tame_groupsOf (g : Grants) (id : Value) : Tame (g.groupsOf id) := by
  refine id.tame_text.bind fun key => ?_
  split
  · exact tame_ok _
  · split_ifs
    · exact tame_ok _
    · exact tame_error trivial

lemma answers_perform (c : Call) (s : Memory) : c.Answers (perform c s).1 := by
  cases c with
  | findByEmail email =>
    change Tame (s.userByEmail email)
    rw [userByEmail]
    split_ifs
    · exact tame_ok _
    · exact ((email.tame_textFor _ _).map _).map _
  | findById id =>
    refine ⟨tame_ok _, fun u hu => ?_⟩
    have hfound := List.find?_some (Except.ok.inj hu)
    exact ⟨id, Value.same_str.1 hfound⟩
  | rotate tokenId userId =>
    change Tame (perform (.rotate tokenId userId) s).1
    rw [perform]
    split_ifs
    · exact tame_ok _
    · exact tame_ok _
  | revoke tokenId userId =>
    change Tame (perform (.revoke tokenId userId) s).1
    rw [perform]
    split_ifs
    · exact tame_ok _
    · exact tame_ok _
  | findGroupsFor userId => exact tame_groupsOf _ _
  | findRolesFor groupId => exact groupId.tame_text.map _
  | findPermissionsFor roleId => exact roleId.tame_text.map _
  | issue | revokeAllFor | checkHealth => exact tame_ok _

lemma answers_error (c : Call) {f : Failure} (hf : f.IsPlain) :
    c.Answers (.error f) := by
  cases c with
  | findById id => exact ⟨tame_error hf, fun u hu => (by cases hu)⟩
  | _ => exact tame_error hf

lemma answers_stores (c : Call) (s : Memory) : c.Answers (stores c s).result := by
  obtain ⟨name, text, h, -⟩ | ⟨h, -⟩ := stores_cases c s
  · rw [h]
    exact answers_error c trivial
  · rw [h]
    exact answers_perform c s

lemma orderly_failing {fails : Call → Memory → Option Failure}
    (h : ∀ c s f, fails c s = some f → f.IsPlain) : (failing fails).Orderly where
  answers c s := by
    rw [failing]
    cases hf : fails c s with
    | some f => exact answers_error c (h c s f hf)
    | none => exact answers_stores c s
  lines c s l hl := by
    rw [failing] at hl
    cases hf : fails c s with
    | some f =>
      rw [hf] at hl
      cases hl
    | none =>
      rw [hf, stores_lines] at hl
      cases hl

end Memory

namespace Api

/-- The groups of nobody can be looked up, and what is raised instead is no error. -/
def groupless : Call → Memory → Option Failure
  | .findGroupsFor _, _ => some (.bare .undefined)
  | _, _ => none

lemma plain_groupless (c : Call) (s : Memory) (f : Failure) (h : groupless c s = some f) :
    f.IsPlain := by
  cases c with
  | findGroupsFor =>
    obtain rfl := Option.some.inj h
    rfl
  | _ => cases h

def strayRequest : Request := ⟨.null, .str "DELETE", .str "/users/me", .null, false⟩

theorem always_answers_groupless :
    (∃ response before line userId,
      ((sampleApi.handle Token.sampleMoment "request-1" (sampleRequest Endpoint.mePath)).run
        (Memory.failing groupless) readerMemory).result = .ok response ∧
      response.Enveloped "request-1" ∧
      ((sampleApi.handle Token.sampleMoment "request-1" (sampleRequest Endpoint.mePath)).run
        (Memory.failing groupless) readerMemory).lines = before ++ [line] ∧
      line.Tells "request-1" userId "GET" "/users/me" response.status) ∧
    (sampleApi.handle Token.sampleMoment "request-1" strayRequest).Quiet
      (· = .ok (.notFound (.str "request-1") "Route not found")) := by
  have horderly := Memory.orderly_failing plain_groupless
  have hno (e : Endpoint) : ¬ Endpoint.Serves "DELETE" "/users/me" e := by
    have hnone : Endpoint.find? "DELETE" "/users/me" = none := rfl
    rw [← Endpoint.find?_eq_some, hnone]
    simp
  obtain ⟨⟨response, before, line, userId, hresult, henveloped, hlines, -, -, htells, -⟩, -⟩ :=
    always_answers horderly (r := sampleRequest Endpoint.mePath) rfl Token.sampleMoment_wall rfl rfl
      sampleApi "request-1" readerMemory
  obtain ⟨-, hquiet⟩ := always_answers horderly (r := strayRequest) rfl Token.sampleMoment_wall
    rfl rfl sampleApi "request-1" readerMemory
  exact ⟨⟨response, before, line, userId, hresult, henveloped, hlines, htells⟩, hquiet hno⟩

end Api

end AuthGate
