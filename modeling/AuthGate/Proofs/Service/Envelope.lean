import AuthGate.Proofs.Service.Terms

namespace AuthGate

open Program

namespace Response

def errorStatuses : List ℕ := [400, 401, 403, 404, 500, 503]

def dataText (requestId time : String) (data : Record) : String :=
  Json.text (.obj [("request_id", .str requestId), ("timestamp", .str time), ("data", .obj data)])

def errorText (requestId : String) (code : ErrorCode) (message : String) (details : Value) :
    String :=
  Json.text (.obj [("error", .obj [("code", .str code.label), ("message", .str message),
    ("request_id", .str requestId), ("details", details)])])

inductive Enveloped (requestId : String) : Response → Prop
  | data (time : String) (data : Record) : Enveloped requestId ⟨200, dataText requestId time data⟩
  | error {status : ℕ} (h : status ∈ errorStatuses) (code : ErrorCode) (message : String)
      (details : Value) : Enveloped requestId ⟨status, errorText requestId code message details⟩

variable {requestId : String} {m : Moment}

lemma enveloped_error {status : ℕ} (h : status ∈ errorStatuses) (code : ErrorCode)
    (message : String) (details : Value) :
    (error status code (.str requestId) message details).Enveloped requestId :=
  .error h code message _

lemma enveloped_notFound (message : String) :
    (notFound (.str requestId) message).Enveloped requestId :=
  enveloped_error (by decide) _ _ _

lemma enveloped_unavailable (message : String) :
    (unavailable (.str requestId) message).Enveloped requestId :=
  enveloped_error (by decide) _ _ _

lemma Enveloped.status_le {response : Response} (h : response.Enveloped requestId) :
    response.status ≤ 503 := by
  cases h with
  | data => simp
  | @error status h =>
    change status ≤ 503
    simp only [errorStatuses, List.mem_cons, List.not_mem_nil, or_false] at h
    omega

lemma success_cases (m : Moment) (requestId : String) (data : Record) :
    success m (.str requestId) (.obj data) = .error (.rangeError "Invalid time value") ∨
      ∃ time, success m (.str requestId) (.obj data) =
        .ok ⟨200, dataText requestId time data⟩ := by
  rw [success, successBody]
  cases Calendar.iso? m.wall with
  | none => exact .inl rfl
  | some time => exact .inr ⟨time, rfl⟩

end Response

variable {m : Moment} {requestId time : String}

namespace Failure

variable {f : Failure}

lemma yields_internal (ht : Log.Entry.stamp m.wall = .ok time) (f : Failure) :
    (internal m (.str requestId) requestId f).Yields (Response.Enveloped requestId) := by
  obtain ⟨line, hline, -⟩ := Log.Entry.write_unhandled ht requestId f
  rw [internal, bind_eq, log, hline]
  refine .write trivial (yields_return ?_)
  rw [idOr_str]
  exact Response.enveloped_error (by decide) _ _ _

lemma yields_respondOther (ht : Log.Entry.stamp m.wall = .ok time) (f : Failure) :
    (respondOther m (.str requestId) requestId f).Yields (Response.Enveloped requestId) := by
  rw [respondOther]
  split_ifs
  · refine yields_return ?_
    rw [idOr_str]
    exact Response.enveloped_unavailable _
  · exact yields_internal ht f

lemma yields_respond (ht : Log.Entry.stamp m.wall = .ok time) (hf : f.IsPlain) :
    (respond m (.str requestId) requestId f).Yields (Response.Enveloped requestId) := by
  obtain ⟨g, hg, -, hbare⟩ := asError_of_plain hf
  rw [respond, hg, bind_eq, bind_ok]
  cases g with
  | bare v => exact absurd rfl (hbare v)
  | wrongKind | other => exact yields_respondOther ht _
  | _ =>
    refine yields_return ?_
    rw [idOr_str]
    exact Response.enveloped_error (by decide) _ _ _

end Failure

lemma Endpoint.tame_ofRequest (r : Request) : Tame (ofRequest r) := by
  unfold ofRequest
  split
  · split_ifs
    · exact r.path.tame_text.map _
    · exact tame_ok _
  · exact tame_ok _

namespace Api

variable {api : Api} {r : Request} {n : Number}

lemma gives_succeed (data : Record) :
    (succeed m requestId data).Gives (Response.Enveloped requestId) := by
  rw [succeed]
  obtain h | ⟨time, h⟩ := Response.success_cases m requestId data
  · rw [h]
    exact gives_raise trivial
  · rw [h]
    exact gives_return (.data time data)

lemma gives_health : (health m requestId).Gives (Response.Enveloped requestId) := by
  refine (sound_ask .checkHealth).bind fun healthy => ?_
  split_ifs
  · exact gives_succeed _
  · exact gives_return (Response.enveloped_unavailable _)

lemma gives_login (hm : m.clock = .reads n) :
    (login api m requestId r).Gives (Response.Enveloped requestId) :=
  (sound_done r.tame_content).bind fun body => (sound_done (Login.tame_ofBody body)).bind fun _ =>
    (Session.sound_login hm _ _).bind fun _ => gives_succeed _

lemma gives_refresh (hm : m.clock = .reads n) :
    (refresh api m requestId r).Gives (Response.Enveloped requestId) :=
  (sound_done r.tame_content).bind fun body => (sound_done (tame_presentedToken body)).bind fun _ =>
    (Session.sound_refresh hm _).bind fun _ => gives_succeed _

lemma gives_logout : (logout api m requestId r).Gives (Response.Enveloped requestId) :=
  (sound_done r.tame_content).bind fun body => (sound_done (tame_presentedToken body)).bind fun _ =>
    (Session.sound_logout _).bind fun _ => gives_succeed _

lemma gives_me (p : Principal) : (me m requestId p).Gives (Response.Enveloped requestId) :=
  Authorization.sound_describe.bind fun _ => gives_succeed _

lemma gives_permissionsOf (userId : String) (p : Principal) :
    (permissionsOf m requestId userId p).Gives (Response.Enveloped requestId) := by
  refine (Authorization.sound_requirePermission _).bind fun _ => (sound_ask (.findById userId)).bind
    fun found => ?_
  cases found with
  | none => exact gives_raise trivial
  | some u => exact Authorization.sound_describe.bind fun _ => gives_succeed _

lemma gives_authenticate (api : Api) (m : Moment) (requestId : String) (r : Request) :
    (authenticate api m requestId r).Gives fun p => ∃ id, p.id = .str id := by
  refine Authentication.gives_check.bind fun a ha => ?_
  cases a with
  | anonymous => exact gives_raise trivial
  | authenticated credentials p => exact gives_return (ha.1 credentials p rfl)
  | rejected f => exact gives_raise (ha.2 f rfl)

lemma yields_settle (ht : Log.Entry.stamp m.wall = .ok time) {endpoint : Program Response}
    (h : endpoint.Gives (Response.Enveloped requestId)) :
    (settle m requestId endpoint).Yields (Response.Enveloped requestId) := by
  refine h.attempt.bind fun result hresult => ?_
  cases result with
  | ok response => exact yields_return (hresult.2 response rfl)
  | error f => exact Failure.yields_respond ht (hresult.1 f rfl)

lemma yields_servePublic (ht : Log.Entry.stamp m.wall = .ok time) {endpoint : Program Response}
    (h : endpoint.Gives (Response.Enveloped requestId)) :
    (servePublic m requestId endpoint).Yields fun p => p.2.Enveloped requestId :=
  (yields_settle ht h).bind fun _ hresponse => yields_return hresponse

lemma yields_serve (ht : Log.Entry.stamp m.wall = .ok time)
    {endpoint : Principal → Program Response}
    (h : ∀ p, (endpoint p).Gives (Response.Enveloped requestId)) :
    (serve m requestId (authenticate api m requestId r) endpoint).Yields
      fun p => p.2.Enveloped requestId := by
  refine (gives_authenticate api m requestId r).attempt.bind fun result hresult => ?_
  cases result with
  | ok p => exact (yields_settle ht (h p)).bind fun _ hresponse => yields_return hresponse
  | error f =>
    exact (Failure.yields_respond ht (hresult.1 f rfl)).bind fun _ hresponse =>
      yields_return hresponse

lemma yields_answer (api : Api) (requestId : String) (r : Request)
    (ht : Log.Entry.stamp m.wall = .ok time) (hm : m.clock = .reads n) :
    (api.answer m requestId r).Yields fun p => p.2.Enveloped requestId := by
  rw [answer]
  cases he : Endpoint.ofRequest r with
  | error f =>
    exact yields_servePublic ht (gives_raise (Endpoint.tame_ofRequest r f he))
  | ok found =>
    cases found with
    | none => exact yields_return (Response.enveloped_notFound _)
    | some e =>
      cases e with
      | health => exact yields_servePublic ht gives_health
      | login => exact yields_servePublic ht (gives_login hm)
      | refresh => exact yields_servePublic ht (gives_refresh hm)
      | logout => exact yields_servePublic ht gives_logout
      | me => exact yields_serve ht gives_me
      | permissionsOf userId => exact yields_serve ht (gives_permissionsOf userId)

end Api

end AuthGate
