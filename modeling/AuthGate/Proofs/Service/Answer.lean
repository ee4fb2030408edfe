import AuthGate.Proofs.Except
import AuthGate.Proofs.Program
import AuthGate.Service.Api

namespace AuthGate

open Program

def Unsuccessful (r : Except Failure Response) : Prop :=
  ∀ response, r = .ok response → response.status ≠ 200

lemma forall_success_error {α : Type} {P : α → Prop} (f : Failure) :
    ∀ a, (.error f : Except Failure α) = .ok a → P a := by
  intro a h
  cases h

lemma forall_success_ok {α : Type} {P : α → Prop} {a : α} (h : P a) :
    ∀ b, (.ok a : Except Failure α) = .ok b → P b := by
  intro b hb
  obtain rfl := Except.ok.inj hb
  exact h

lemma idOr_str (id : String) : idOr id (.str id) = .str id := by
  rw [idOr]
  split_ifs
  · rfl
  · rfl

def Endpoint.NeedsCaller : Endpoint → Prop
  | me | permissionsOf _ => True
  | health | login | refresh | logout => False

namespace Failure

variable {m : Moment} {requestId : Value} {fresh : String}

lemma quiet_internal (f : Failure) : (internal m requestId fresh f).Quiet Unsuccessful :=
  (quiet_log m _).bind (fun _ _ => .done (forall_success_ok (by simp [Response.error])))
    fun e _ => forall_success_error e

lemma quiet_respondOther (f : Failure) : (respondOther m requestId fresh f).Quiet Unsuccessful := by
  rw [respondOther]
  split_ifs
  · exact .done (forall_success_ok (by simp [Response.unavailable, Response.plain, Response.error]))
  · exact quiet_internal f

lemma quiet_respondError (f : Failure) : (respondError m requestId fresh f).Quiet Unsuccessful := by
  cases f
  -- All but these have an answer of their own, none of them a success.
  case wrongKind | other | bare => exact quiet_respondOther _
  all_goals
    exact .done (forall_success_ok (by simp [Response.notFound, Response.plain, Response.error]))

lemma quiet_respond (m : Moment) (requestId : Value) (fresh : String) (f : Failure) :
    (respond m requestId fresh f).Quiet Unsuccessful := by
  rw [respond]
  cases f.asError with
  | error e => exact .done (forall_success_error e)
  | ok f => exact quiet_respondError f

end Failure

namespace Api

variable {σ : Type} {stores : Stores σ} {m : Moment} {requestId : String} {s : σ}

lemma settle_of_ok {p : Program Response} {response : Response}
    (h : (p.run stores s).result = .ok response) :
    ((settle m requestId p).run stores s).result = .ok response ∧
      ((settle m requestId p).run stores s).state = (p.run stores s).state := by
  rw [settle, bind_eq, run_bind_ok (by rw [run_attempt]), h, run_attempt]
  exact ⟨rfl, rfl⟩

lemma settle_of_error (m : Moment) (requestId : String) {p : Program Response} {f : Failure}
    (h : (p.run stores s).result = .error f) (s' : σ) :
    ((settle m requestId p).run stores s).result =
        ((Failure.respond m (.str requestId) requestId f).run stores s').result ∧
      ((settle m requestId p).run stores s).state = (p.run stores s).state := by
  have hq := Failure.quiet_respond m (.str requestId) requestId f
  rw [settle, bind_eq, run_bind_ok (by rw [run_attempt]), h, run_attempt]
  exact ⟨hq.result_eq stores _ s', hq.state _⟩

lemma settle_state (m : Moment) (requestId : String) (p : Program Response) (s : σ) :
    ((settle m requestId p).run stores s).state = (p.run stores s).state := by
  cases h : (p.run stores s).result with
  | ok response => exact (settle_of_ok h).2
  | error f => exact (settle_of_error m requestId h s).2

lemma settle_success {p : Program Response} {response : Response}
    (h : ((settle m requestId p).run stores s).result = .ok response)
    (hok : response.status = 200) : (p.run stores s).result = .ok response := by
  cases hp : (p.run stores s).result with
  | ok response' => rw [← (settle_of_ok hp).1, h]
  | error f =>
    rw [(settle_of_error m requestId hp s).1] at h
    exact absurd hok ((Failure.quiet_respond m _ _ f).result s response h)

lemma servePublic_result (p : Program Response) (s : σ) :
    ((servePublic m requestId p).run stores s).result =
      ((settle m requestId p).run stores s).result.map (Prod.mk .undefined) := by
  rw [servePublic, bind_eq, run_bind]
  cases ((settle m requestId p).run stores s).result with
  | ok response => rfl
  | error f => rfl

section

variable {principal : Program Principal} {endpoint : Principal → Program Response}

lemma serve_of_error {f : Failure} (h : (principal.run stores s).result = .error f) (s' : σ) :
    ((serve m requestId principal endpoint).run stores s).result =
        ((Failure.respond m (.str requestId) requestId f).run stores s').result.map
          (Prod.mk .undefined) ∧
      ((serve m requestId principal endpoint).run stores s).state =
        (principal.run stores s).state := by
  have hq := Failure.quiet_respond m (.str requestId) requestId f
  rw [serve, bind_eq, run_bind_ok (by rw [run_attempt]), h, run_attempt]
  simp only [bind_eq, run_bind]
  rw [hq.result_eq stores _ s', hq.state]
  cases ((Failure.respond m (.str requestId) requestId f).run stores s').result with
  | ok response => exact ⟨rfl, rfl⟩
  | error f => exact ⟨rfl, rfl⟩

lemma serve_of_ok {p : Principal} (h : (principal.run stores s).result = .ok p) :
    ((serve m requestId principal endpoint).run stores s).result =
        ((settle m requestId (endpoint p)).run stores (principal.run stores s).state).result.map
          (Prod.mk p.id) ∧
      ((serve m requestId principal endpoint).run stores s).state =
        ((endpoint p).run stores (principal.run stores s).state).state := by
  rw [serve, bind_eq, run_bind_ok (by rw [run_attempt]), h, run_attempt]
  simp only [bind_eq, run_bind]
  rw [← settle_state m requestId (endpoint p)]
  cases ((settle m requestId (endpoint p)).run stores (principal.run stores s).state).result with
  | ok response => exact ⟨rfl, rfl⟩
  | error f => exact ⟨rfl, rfl⟩

lemma serve_success {userId : Value} {response : Response}
    (h : ((serve m requestId principal endpoint).run stores s).result = .ok (userId, response))
    (hok : response.status = 200) : ∃ p, (principal.run stores s).result = .ok p ∧
      ((endpoint p).run stores (principal.run stores s).state).result = .ok response := by
  cases hp : (principal.run stores s).result with
  | error f =>
    rw [(serve_of_error hp s).1] at h
    obtain ⟨response', hr, h⟩ := Except.map_eq_ok.1 h
    obtain ⟨-, rfl⟩ := Prod.mk.inj h
    exact absurd hok ((Failure.quiet_respond m _ _ f).result s _ hr)
  | ok p =>
    rw [(serve_of_ok hp).1] at h
    obtain ⟨response', hr, h⟩ := Except.map_eq_ok.1 h
    obtain ⟨-, rfl⟩ := Prod.mk.inj h
    exact ⟨p, rfl, settle_success hr hok⟩

end

variable {api : Api} {r r' : Request}

lemma answer_eq_serve (api : Api) (m : Moment) (requestId : String) {e : Endpoint}
    (he : Endpoint.ofRequest r = .ok (some e)) (hcaller : e.NeedsCaller) :
    ∃ endpoint, api.answer m requestId r =
      serve m requestId (api.authenticate m requestId r) endpoint := by
  cases e with
  | me => exact ⟨_, by rw [answer, he]⟩
  | permissionsOf x => exact ⟨_, by rw [answer, he]⟩
  | _ => exact hcaller.elim

lemma answer_eq_servePublic (api : Api) (m : Moment) (requestId : String) {e : Endpoint}
    (he : Endpoint.ofRequest r = .ok (some e)) (hcaller : ¬ e.NeedsCaller) :
    ∃ endpoint, api.answer m requestId r = servePublic m requestId endpoint := by
  cases e with
  | me | permissionsOf => exact absurd trivial hcaller
  | _ => exact ⟨_, by rw [answer, he]⟩

lemma handle_run (api : Api) (r : Request) (s : σ) :
    ((api.handle m requestId r).run stores s).result =
        (((api.answer m requestId r).run stores s).result.bind fun p =>
          (Log.Entry.stamp m.wall).map fun _ => p.2) ∧
      ((api.handle m requestId r).run stores s).state =
        ((api.answer m requestId r).run stores s).state := by
  rw [handle, bind_eq, run_bind]
  cases ((api.answer m requestId r).run stores s).result with
  | error f => exact ⟨rfl, rfl⟩
  | ok p =>
    simp only [bind_eq, log, Log.Entry.write, Except.bind]
    cases Log.Entry.stamp m.wall with
    | ok time => exact ⟨rfl, rfl⟩
    | error f => exact ⟨rfl, rfl⟩

lemma handle_success {response : Response}
    (h : ((api.handle m requestId r).run stores s).result = .ok response) :
    ∃ userId, ((api.answer m requestId r).run stores s).result = .ok (userId, response) := by
  rw [(handle_run api r s).1] at h
  obtain ⟨⟨userId, response'⟩, hr, h⟩ := Except.bind_eq_ok.1 h
  obtain ⟨-, -, rfl⟩ := Except.map_eq_ok.1 h
  exact ⟨userId, hr⟩

lemma handle_congr {s' : σ} (h : ((api.answer m requestId r).run stores s).result =
    ((api.answer m requestId r').run stores s').result) :
    ((api.handle m requestId r).run stores s).result =
      ((api.handle m requestId r').run stores s').result := by
  rw [(handle_run api r s).1, (handle_run api r' s').1, h]

end Api

end AuthGate
