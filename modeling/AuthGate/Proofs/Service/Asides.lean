import AuthGate.Proofs.Log.Masked
import AuthGate.Proofs.Service.Terms

namespace AuthGate

open Program

/-- The entries that a service writes. -/
inductive Log.Entry.IsAside : Log.Entry → Prop
  | admitted {requestId userId} :
      IsAside (authentication requestId userId (.bool true) .undefined .undefined)
  | refused {requestId userId reason} :
      IsAside (authentication requestId userId (.bool false) .undefined (.str reason))
  | faulty {requestId userId reason} (fault : AuthFault) : Authentication.Finds fault →
      IsAside (authentication requestId userId (.bool false) fault.code (.str reason))
  | decided {requestId userId granted} :
      IsAside (authorization requestId userId (.bool granted) (.str Api.readPermission))
  | reused {requestId userId tokenId count} :
      IsAside (security requestId userId (.str "REFRESH_TOKEN_REUSE") (.str "HIGH")
        (.obj [("token_id", .ofNat tokenId), ("revoked_count", .ofNat count)]))
  | unhandled {requestId : String} {f} : IsAside (Failure.unhandled (.str requestId) f)

namespace Log.Entry.IsAside

variable {e : Log.Entry} {wall : Number} {l : Log.Line}

lemma not_isOf_request (he : e.IsAside) (h : e.write wall = .ok l) : ¬ l.IsOf "API_REQUEST" := by
  have hkind {k : String} (hk : e.kind? = some k) (hne : k ≠ "API_REQUEST") :
      ¬ l.IsOf "API_REQUEST" := fun hline => hne ((isOf_of_write hk h).unique hline).2
  cases he with
  | admitted | refused | faulty => exact hkind rfl (by decide)
  | decided => exact hkind rfl (by decide)
  | reused => exact hkind rfl (by decide)
  | @unhandled requestId f =>
    cases ht : stamp wall with
    | error g =>
      rw [Failure.unhandled, write, ht] at h
      cases h
    | ok time =>
      obtain ⟨l', hl', -, hnote⟩ := write_unhandled ht requestId f
      obtain rfl := Except.ok.inj (h.symm.trans hl')
      exact hnote.not_isOf _

lemma clean_code {fault : AuthFault} (h : Authentication.Finds fault) :
    Clean (Json.readBack fault.code) := by
  have hcodes : ∀ s ∈ ["MISSING_TOKEN", "UNKNOWN_PRINCIPAL", "INACTIVE_PRINCIPAL", "REVOKED_TOKEN",
      "INVALID_TOKEN", "INVALID_SIGNATURE", "EXPIRED_TOKEN", "AUDIENCE_MISMATCH"],
      Clean (.str s) := by
    intro s hs
    fin_cases hs <;> exact clean_of_notMem (by decide) (by decide)
  cases fault with
  | token fault =>
    cases fault with
    | unlisted v => simp [Authentication.Finds, TokenFault.listed] at h
    | _ => exact hcodes _ (by simp)
  | _ => exact hcodes _ (by simp)

lemma masked (he : e.IsAside) (h : e.write wall = .ok l) : l.Masked := by
  have htext (s : String) (hat : '@' ∉ s.toList) (hphone : ¬ ShowsPhone s.toList) :
      Clean (Json.readBack (.str s)) := clean_of_notMem hat hphone
  cases he with
  | admitted => exact masked_authentication none clean_undefined h
  | @refused _ _ reason => exact masked_authentication (some reason) clean_undefined h
  | @faulty _ _ reason fault hfault =>
    exact masked_authentication (some reason) (clean_code hfault) h
  | decided => exact masked_authorization (htext _ (by decide) (by decide)) h
  | reused =>
    exact masked_security (htext _ (by decide) (by decide)) (htext _ (by decide) (by decide)) h
  | unhandled =>
    exact masked_note (htext _ (by decide) (by decide)) (htext _ (by decide) (by decide)) h

end Log.Entry.IsAside

namespace Program

def Notes {α : Type} (p : Program α) : Prop :=
  p.Abides (fun _ _ => True) (fun l => ∃ (wall : Number) (e : Log.Entry), e.IsAside ∧
    e.write wall = .ok l) fun _ => True

variable {α β σ : Type} {stores : Stores σ} {p : Program α}

lemma notes_done (r : Except Failure α) : (done r).Notes := Abides.done trivial

lemma notes_ask (c : Call) : (ask c).Notes := Abides.call fun r _ => notes_done r

lemma notes_log (m : Moment) {e : Log.Entry} (he : e.IsAside) : (log m e).Notes := by
  rw [log]
  cases hl : e.write m.wall with
  | ok l => exact Abides.write ⟨m.wall, e, he, hl⟩ (notes_done _)
  | error f => exact notes_done _

namespace Notes

lemma bind {f : α → Program β} (hp : p.Notes) (hf : ∀ a, (f a).Notes) : (p.bind f).Notes :=
  Abides.bind hp (fun a _ => hf a) fun _ _ => trivial

lemma attempt (hp : p.Notes) : p.attempt.Notes :=
  Abides.imp (Abides.attempt hp) fun _ _ => trivial

lemma lines {L : Log.Line → Prop}
    (hL : ∀ (wall : Number) (e : Log.Entry) l, e.IsAside → e.write wall = .ok l → L l)
    (hstores : ∀ c s, ∀ l ∈ (stores c s).lines, L l) (h : p.Notes) (s : σ) :
    ∀ l ∈ (p.run stores s).lines, L l := by
  have hlines : p.Abides (fun _ _ => True) L fun _ => True :=
    h.imp_lines fun l ⟨wall, e, he, hl⟩ => hL wall e l he hl
  exact (hlines.run (fun _ _ => trivial) hstores s).2

end Notes

lemma notes_attemptAll {ps : List (Except Failure (Program α))} (h : ∀ p, .ok p ∈ ps → p.Notes) :
    (attemptAll ps).Notes := by
  induction ps with
  | nil => exact notes_done _
  | cons x ps ih =>
    cases x with
    | error f => exact notes_done _
    | ok p =>
      have ih := ih fun p hp => h p (List.mem_cons_of_mem _ hp)
      exact (h p List.mem_cons_self).attempt.bind fun _ => ih.bind fun _ => notes_done _

lemma notes_all {ps : List (Except Failure (Program α))} (h : ∀ p, .ok p ∈ ps → p.Notes) :
    (all ps).Notes :=
  (notes_attemptAll h).bind fun _ => notes_done _

end Program

variable {m : Moment} {t : Token.Issuer} {requestId : String}

namespace Session

lemma notes_refuse {α : Type} (userId : Value) {code : Value} (reason : String)
    (hcode : code = .undefined ∨ ∃ fault, Authentication.Finds fault ∧ code = fault.code) :
    (refuse m (.str requestId) userId code reason : Program α).Notes := by
  refine (notes_log m ?_).bind fun _ => notes_done _
  obtain rfl | ⟨fault, hfault, rfl⟩ := hcode
  · exact .refused
  · exact .faulty fault hfault

lemma notes_login (email password : Value) : (login t m (.str requestId) email password).Notes := by
  refine (notes_ask _).bind fun found => ?_
  cases found with
  | none => exact (notes_done _).bind fun _ => notes_refuse _ _ (.inl rfl)
  | some u =>
    refine (notes_done _).bind fun accepted => ?_
    split_ifs
    · exact notes_refuse _ _ (.inl rfl)
    · exact notes_refuse _ _ (.inr ⟨.inactivePrincipal, trivial, rfl⟩)
    · exact (notes_ask _).bind fun _ => (notes_log m .admitted).bind fun _ => notes_done _

lemma notes_refreshFor (claims : Token.RefreshClaims) (found : Option User) :
    (refreshFor t m (.str requestId) claims found).Notes := by
  cases found with
  | none =>
    exact (notes_log m (.faulty .unknownPrincipal trivial)).bind fun _ => notes_done _
  | some u =>
    rw [refreshFor]
    split_ifs
    · exact (notes_log m (.faulty .inactivePrincipal trivial)).bind fun _ => notes_done _
    · refine (notes_ask _).bind fun rotated => ?_
      cases rotated with
      | none =>
        exact (notes_ask _).bind fun _ => (notes_log m .reused).bind fun _ => notes_done _
      | some tokenId => exact (notes_log m .admitted).bind fun _ => notes_done _

lemma notes_refresh (token : String) : (refresh t m (.str requestId) token).Notes :=
  (notes_done _).bind fun claims => (notes_ask _).bind fun found => notes_refreshFor claims found

lemma notes_logout (token : String) : (logout t m token).Notes :=
  (notes_done _).bind fun claims => notes_ask (.revoke claims.tokenId claims.id)

end Session

namespace Authentication

variable {schemePrefix headers : Value}

lemma notes_reject (fault : AuthFault) (h : Finds fault) (reason : String) (cause : Failure) :
    (reject m (.str requestId) fault reason cause).Notes :=
  (notes_log m (.faulty fault h)).bind fun _ => notes_done _

lemma notes_checkUser (credentials : Credentials) (found : Option User) :
    (checkUser m (.str requestId) credentials found).Notes := by
  cases found with
  | none => exact notes_reject .unknownPrincipal trivial _ _
  | some u =>
    rw [checkUser]
    split_ifs
    · exact (notes_log m .admitted).bind fun _ => notes_done _
    · exact (notes_done _).bind fun _ => notes_reject .inactivePrincipal trivial _ _

lemma notes_check : (check t schemePrefix m (.str requestId) headers).Notes :=
  Covers.check
    { failed := fun _ _ => trivial
      unanswered := fun _ _ _ => trivial
      anonymous := trivial
      rejected := fun fault reason cause h => notes_reject fault h reason cause
      found := fun credentials _ user _ => notes_checkUser credentials user }

end Authentication

namespace Authorization

variable {id : Option Value}

lemma notes_resolve : (resolve id).Notes := by
  cases id with
  | none => exact notes_done _
  | some id =>
    refine (notes_ask _).bind fun groups => (notes_all ?_).bind fun granted =>
      (notes_done _).bind fun roles => (notes_all ?_).bind fun held =>
        (notes_done _).bind fun _ => notes_done _
    · intro p hp
      obtain ⟨group, -, hp⟩ := List.mem_map.1 hp
      obtain ⟨g, -, rfl⟩ := Except.map_eq_ok.1 hp
      exact notes_ask _
    · intro p hp
      obtain ⟨r, -, hp⟩ := List.mem_map.1 hp
      obtain rfl := Except.ok.inj hp
      exact notes_ask _

lemma notes_describe : (describe id).Notes := notes_resolve.bind fun _ => notes_done _

lemma notes_requirePermission :
    (requirePermission m (.str requestId) id (.str Api.readPermission)).Notes := by
  have hasPermission : (hasPermission id (.str Api.readPermission)).Notes :=
    (notes_resolve.bind fun _ => notes_done _).bind fun _ => notes_done _
  refine hasPermission.bind fun granted => (notes_log m .decided).bind fun _ => ?_
  split_ifs
  · exact notes_done _
  · exact notes_done _

end Authorization

lemma Failure.notes_respond (f : Failure) :
    (respond m (.str requestId) requestId f).Notes := by
  have hother (g : Failure) : (respondOther m (.str requestId) requestId g).Notes := by
    rw [respondOther]
    split_ifs
    · exact notes_done _
    · exact (notes_log m .unhandled).bind fun _ => notes_done _
  refine (notes_done _).bind fun g => ?_
  cases g with
  | wrongKind | other | bare => exact hother _
  | _ => exact notes_done _

namespace Api

variable {endpoint : Program Response}

lemma notes_endpoint (api : Api) (m : Moment) (requestId : String) (r : Request) :
    (health m requestId).Notes ∧ (api.login m requestId r).Notes ∧
      (api.refresh m requestId r).Notes ∧ (api.logout m requestId r).Notes := by
  refine ⟨(notes_ask _).bind fun healthy => ?_,
    (notes_done _).bind fun _ => (notes_done _).bind fun _ => (Session.notes_login _ _).bind
      fun _ => notes_done _,
    (notes_done _).bind fun _ => (notes_done _).bind fun _ => (Session.notes_refresh _).bind
      fun _ => notes_done _,
    (notes_done _).bind fun _ => (notes_done _).bind fun _ => (Session.notes_logout _).bind
      fun _ => notes_done _⟩
  split_ifs
  · exact notes_done _
  · exact notes_done _

lemma notes_me (p : Principal) : (me m requestId p).Notes :=
  Authorization.notes_describe.bind fun _ => notes_done _

lemma notes_permissionsOf (userId : String) (p : Principal) :
    (permissionsOf m requestId userId p).Notes := by
  refine Authorization.notes_requirePermission.bind fun _ => (notes_ask (.findById userId)).bind
    fun found => ?_
  cases found with
  | none => exact notes_done _
  | some u => exact Authorization.notes_describe.bind fun _ => notes_done _

lemma notes_settle (h : endpoint.Notes) : (settle m requestId endpoint).Notes := by
  refine h.attempt.bind fun result => ?_
  cases result with
  | ok response => exact notes_done _
  | error f => exact f.notes_respond

lemma notes_servePublic (h : endpoint.Notes) : (servePublic m requestId endpoint).Notes :=
  (notes_settle h).bind fun _ => notes_done _

lemma notes_serve {principal : Program Principal} {endpoint : Principal → Program Response}
    (hp : principal.Notes) (h : ∀ p, (endpoint p).Notes) :
    (serve m requestId principal endpoint).Notes := by
  refine hp.attempt.bind fun result => ?_
  cases result with
  | ok p => exact (notes_settle (h p)).bind fun _ => notes_done _
  | error f => exact f.notes_respond.bind fun _ => notes_done _

lemma notes_answer (api : Api) (m : Moment) (requestId : String) (r : Request) :
    (api.answer m requestId r).Notes := by
  have hcaller : (api.authenticate m requestId r).Notes :=
    Authentication.notes_check.bind fun _ => notes_done _
  obtain ⟨hhealth, hlogin, hrefresh, hlogout⟩ := notes_endpoint api m requestId r
  rw [answer]
  cases Endpoint.ofRequest r with
  | error f => exact notes_servePublic (notes_done _)
  | ok found =>
    cases found with
    | none => exact notes_done _
    | some e =>
      cases e with
      | health => exact notes_servePublic hhealth
      | login => exact notes_servePublic hlogin
      | refresh => exact notes_servePublic hrefresh
      | logout => exact notes_servePublic hlogout
      | me => exact notes_serve hcaller notes_me
      | permissionsOf userId => exact notes_serve hcaller (notes_permissionsOf userId)

end Api

end AuthGate
