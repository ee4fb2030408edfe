import AuthGate.Proofs.Log.Shown
import AuthGate.Proofs.Request.Header
import AuthGate.Proofs.Service.Gate
import AuthGate.Proofs.Token.Refusal
import AuthGate.Proofs.Transcript

namespace AuthGate

open Program

lemma Token.Codec.listed_of_decodeAccess {c : Token.Codec} {m : Moment} {token : String}
    {f : Failure} (hk : c.isKeyed = true) (h : c.decodeAccess m token = .error f) :
    ∃ fault ∈ TokenFault.listed, ∃ message cause, f = .token fault message cause := by
  obtain ⟨secret, hs⟩ := secret_of_isKeyed hk
  have hd : c.decode m token (.str accessAudience) = .error f := by
    rw [decode, if_pos (by decide), Except.map_eq_error, h]
  cases refused_of_decode hs hd with
  | forged => exact ⟨_, by simp [TokenFault.listed], _, _, rfl⟩
  | other _ hfault =>
    refine ⟨_, ?_, _, _, rfl⟩
    simp only [List.mem_cons, List.not_mem_nil, or_false] at hfault
    rcases hfault with rfl | rfl | rfl <;> simp [TokenFault.listed]

lemma Token.Codec.letters_of_decodeAccess {c : Token.Codec} {m : Moment} {token : String}
    {claims : Token.AccessClaims} (h : c.decodeAccess m token = .ok claims) :
    ∀ ch ∈ token.toList, ch = '.' ∨ Text.Base64.isUrlChar ch = true := by
  obtain ⟨v, hv, -⟩ := Except.bind_eq_ok.1 h
  obtain ⟨now, -, hinspect, -⟩ := verify_eq_ok.1 (payloadFor_eq_ok.1 hv).1
  obtain ⟨⟨t, header, hopens⟩, -⟩ := inspect_eq_ok.1 hinspect
  obtain ⟨-, -, hh, hp, hs⟩ := t.isWellFormed_iff.1 hopens.wellFormed
  rw [Segments.chars_of_ofToken? hopens.cut, Segments.chars, Segments.signed]
  intro ch hch
  simp only [List.mem_append, List.mem_cons] at hch
  rcases hch with (hch | rfl | hch) | rfl | hch
  · exact .inr (List.all_eq_true.1 hh ch hch)
  · exact .inl rfl
  · exact .inr (List.all_eq_true.1 hp ch hch)
  · exact .inl rfl
  · exact .inr (List.all_eq_true.1 hs ch hch)

namespace Authentication

variable {σ : Type} {stores : Stores σ} {s : σ} {t : Token.Issuer} {m : Moment} {time : String}
  {requestId : Option String} {asked : String} {headers : List (String × Header.Given)}
  {ws : List String}

inductive Credential (headers : List (String × Header.Given)) : List String → Prop
  | missing : Header.Missing "authorization" headers → Credential headers []
  | given {g text ws} : Header.First "authorization" headers g → g.text? = some text →
      Text.Separated text.toList (ws.map String.toList) → Credential headers ws

lemma lower_authorization : Text.lower "authorization" = "authorization" := by decide +kernel

lemma map_words {text : String} (h : Text.Separated text.toList (ws.map String.toList)) :
    (Text.words text.toList).map String.ofList = ws := by
  rw [Text.words_eq_iff.2 h, List.map_map]
  simp [Function.comp_def]

lemma Credential.words_eq (h : Credential headers ws) :
    words (Header.headersOf headers) = .ok ws := by
  cases h with
  | missing h =>
    rw [words, Header.find_of_missing (lower_authorization.symm ▸ h)]
    rfl
  | given hfirst htext hwords =>
    rw [words_of_header (Header.find_of_first (lower_authorization.symm ▸ hfirst) htext),
      map_words hwords]

lemma exists_credential (headers : List (String × Header.Given)) :
    ∃ ws, Credential headers ws := by
  obtain ⟨g, hfirst⟩ | hmissing := Header.first_or_missing "authorization" headers
  · obtain ⟨text, htext⟩ := Header.exists_text hfirst
    refine ⟨(Text.words text.toList).map String.ofList, .given hfirst htext ?_⟩
    rw [List.map_map]
    simpa [Function.comp_def] using Text.words_eq_iff.1 rfl
  · exact ⟨[], .missing hmissing⟩

def Foreign (asked : String) (ws : List String) : Prop :=
  ∀ scheme ∈ ws.head?, Text.lower scheme ≠ Text.lower asked

inductive Faulty (t : Token.Issuer) (m : Moment) : List String → AuthFault → Prop
  | missing : Faulty t m [] .missingToken
  | undecoded {token fault message cause} :
      t.codec.decodeAccess m token = .error (.token fault message cause) →
      fault ∈ TokenFault.listed → Faulty t m [token] (.token fault)
  | surplus {rest : List String} : 2 ≤ rest.length → Faulty t m rest (.token .invalidToken)

inductive Unfit : Option User → AuthFault → Prop
  | unknown : Unfit none .unknownPrincipal
  | inactive {u : User} : u.status ≠ .confirmed → Unfit (some u) .inactivePrincipal

/-- What the stores are asked for a request with these words, and how its authentication ends. -/
inductive Verdict (stores : Stores σ) (s : σ) (t : Token.Issuer) (m : Moment) (time : String)
    (requestId : Option String) (asked : String) :
    List String → List Exchange → Outcome σ Authentication → Prop
  | anonymous {ws : List String} : Foreign asked ws →
      Verdict stores s t m time requestId asked ws [] ⟨.ok .anonymous, [], s⟩
  | faulty {scheme rest fault reason cause} {line : Log.Line} :
      Text.lower scheme = Text.lower asked → Faulty t m rest fault →
      line.Shows (Log.Entry.credentialFields time requestId none false fault.code reason) →
      Verdict stores s t m time requestId asked (scheme :: rest) []
        ⟨.ok (.rejected (.auth fault failedMessage cause)), [line], s⟩
  | failed {scheme token claims f} : Text.lower scheme = Text.lower asked →
      t.codec.decodeAccess m token = .ok claims →
      (stores (.findById claims.id) s).result = .error f →
      Verdict stores s t m time requestId asked [scheme, token]
        [exchange stores (.findById claims.id) s]
        ⟨.error f, (stores (.findById claims.id) s).lines, (stores (.findById claims.id) s).state⟩
  | unfit {scheme token claims found fault reason cause} {line : Log.Line} :
      Text.lower scheme = Text.lower asked → t.codec.decodeAccess m token = .ok claims →
      (stores (.findById claims.id) s).result = .ok found → Unfit found fault →
      line.Shows (Log.Entry.credentialFields time requestId none false fault.code reason) →
      Verdict stores s t m time requestId asked [scheme, token]
        [exchange stores (.findById claims.id) s]
        ⟨.ok (.rejected (.auth fault failedMessage cause)),
          (stores (.findById claims.id) s).lines ++ [line],
          (stores (.findById claims.id) s).state⟩
  | authenticated {scheme token claims userId} {u : User} {line : Log.Line} :
      Text.lower scheme = Text.lower asked → t.codec.decodeAccess m token = .ok claims →
      (stores (.findById claims.id) s).result = .ok (some u) → u.status = .confirmed →
      u.id = .str userId →
      line.Shows
        (Log.Entry.credentialFields time requestId (some userId) true .undefined none) →
      Verdict stores s t m time requestId asked [scheme, token]
        [exchange stores (.findById claims.id) s]
        ⟨.ok (.authenticated ⟨scheme, token, claims⟩ ⟨u.id, u.email, u.status⟩),
          (stores (.findById claims.id) s).lines ++ [line],
          (stores (.findById claims.id) s).state⟩

lemma Faulty.printable {rest : List String} {fault : AuthFault} (h : Faulty t m rest fault) :
    Json.Printable fault.code := by
  cases h with
  | missing => exact Json.printable_str _
  | surplus => exact Json.printable_str _
  | undecoded _ hfault =>
    simp only [TokenFault.listed, List.mem_cons, List.not_mem_nil, or_false] at hfault
    rcases hfault with rfl | rfl | rfl | rfl <;> exact Json.printable_str _

lemma Unfit.printable {found : Option User} {fault : AuthFault} (h : Unfit found fault) :
    Json.Printable fault.code := by
  cases h <;> exact Json.printable_str _

section

variable (ht : Log.Entry.stamp m.wall = .ok time)

include ht

lemma reject_shows (requestId : Option String) {fault : AuthFault}
    (hcode : Json.Printable fault.code) (reason : String) (cause : Failure) : ∃ line,
      reject m (.ofText? requestId) fault reason cause =
        write line (done (.ok (.rejected (.auth fault failedMessage (some cause))))) ∧
      line.Shows
        (Log.Entry.credentialFields time requestId none false fault.code (some reason)) := by
  obtain ⟨line, hwrite, hshows⟩ := Log.Entry.write_credential_shows ht requestId none false hcode
    (some reason)
  refine ⟨line, ?_, hshows⟩
  rw [Value.ofText?_none, Value.ofText?_some] at hwrite
  rw [reject, log_eq hwrite]
  rfl

lemma checkUser_confirmed (requestId : Option String) (credentials : Credentials) {u : User}
    {userId : String} (hu : u.status = .confirmed) (hid : u.id = .str userId) : ∃ line,
      checkUser m (.ofText? requestId) credentials (some u) =
        write line (done (.ok (.authenticated credentials u.principal))) ∧
      line.Shows
        (Log.Entry.credentialFields time requestId (some userId) true .undefined none) := by
  obtain ⟨line, hwrite, hshows⟩ := Log.Entry.write_credential_shows ht requestId (some userId) true
    Json.printable_undefined none
  refine ⟨line, ?_, hshows⟩
  rw [Value.ofText?_none, Value.ofText?_some] at hwrite
  rw [checkUser, if_pos hu, hid, log_eq hwrite]
  rfl

end

lemma checkCredential_of_faulty {rest : List String} {fault : AuthFault} (h : Faulty t m rest fault)
    (asked : String) (requestId : Value) (scheme : String) : ∃ reason cause,
      checkCredential t asked m requestId scheme rest = reject m requestId fault reason cause := by
  cases h with
  | missing => exact ⟨_, _, rfl⟩
  | @undecoded token fault message cause hd _ =>
    refine ⟨message, .token fault message cause, ?_⟩
    rw [checkCredential, checkToken, hd]
  | surplus hrest =>
    obtain _ | ⟨a, _ | ⟨b, rest⟩⟩ := rest
    · simp at hrest
    · simp at hrest
    · exact ⟨_, _, rfl⟩

lemma checkUser_of_unfit {found : Option User} {fault : AuthFault} (h : Unfit found fault)
    (hid : ∀ u, found = some u → ∃ userId, u.id = .str userId) (requestId : Value)
    (credentials : Credentials) : ∃ reason cause,
      checkUser m requestId credentials found = reject m requestId fault reason cause := by
  cases h with
  | unknown => exact ⟨_, _, rfl⟩
  | @inactive u hu =>
    obtain ⟨userId, hid⟩ := hid u rfl
    refine ⟨s!"User {userId} has status {u.status.label}",
      .error s!"User {userId} has status {u.status.label}", ?_⟩
    rw [checkUser, if_neg hu, hid]
    rfl

lemma faulty_or_decoded (hk : t.codec.isKeyed = true) (rest : List String) :
    (∃ fault, Faulty t m rest fault) ∨
      ∃ token claims, rest = [token] ∧ t.codec.decodeAccess m token = .ok claims := by
  obtain _ | ⟨token, _ | ⟨b, rest⟩⟩ := rest
  · exact .inl ⟨_, .missing⟩
  · cases hd : t.codec.decodeAccess m token with
    | ok claims => exact .inr ⟨token, claims, rfl, hd⟩
    | error f =>
      obtain ⟨fault, hfault, message, cause, rfl⟩ := Token.Codec.listed_of_decodeAccess hk hd
      exact .inl ⟨_, .undecoded hd hfault⟩
  · exact .inl ⟨_, .surplus (by simp)⟩

lemma check_of_foreign (hws : words (Header.headersOf headers) = .ok ws) (h : Foreign asked ws)
    (requestId : Value) :
    check t (.str asked) m requestId (Header.headersOf headers) = done (.ok .anonymous) := by
  cases ws with
  | nil =>
    rw [check, hws]
    rfl
  | cons scheme rest =>
    simp only [check, hws, bind_eq, bind_ok, Value.textFor, if_pos (h scheme rfl)]
    rfl

lemma check_of_own {scheme : String} {rest : List String}
    (hws : words (Header.headersOf headers) = .ok (scheme :: rest))
    (hl : Text.lower scheme = Text.lower asked) (requestId : Value) :
    check t (.str asked) m requestId (Header.headersOf headers) =
      checkCredential t asked m requestId scheme rest := by
  simp only [check, hws, bind_eq, bind_ok, Value.textFor, hl, ne_eq, not_true_eq_false, if_false]

lemma verdict_of_lookup (ht : Log.Entry.stamp m.wall = .ok time) {scheme token : String}
    {claims : Token.AccessClaims} (hl : Text.lower scheme = Text.lower asked)
    (hd : t.codec.decodeAccess m token = .ok claims)
    (hids : ∀ u, (stores (.findById claims.id) s).result = .ok (some u) →
      ∃ userId, u.id = .str userId) :
    Verdict stores s t m time requestId asked [scheme, token]
      ((checkToken t m (.ofText? requestId) scheme token).transcript stores s)
      ((checkToken t m (.ofText? requestId) scheme token).run stores s) := by
  have hcheck : checkToken t m (.ofText? requestId) scheme token =
      call (.findById claims.id) fun r =>
        (done r).bind (checkUser m (.ofText? requestId) ⟨scheme, token, claims⟩) := by
    rw [checkToken, hd]
    rfl
  rw [hcheck]
  -- One call is made; what its answer leads to makes none.
  simp only [transcript, run]
  cases hr : (stores (.findById claims.id) s).result with
  | error f =>
    simp only [bind_error, transcript, run_done, List.append_nil]
    exact .failed hl hd hr
  | ok found =>
    have hend : (∃ fault, Unfit found fault) ∨
        ∃ u, found = some u ∧ u.status = .confirmed := by
      cases found with
      | none => exact .inl ⟨_, .unknown⟩
      | some u =>
        by_cases hu : u.status = .confirmed
        · exact .inr ⟨u, rfl, hu⟩
        · exact .inl ⟨_, .inactive hu⟩
    rw [bind_ok]
    obtain ⟨fault, hunfit⟩ | ⟨u, rfl, hu⟩ := hend
    · obtain ⟨reason, cause, huser⟩ := checkUser_of_unfit hunfit (fun u hu => hids u (hu ▸ hr))
        (.ofText? requestId) ⟨scheme, token, claims⟩
      obtain ⟨line, hline, hshows⟩ := reject_shows ht requestId hunfit.printable reason cause
      rw [huser, hline]
      exact .unfit hl hd hr hunfit hshows
    · obtain ⟨userId, hid⟩ := hids u hr
      obtain ⟨line, huser, hshows⟩ := checkUser_confirmed ht requestId
        ⟨scheme, token, claims⟩ hu hid
      rw [huser]
      exact .authenticated hl hd hr hu hid hshows

lemma Verdict.anonymous_iff {es : List Exchange} {o : Outcome σ Authentication}
    (h : Verdict stores s t m time requestId asked ws es o) :
    o.result = .ok .anonymous ↔ Foreign asked ws := by
  cases h with
  | anonymous hforeign => exact iff_of_true rfl hforeign
  | faulty hl | failed hl | unfit hl | authenticated hl =>
    exact iff_of_false (by simp) fun hforeign => hforeign _ rfl hl

/-- The law of authentication. Every request has its words, and by these it is anonymous, rejected
for one fault or authenticated as the stored user, or fails as the stores do. -/
theorem check_verdict (hk : t.codec.isKeyed = true) (hwall : Calendar.iso? m.wall = some time)
    (hids : ∀ id u, (stores (.findById id) s).result = .ok (some u) →
      ∃ userId, u.id = .str userId)
    (requestId : Option String) (asked : String) (headers : List (String × Header.Given)) :
    let p := check t (.str asked) m (.ofText? requestId) (Header.headersOf headers)
    (∃ ws, Credential headers ws) ∧ ∀ ws, Credential headers ws →
      Verdict stores s t m time requestId asked ws (p.transcript stores s) (p.run stores s) ∧
      ((p.run stores s).result = .ok .anonymous ↔ Foreign asked ws) := by
  have ht : Log.Entry.stamp m.wall = .ok time := by rw [Log.Entry.stamp, hwall]
  refine ⟨exists_credential headers, fun ws hws => ?_⟩
  suffices h : Verdict stores s t m time requestId asked ws _ _ from ⟨h, h.anonymous_iff⟩
  have hwords := hws.words_eq
  by_cases hforeign : Foreign asked ws
  · rw [check_of_foreign hwords hforeign]
    exact .anonymous hforeign
  obtain ⟨scheme, rest, rfl, hl⟩ : ∃ scheme rest, ws = scheme :: rest ∧
      Text.lower scheme = Text.lower asked := by
    cases ws with
    | nil => simp [Foreign] at hforeign
    | cons scheme rest => exact ⟨scheme, rest, rfl, by simpa [Foreign] using hforeign⟩
  rw [check_of_own hwords hl]
  obtain ⟨fault, hfaulty⟩ | ⟨token, claims, rfl, hd⟩ := faulty_or_decoded hk rest
  · obtain ⟨reason, cause, hreject⟩ :=
      checkCredential_of_faulty hfaulty asked (.ofText? requestId) scheme
    obtain ⟨line, hline, hshows⟩ := reject_shows ht requestId hfaulty.printable reason cause
    rw [hreject, hline]
    exact .faulty hl hfaulty hshows
  · exact verdict_of_lookup ht hl hd (hids claims.id)

lemma first_authorization {key : String} (hkey : Text.lower key = "authorization")
    {g : Header.Given} (hg : g ≠ .nothing) : Header.First "authorization" [(key, g)] g :=
  ⟨[], key, [], rfl, hkey, hg, by simp⟩

lemma credential_bearing (payload : Record) :
    Credential
      [("Authorization", .text ("Bearer" ++ " " ++ Token.sampleIssuer.codec.sign payload))]
      ["Bearer", Token.sampleIssuer.codec.sign payload] := by
  have htoken : Text.IsWord (Token.sampleIssuer.codec.sign payload).toList := by
    refine ⟨?_, Token.Codec.sign_not_blank _ _⟩
    rw [Token.Codec.sign]
    simp
  have hwords : Text.words ("Bearer".toList ++ [' '] ++ _) = ["Bearer".toList, _] :=
    Text.words_pair (Text.isWord_iff.2 ⟨by simp, rfl⟩) (by simp) (by simp [Text.isBlank]) htoken
  refine .given (first_authorization (by decide +kernel) (by simp)) rfl ?_
  simpa using Text.words_eq_iff.1 hwords

theorem check_verdict_bearer :
    ((check Token.sampleIssuer (.str "Bearer") Token.sampleMoment (.str "request-1")
      (Header.headersOf [("Authorization", .text ("Bearer" ++ " " ++ Api.accessToken))])).run
        Memory.stores Session.sampleMemory).result =
      .ok (.authenticated ⟨"Bearer", Api.accessToken, ⟨"user-1", .finite 1, .finite (2 ^ 71)⟩⟩
        Session.sampleUser.principal) := by
  have hids : ∀ id u, (Memory.stores (.findById id) Session.sampleMemory).result = .ok (some u) →
      ∃ userId, u.id = .str userId := by
    intro id u hu
    have hfound := List.mem_of_find?_eq_some (Except.ok.inj (Memory.perform_of_ok hu))
    obtain rfl := List.mem_singleton.1 hfound
    exact ⟨_, rfl⟩
  have hdecode := Api.decodeAccess_accessToken Token.sampleMoment_seconds
  have hwall : Calendar.iso? Token.sampleMoment.wall = some "2023-11-14T22:13:20.000Z" := by
    decide +kernel
  have hkeyed : Token.sampleIssuer.codec.isKeyed = true := rfl
  obtain ⟨-, hverdict⟩ := check_verdict hkeyed hwall hids (some "request-1") "Bearer"
    [("Authorization", .text ("Bearer" ++ " " ++ Api.accessToken))]
  have h := (hverdict _ (credential_bearing Api.accessPayload)).1
  rw [Value.ofText?_some] at h
  generalize transcript _ _ _ = es, run _ _ _ = o at h ⊢
  cases h with
  | anonymous h => exact absurd rfl (h "Bearer" rfl)
  | faulty _ h =>
    cases h with
    | undecoded hd => cases hdecode.symm.trans hd
    | surplus h => exact absurd h (by simp)
  | failed _ hd hf =>
    obtain rfl := Except.ok.inj (hdecode.symm.trans hd)
    cases hf
  | unfit _ hd hf hunfit =>
    obtain rfl := Except.ok.inj (hdecode.symm.trans hd)
    obtain rfl := Except.ok.inj hf
    cases hunfit with
    | inactive h => exact absurd rfl h
  | authenticated _ hd hf =>
    obtain rfl := Except.ok.inj (hdecode.symm.trans hd)
    obtain rfl := Option.some.inj (Except.ok.inj hf)
    rfl

/-- A comma that is left by the joining of values is in the scheme or in the token. -/
lemma comma_mem_of_carries {text token : String} (hcomma : ',' ∉ asked.toList)
    (hmem : ',' ∈ text.toList)
    (hfind : Header.find (Header.headersOf headers) (.str "authorization") = .ok (.str text))
    (h : Carries (.str asked) (Header.headersOf headers) token) : ',' ∈ token.toList := by
  obtain ⟨text', scheme, asked', hfind', hwords, hasked, hl⟩ := h
  obtain rfl : text = text' := Value.str.inj (Except.ok.inj (hfind.symm.trans hfind'))
  obtain rfl := Value.str.inj hasked
  obtain ⟨word, hword, hin⟩ := (Text.words_eq_iff.1 rfl).exists_mem hmem (by decide)
  have hword : String.ofList word ∈ [scheme, token] := hwords ▸ List.mem_map_of_mem hword
  have hin : ',' ∈ (String.ofList word).toList := by rwa [String.toList_ofList]
  simp only [List.mem_cons, List.not_mem_nil, or_false] at hword
  rcases hword with hscheme | htoken
  · rw [hscheme, ← Text.comma_mem_lower, hl, Text.comma_mem_lower] at hin
    exact absurd hin hcomma
  · rwa [htoken] at hin

theorem repeated_refused (stores : Stores σ) (s : σ) (t : Token.Issuer) (m : Moment)
    (requestId : Value) (hcomma : ',' ∉ asked.toList) {values : List String}
    (hfirst : Header.First "authorization" headers (.list values)) (htwo : 2 ≤ values.length) :
    let p := check t (.str asked) m requestId (Header.headersOf headers)
    p.transcript stores s = [] ∧ (p.run stores s).state = s ∧
      ∀ credentials principal,
        (p.run stores s).result ≠ .ok (.authenticated credentials principal) := by
  have hfind : Header.find (Header.headersOf headers) (.str "authorization") =
      .ok (.str (",".intercalate values)) :=
    Header.find_of_first (lower_authorization.symm ▸ hfirst) rfl
  have hquiet : (check t (.str asked) m requestId (Header.headersOf headers)).Quiet
      Unauthenticated := by
    refine quiet_check fun claims hpresents => ?_
    obtain ⟨token, hcarries, hdecode⟩ := hpresents
    have hin := comma_mem_of_carries hcomma (Header.comma_mem_intercalate htwo) hfind hcarries
    exact absurd (Token.Codec.letters_of_decodeAccess hdecode ',' hin) (by decide)
  exact ⟨hquiet.transcript s, hquiet.state s, hquiet.result s⟩

theorem repeated_refused_bearer :
    let bearer := "Bearer" ++ " " ++ Api.accessToken
    let p := check Token.sampleIssuer (.str "Bearer") Token.sampleMoment (.str "request-1")
      (Header.headersOf [("AUTHORIZATION", .list [bearer, bearer])])
    p.transcript Memory.stores Session.sampleMemory = [] ∧
      (p.run Memory.stores Session.sampleMemory).state = Session.sampleMemory ∧
      ∀ credentials principal, (p.run Memory.stores Session.sampleMemory).result ≠
        .ok (.authenticated credentials principal) :=
  repeated_refused _ _ _ _ _ (by decide)
    (first_authorization (by decide +kernel) (by simp)) le_rfl

end Authentication

end AuthGate
