import AuthGate.Memory.Scenario
import AuthGate.Proofs.Session.Refresh

namespace AuthGate

open Program

namespace Session

variable {t : Token.Issuer} {m : Moment} {s : Memory} {claims : Token.RefreshClaims}

inductive Use where
  | refresh (requestId : Value) (token : String)
  | logout (token : String)

namespace Use

def token : Use → String
  | refresh _ token => token
  | logout token => token

def Succeeds (t : Token.Issuer) (m : Moment) (s : Memory) : Use → Prop
  | refresh requestId token =>
    ∃ pair, ((Session.refresh t m requestId token).run Memory.stores s).result = .ok pair
  | logout token => ((Session.logout t m token).run Memory.stores s).result = .ok true

def Begins {α : Type} (t : Token.Issuer) (m : Moment) (p : Program α) : Use → Prop
  | refresh requestId token => p.StartsWith (Session.refresh t m requestId token)
  | logout token => p.StartsWith (Session.logout t m token)

def memory (t : Token.Issuer) (m : Moment) (s : Memory) : Use → Memory
  | refresh requestId token => ((Session.refresh t m requestId token).run Memory.stores s).state
  | logout token => ((Session.logout t m token).run Memory.stores s).state

lemma Begins.ages {α : Type} {p : Program α} {u : Use} (h : u.Begins t m p) (s : Memory) :
    (u.memory t m s).Ages (p.run Memory.stores s).state := by
  cases u with
  | refresh requestId token => exact Memory.ages_of_startsWith h s
  | logout token => exact Memory.ages_of_startsWith h s

lemma Begins.bind {α β : Type} {p : Program α} {u : Use} (h : u.Begins t m p)
    (f : α → Program β) : u.Begins t m (p.bind f) := by
  cases u with
  | refresh requestId token => exact StartsWith.bind h f
  | logout token => exact StartsWith.bind h f

end Use

lemma log_raise_ne_ok {α : Type} (e : Log.Entry) (f : Failure) (a : α) (s : Memory) :
    (((log m e).bind fun _ => (raise f : Program α)).run Memory.stores s).result ≠ .ok a :=
  result_bind_ne_ok (fun _ _ => by simp [raise]) _ _

lemma reuse_ne_ok {α : Type} (requestId : Value) (k : ℕ) (u : Value) (a : α) (s : Memory) :
    ((reuse m requestId k u : Program α).run Memory.stores s).result ≠ .ok a :=
  result_bind_ne_ok (fun _ s => log_raise_ne_ok _ _ a s) _ _

lemma refresh_uses {requestId : Value} {token : String} {pair : Token.Pair}
    (hd : t.codec.decodeRefresh m token = .ok claims)
    (h : ((Session.refresh t m requestId token).run Memory.stores s).result = .ok pair) :
    claims.tokenId ∈ s.live ∧
      ((Session.refresh t m requestId token).run Memory.stores s).state.Dead claims.tokenId := by
  rw [Session.refresh] at h ⊢
  simp only [hd, bind_eq, bind_ok] at h ⊢
  obtain ⟨hs, ⟨name, text, he⟩ | hr⟩ := Memory.findById_cases claims.id s
  · rw [run_ask_error he] at h
    cases h
  rw [run_ask_ok hr] at h ⊢
  cases hu : s.users.find? (·.id.same (.str claims.id)) with
  | none =>
    rw [hu] at h
    exact absurd h (log_raise_ne_ok _ _ _ _)
  | some user =>
    rw [hu, refreshFor] at h
    rw [refreshFor]
    split_ifs at h ⊢ with hc
    · exact absurd h (log_raise_ne_ok _ _ _ _)
    · simp only [bind_eq] at h ⊢
      rcases Memory.rotate_cases claims.tokenId user.id
        (Memory.stores (.findById claims.id) s).state with ⟨⟨name, text, he⟩, -⟩ | ⟨hn, -⟩ | ⟨ho, hrot⟩
      · rw [run_ask_error he] at h
        cases h
      · rw [run_ask_ok hn] at h
        exact absurd h (reuse_ne_ok _ _ _ _ _)
      · rw [run_ask_ok ho]
        refine ⟨Memory.live_of_isLive (u := user.id) ?_, (Memory.ages_run _ _).dead hrot.dead⟩
        rw [← Memory.isLive_congr hs, hrot.live]

lemma logout_uses {token : String} (hd : t.codec.decodeRefresh m token = .ok claims)
    (h : ((Session.logout t m token).run Memory.stores s).result = .ok true) :
    claims.tokenId ∈ s.live ∧
      ((Session.logout t m token).run Memory.stores s).state.Dead claims.tokenId := by
  rw [Session.logout] at h ⊢
  simp only [hd, bind_eq, bind_ok] at h ⊢
  change (Memory.stores (.revoke claims.tokenId claims.id) s).result = _ at h
  change _ ∧ (Memory.stores (.revoke claims.tokenId claims.id) s).state.Dead _
  rcases Memory.revoke_cases claims.tokenId claims.id s with
    ⟨⟨name, text, he⟩, -⟩ | ⟨hn, -⟩ | ⟨-, hl, hs⟩
  · rw [he] at h
    cases h
  · rw [hn] at h
    cases h
  · obtain ⟨r, hr, -⟩ := Memory.isLive_iff.1 hl
    refine ⟨Memory.live_of_isLive hl, r.kill, ?_, rfl⟩
    rw [Memory.record?_congr hs, Memory.record?_revokeRecord, hr]
    simp

lemma Use.Succeeds.uses {u : Use} (h : u.Succeeds t m s)
    (hd : t.codec.decodeRefresh m u.token = .ok claims) :
    claims.tokenId ∈ s.live ∧ (u.memory t m s).Dead claims.tokenId := by
  cases u with
  | refresh requestId token =>
    obtain ⟨pair, hp⟩ := h
    exact refresh_uses hd hp
  | logout token => exact logout_uses hd h

end Session

namespace Scenario

variable {s : Scenario} {t : Step} {k : ℕ}

def presented? (r : Request) : Option String :=
  match r.content.bind presentedToken with
  | .ok token => some token
  | .error _ => none

def Step.use? (requestId : String) : Step → Option Session.Use
  | .refresh (.str token) r => some (.refresh r token)
  | .logout (.str token) => some (.logout token)
  | .request r =>
    match Endpoint.ofRequest r with
    | .ok (some .refresh) => (presented? r).map (.refresh (.str requestId))
    | .ok (some .logout) => (presented? r).map .logout
    | _ => none
  | _ => none

def start (s : Scenario) : Memory := { s.memory with journal := [] }

def UsesUp (s : Scenario) (t : Step) (k : ℕ) : Prop :=
  let s := s.adjust t
  ∃ u claims, t.use? (AuthGate.requestId s.requests) = some u ∧
    s.api.tokens.codec.decodeRefresh s.moment u.token = .ok claims ∧ claims.tokenId = k ∧
    u.Succeeds s.api.tokens s.moment s.start

def after (s : Scenario) (ts : List Step) : Scenario := ts.foldl (fun s t => (s.step t).2) s

lemma adjust_records (s : Scenario) (t : Step) : (s.adjust t).start.records = s.memory.records := by
  cases t <;> rfl

lemma ages_step (s : Scenario) (t : Step) : s.memory.Ages (s.step t).2.memory :=
  (Memory.Ages.of_records (adjust_records s t)).trans (Memory.ages_run _ _)

lemma ages_after (s : Scenario) (ts : List Step) : s.memory.Ages (s.after ts).memory := by
  induction ts generalizing s with
  | nil => exact Memory.Ages.refl _
  | cons t ts ih => exact (ages_step s t).trans (ih _)

lemma presented?_eq_some {r : Request} {token : String} (h : presented? r = some token) :
    ∃ body, r.content = .ok body ∧ presentedToken body = .ok token := by
  rw [presented?] at h
  split at h
  · rename_i token' ht
    obtain rfl := Option.some.inj h
    exact Except.bind_eq_ok.1 ht
  · cases h

lemma startsWith_servePublic {α : Type} {p : Program Response} {q : Program α}
    (h : p.StartsWith q) (m : Moment) (requestId : String) :
    (Api.servePublic m requestId p).StartsWith q :=
  (h.attempt.bind _).bind _

lemma begins_handle {api : Api} {m : Moment} {requestId : String} {r : Request} {e : Endpoint}
    {u : Session.Use} (he : Endpoint.ofRequest r = .ok (some e))
    (hu : e = .refresh ∧ (presented? r).map (.refresh (.str requestId)) = some u ∨
      e = .logout ∧ (presented? r).map .logout = some u) :
    u.Begins api.tokens m (api.handle m requestId r) := by
  rw [Api.handle, Api.answer]
  rw [he]
  rcases hu with ⟨rfl, hu⟩ | ⟨rfl, hu⟩
  · obtain ⟨token, htoken, rfl⟩ := Option.map_eq_some_iff.1 hu
    obtain ⟨body, hbody, htoken⟩ := presented?_eq_some htoken
    apply StartsWith.bind
    apply startsWith_servePublic
    simp only [Api.refresh, hbody, htoken, bind_eq, bind_ok]
    exact (StartsWith.refl _).bind _
  · obtain ⟨token, htoken, rfl⟩ := Option.map_eq_some_iff.1 hu
    obtain ⟨body, hbody, htoken⟩ := presented?_eq_some htoken
    apply StartsWith.bind
    apply startsWith_servePublic
    simp only [Api.logout, hbody, htoken, bind_eq, bind_ok]
    exact (StartsWith.refl _).bind _

lemma begins_program {u : Session.Use} {requestId : String} (hu : t.use? requestId = some u) :
    u.Begins s.api.tokens s.moment (s.program requestId t) := by
  unfold Step.use? at hu
  split at hu
  · obtain rfl := Option.some.inj hu
    exact (StartsWith.refl _).bind _
  · obtain rfl := Option.some.inj hu
    exact (StartsWith.refl _).bind _
  · split at hu
    · rename_i he
      exact (begins_handle he (.inl ⟨rfl, hu⟩)).bind _
    · rename_i he
      exact (begins_handle he (.inr ⟨rfl, hu⟩)).bind _
    · cases hu
  · cases hu

lemma UsesUp.spends (h : s.UsesUp t k) : k ∈ s.memory.live ∧ (s.step t).2.memory.Dead k := by
  obtain ⟨u, claims, hu, hd, rfl, hs⟩ := h
  obtain ⟨hl, hdead⟩ := hs.uses hd
  refine ⟨?_, ((begins_program hu).ages _).dead hdead⟩
  obtain ⟨r, hr, hlive⟩ := Memory.mem_live.1 hl
  exact Memory.mem_live.2 ⟨r, by rw [← hr, Memory.record?_congr (adjust_records s t)], hlive⟩

lemma after_take {ts : List Step} {i j : ℕ} (h : i ≤ j) (s : Scenario) :
    s.after (ts.take j) = (s.after (ts.take i)).after ((ts.take j).drop i) := by
  have hts : ts.take j = ts.take i ++ (ts.take j).drop i := by
    conv_lhs => rw [← List.take_append_drop i (ts.take j), List.take_take, min_eq_left h]
  rw [after, after, after, ← List.foldl_append, ← hts]

lemma after_succ {ts : List Step} {i : ℕ} (h : i < ts.length) (s : Scenario) :
    s.after (ts.take (i + 1)) = ((s.after (ts.take i)).step ts[i]).2 := by
  rw [List.take_succ_eq_append_getElem h, after, List.foldl_append]
  rfl

lemma ages_take {ts : List Step} {i j : ℕ} (h : i ≤ j) (s : Scenario) :
    (s.after (ts.take i)).memory.Ages (s.after (ts.take j)).memory := by
  rw [after_take h]
  exact ages_after _ _

lemma not_usesUp_later {ts : List Step} {i j : ℕ} (h : i < j) (hi : i < ts.length)
    (hj : j < ts.length) (hui : (s.after (ts.take i)).UsesUp ts[i] k) :
    ¬ (s.after (ts.take j)).UsesUp ts[j] k := by
  intro hu
  have hdead := hui.spends.2
  rw [← after_succ] at hdead
  exact ((ages_take h s).dead hdead).not_live hu.spends.1

theorem used_once (s : Scenario) (ts : List Step) (k : ℕ) :
    (∀ i j l, i ≤ j → j ≤ l → k ∈ (s.after (ts.take i)).memory.live →
      k ∉ (s.after (ts.take j)).memory.live → k ∉ (s.after (ts.take l)).memory.live) ∧
    ∀ i j, (hi : i < ts.length) → (hj : j < ts.length) → (s.after (ts.take i)).UsesUp ts[i] k →
      (s.after (ts.take j)).UsesUp ts[j] k → i = j := by
  refine ⟨fun i j l hij hjl hl hn => ?_, fun i j hi hj hui huj => ?_⟩
  · exact ((ages_take hjl s).dead ((ages_take hij s).dead_of_not_live hl hn)).not_live
  · rcases lt_trichotomy i j with h | h | h
    · exact absurd huj (not_usesUp_later h hi hj hui)
    · exact h
    · exact absurd hui (not_usesUp_later h hj hi huj)

def sampleScenario : Scenario :=
  ⟨⟨Token.sampleIssuer, .str "Bearer"⟩, Session.sampleMemory, Token.sampleMoment.clock,
    Token.sampleMoment.wall, [], 0⟩

def sampleLogout : Step := .logout (.str Session.lastingToken)

lemma usesUp_sampleLogout : sampleScenario.UsesUp sampleLogout 1 := by
  refine ⟨.logout _, _, rfl, Session.decodeRefresh_sample, rfl, ?_⟩
  change ((Session.logout Token.sampleIssuer Token.sampleMoment _).run Memory.stores
    Session.sampleMemory).result = _
  simp only [Session.logout, Session.decodeRefresh_sample, bind_eq, bind_ok]
  rfl

theorem used_once_sample :
    1 ∈ sampleScenario.memory.live ∧ sampleScenario.UsesUp sampleLogout 1 ∧
      (1 ∉ (sampleScenario.after [sampleLogout]).memory.live →
        1 ∉ (sampleScenario.after [sampleLogout, sampleLogout]).memory.live) ∧
      ¬ (sampleScenario.after [sampleLogout]).UsesUp sampleLogout 1 := by
  have hu := usesUp_sampleLogout
  obtain ⟨hlive, honce⟩ := used_once sampleScenario [sampleLogout, sampleLogout] 1
  refine ⟨by decide, hu, hlive 0 1 2 (by decide) (by decide) (by decide), fun h => ?_⟩
  exact absurd (honce 0 1 (by decide) (by decide) hu h) (by decide)

end Scenario

end AuthGate
