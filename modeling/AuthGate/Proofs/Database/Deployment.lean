import AuthGate.Proofs.Database.Pool
import AuthGate.Proofs.Service.Confirmed
import AuthGate.Proofs.Settings

/-! What a deployment keeps. The pool is kept from the first step that needs one until it is reset,
and the interface from the first request whose environment is valid for good; each is made of the
environment of the moment at which it is made, and a request that comes before fails by itself. -/

namespace AuthGate

namespace Deployment

open Database (Event newPools)

variable {env : Environment} {api : Api}

structure Reads (env : Environment) (api : Api) : Prop where
  secret : api.tokens.codec.secret = env.valueOr "TOKENS_SECRET_KEY" ""
  issuer : api.tokens.codec.issuer = env.valueOr "TOKENS_ISSUER" "wishlist-backend"
  access : ∃ n, env.integerOr "TOKENS_ACCESS_LIFETIME_SECONDS" "3600" = .ok n ∧
    api.tokens.accessLifetime = .num n
  refresh : ∃ n, env.integerOr "TOKENS_REFRESH_LIFETIME_SECONDS" "2592000" = .ok n ∧
    api.tokens.refreshLifetime = .num n
  schemePrefix : api.schemePrefix = env.valueOr "AUTH_SCHEME_PREFIX" "Bearer"

lemma buildApi_eq_ok : buildApi env = .ok api ↔ ∃ s, Settings.load env = .ok s ∧
    s.validate = .ok () ∧ Token.Issuer.make? s.auth = .ok api.tokens ∧
      api.schemePrefix = s.schemePrefix := by
  rw [buildApi]
  simp only [bind, Except.bind_eq_ok]
  constructor
  · rintro ⟨s, hs, ⟨⟩, hv, tokens, ht, h⟩
    obtain rfl := Except.ok.inj h
    exact ⟨s, hs, hv, ht, rfl⟩
  · rintro ⟨s, hs, hv, ht, hp⟩
    exact ⟨s, hs, (), hv, api.tokens, ht, by rw [← hp]; rfl⟩

lemma make?_auth {s : Settings} (h : s.secret.truthy = true) :
    Token.Issuer.make? s.auth = .ok ⟨⟨s.secret, s.issuer, .hs256, true, h⟩,
      .num s.accessLifetime, .num s.refreshLifetime⟩ := by
  have hc : Token.Codec.make? s.secret s.issuer .undefined =
      .ok ⟨s.secret, s.issuer, .hs256, true, h⟩ := by
    rw [Token.Codec.make?, dif_pos h]
    rfl
  rw [Token.Issuer.make?, Settings.auth, hc]
  rfl

lemma reads_of_buildApi (h : buildApi env = .ok api) : Reads env api := by
  obtain ⟨s, hs, hv, ht, hp⟩ := buildApi_eq_ok.1 h
  have hsecret := (Settings.validate_eq_ok.1 hv).1.2.2.2
  rw [make?_auth hsecret] at ht
  obtain ⟨port, access, refresh, -, ha, hr, rfl⟩ := Settings.load_eq_ok.1 hs
  have ht := (Except.ok.inj ht).symm
  exact ⟨by rw [ht], by rw [ht], ⟨access, ha, by rw [ht]⟩, ⟨refresh, hr, by rw [ht]⟩, hp⟩

variable {d : Deployment} {script : Script} {t : Step}

def Step.Sets (P : Environment → Prop) : Step → Prop
  | .setEnvironment env => P env
  | _ => True

def Step.environment (env : Environment) : Step → Environment
  | .setEnvironment env' => env'
  | _ => env

/-- A step that runs a query or a transaction needs a pool, and so does a request if something was
asked of a pool on its behalf. A user is not looked up under an id or an email that none can
have. -/
def Step.NeedsPool (trace : List Event) : Step → Prop
  | .setEnvironment _ | .setWall _ | .resetPool | .poolError _ => False
  | .findById id => ∃ text, id.text = .ok text ∧ Database.isUuid text = true
  | .findByEmail email => ∃ normal, User.normalEmail email = .ok normal
  | .handle _ => ∃ e ∈ trace, e.Asks
  | .getPool | .query _ | .transaction .. | .isPoolHealthy | .findGroupsFor _ | .findRolesFor _
  | .findPermissionsFor _ | .issue _ | .rotate .. | .revoke .. | .revokeAllFor _ => True

structure Stepped (d : Deployment) (s : Settings) (t : Step) (trace : List Event)
    (db : Database) : Prop where
  environment : db.environment = t.environment d.database.environment
  made : t.NeedsPool trace → d.database.pool = none → newPools trace = [.ofSettings s]
  kept : ¬ (t.NeedsPool trace ∧ d.database.pool = none) → newPools trace = []
  cached : db.pool.isSome = true ↔
    t ≠ .resetPool ∧ (t.NeedsPool trace ∨ d.database.pool.isSome = true)

lemma stepped_of_moves {s : Settings} {asked : Bool} {db : Database} {events : List Event}
    (h : Database.Moves s asked (d.ready script) db events)
    (hneeds : asked = true ↔ t.NeedsPool events) (hreset : t ≠ .resetPool)
    (henv : t.environment d.database.environment = d.database.environment) :
    d.Stepped s t events db := by
  have hpool : (d.ready script).pool = d.database.pool := rfl
  have hmade := h.made
  have hcached := h.pool
  rw [hpool] at hmade hcached
  refine ⟨h.environment.trans henv.symm, fun hn hp => ?_, fun hn => ?_, ?_⟩
  · rw [hmade, hneeds.2 hn, hp]
    rfl
  · rw [hmade, if_neg]
    simpa [← hneeds] using hn
  · rw [hcached, ← hneeds]
    cases asked <;> simp [hreset]

lemma trace_of_moves {s : Settings} {asked : Bool} {db : Database} {events : List Event}
    (h : Database.Moves s asked (d.ready script) db events) : db.trace.reverse = events := by
  rw [h.trace]
  simp [ready]

lemma stepped_action {x : Database.Action Value} {s : Settings} {asked : Bool}
    (hx : x.Moves asked) (hs : Settings.load d.database.environment = .ok s)
    (hneeds : ∀ trace, asked = true ↔ t.NeedsPool trace) (hreset : t ≠ .resetPool)
    (henv : t.environment d.database.environment = d.database.environment) :
    d.Stepped s t (x.bare (d.ready script)).2.trace.reverse (x.bare (d.ready script)).2 := by
  obtain ⟨events, hm⟩ := hx s (d.ready script) hs
  rw [trace_of_moves hm]
  exact stepped_of_moves hm (hneeds events) hreset henv

lemma stepped_needing {x : Database.Action Value} {s : Settings} (hx : x.Moves true)
    (hs : Settings.load d.database.environment = .ok s) (hneeds : ∀ trace, t.NeedsPool trace) :
    d.Stepped s t (x.bare (d.ready script)).2.trace.reverse (x.bare (d.ready script)).2 := by
  refine stepped_action hx hs (fun trace => iff_of_true rfl (hneeds trace)) ?_ ?_
  · rintro rfl
    exact hneeds []
  · cases t with
    | setEnvironment env => exact (hneeds []).elim
    | _ => rfl

lemma stepped_getPool {s : Settings} (hs : Settings.load d.database.environment = .ok s)
    (script : Script) :
    d.Stepped s .getPool (d.step script .getPool).1.trace (d.step script .getPool).2.database := by
  have hdatabase : (d.step script .getPool).2.database =
      (Database.ensurePool.bare (d.ready script)).2 :=
    (Database.map_run (fun _ => Value.undefined) Database.ensurePool (d.ready script)).2
  have htrace : (d.step script .getPool).1.trace =
      (d.step script .getPool).2.database.trace.reverse := rfl
  rw [htrace, hdatabase]
  have hpool := Database.pooled_ensurePool (d.ready script)
  generalize Database.ensurePool.bare (d.ready script) = p at hpool
  cases hpool with
  | @kept c hc =>
    have hc : d.database.pool = some c := hc
    exact ⟨rfl, fun _ hn => by simp [hc] at hn, fun _ => rfl, by simp [Step.NeedsPool, ready, hc]⟩
  | @made s' hn hs' =>
    obtain rfl := Except.ok.inj (hs.symm.trans hs')
    exact ⟨rfl, fun _ _ => rfl, fun h => absurd ⟨trivial, hn⟩ h, by simp [Step.NeedsPool]⟩
  | @failed f hn hf =>
    have hf : Settings.load d.database.environment = .error f := hf
    simp [hs] at hf

lemma stepped_handle {s : Settings} (hs : Settings.load d.database.environment = .ok s)
    (script : Script) (r : Request) :
    d.Stepped s (.handle r) (d.step script (.handle r)).1.trace
      (d.step script (.handle r)).2.database := by
  have hm : ∃ asked events, Database.Moves s asked (d.ready script)
      (d.step script (.handle r)).2.database events := by
    change ∃ asked events, Database.Moves s asked (d.ready script)
      (({ d with database := d.ready script } : Deployment).handle r).state.database events
    rw [handle]
    cases ({ d with database := d.ready script } : Deployment).currentApi with
    | error f => exact ⟨false, [], .refl s _⟩
    | ok api => exact Database.roams_program _ s (d.ready script) hs
  obtain ⟨asked, events, hm⟩ := hm
  have htrace : (d.step script (.handle r)).1.trace = events := trace_of_moves hm
  rw [htrace]
  exact stepped_of_moves hm hm.asks (by simp) rfl

lemma stepped_step {s : Settings} (hs : Settings.load d.database.environment = .ok s)
    (script : Script) (t : Step) :
    d.Stepped s t (d.step script t).1.trace (d.step script t).2.database := by
  cases t with
  | setEnvironment _ | setWall _ =>
    refine ⟨rfl, False.elim, fun _ => rfl, ?_⟩
    change d.database.pool.isSome = true ↔ _ ∧ (False ∨ _)
    simp
  | resetPool =>
    refine ⟨rfl, False.elim, fun _ => rfl, ?_⟩
    change none.isSome = true ↔ _
    simp
  | poolError message =>
    exact stepped_action ((Database.rests_idleFailure message).map fun _ => Value.undefined) hs
      (fun _ => iff_of_false (by simp) id) (by simp) rfl
  | getPool => exact stepped_getPool hs script
  | handle r => exact stepped_handle hs script r
  | findById id =>
    by_cases h : ∃ text, id.text = .ok text ∧ Database.isUuid text = true
    · exact stepped_needing ((Database.moves_userById h).map _) hs fun _ => h
    · exact stepped_action ((Database.rests_userById h).map _) hs
        (fun _ => iff_of_false (by simp) h) (by simp) rfl
  | findByEmail email =>
    by_cases h : ∃ normal, User.normalEmail email = .ok normal
    · exact stepped_needing ((Database.moves_userByEmail h).map _) hs fun _ => h
    · exact stepped_action ((Database.rests_userByEmail h).map _) hs
        (fun _ => iff_of_false (by simp) h) (by simp) rfl
  | query q => exact stepped_needing ((Database.moves_query q).map _) hs fun _ => trivial
  | transaction qs failure =>
    exact stepped_needing ((Database.moves_transaction _).map _) hs fun _ => trivial
  | isPoolHealthy => exact stepped_needing (Database.moves_isHealthy.map _) hs fun _ => trivial
  | findGroupsFor _ | findRolesFor _ | findPermissionsFor _ =>
    exact stepped_needing ((Database.moves_grants _ _).map _) hs fun _ => trivial
  | issue userId => exact stepped_needing (Database.moves_issue userId) hs fun _ => trivial
  | rotate tokenId userId =>
    exact stepped_needing ((Database.moves_transaction _).map _) hs fun _ => trivial
  | revoke tokenId userId =>
    exact stepped_needing ((Database.moves_revoke _ _).map _) hs fun _ => trivial
  | revokeAllFor userId =>
    exact stepped_needing (((Database.moves_query _).map _).map _) hs fun _ => trivial

variable {ts : List (Script × Step)} {wall : Number}

def environmentAfter (env : Environment) (ts : List (Script × Step)) : Environment :=
  ts.foldl (fun env t => t.2.environment env) env

def NeedsPoolAt (d : Deployment) (ts : List (Script × Step)) (i : ℕ) : Prop :=
  ∃ script t report, ts[i]? = some (script, t) ∧ (d.run ts)[i]? = some report ∧
    t.NeedsPool report.trace

/-- An earlier step needed a pool, and none since then has reset it. -/
def PoolKeptAt (d : Deployment) (ts : List (Script × Step)) (i : ℕ) : Prop :=
  ∃ j < i, d.NeedsPoolAt ts j ∧ ∀ l, j < l → l < i → ∀ script, ts[l]? ≠ some (script, .resetPool)

lemma Step.Sets.environment {P : Environment → Prop} (h : t.Sets P) (henv : P env) :
    P (t.environment env) := by
  cases t with
  | setEnvironment env' => exact h
  | _ => exact henv

lemma after_succ {i : ℕ} {script : Script} {t : Step} (h : ts[i]? = some (script, t))
    (d : Deployment) : d.after (ts.take (i + 1)) = ((d.after (ts.take i)).step script t).2 := by
  obtain ⟨hi, ht⟩ := List.getElem?_eq_some_iff.1 h
  rw [List.take_succ_eq_append_getElem hi, ht, after, List.foldl_append]
  rfl

lemma environmentAfter_succ {i : ℕ} {script : Script} {t : Step}
    (h : ts[i]? = some (script, t)) (env : Environment) :
    environmentAfter env (ts.take (i + 1)) = t.environment (environmentAfter env (ts.take i)) := by
  obtain ⟨hi, ht⟩ := List.getElem?_eq_some_iff.1 h
  rw [List.take_succ_eq_append_getElem hi, ht, environmentAfter, List.foldl_append]
  rfl

lemma environmentAfter_of {P : Environment → Prop} (henv : P env) (hts : ∀ t ∈ ts, t.2.Sets P)
    (i : ℕ) : P (environmentAfter env (ts.take i)) := by
  induction ts generalizing env i with
  | nil =>
    rw [List.take_nil]
    exact henv
  | cons t ts ih =>
    cases i with
    | zero => exact henv
    | succ i =>
      rw [List.forall_mem_cons] at hts
      exact ih (hts.1.environment henv) hts.2 i

lemma needsPoolAt_iff {i : ℕ} {script : Script} {t : Step} {report : Report}
    (ht : ts[i]? = some (script, t)) (hr : (d.run ts)[i]? = some report) :
    d.NeedsPoolAt ts i ↔ t.NeedsPool report.trace := by
  constructor
  · rintro ⟨script', t', report', ht', hr', hn⟩
    obtain ⟨-, rfl⟩ := Prod.mk.inj (Option.some.inj (ht.symm.trans ht'))
    obtain rfl := Option.some.inj (hr.symm.trans hr')
    exact hn
  · intro hn
    exact ⟨script, t, report, ht, hr, hn⟩

lemma poolKeptAt_succ {i : ℕ} {script : Script} {t : Step} {report : Report}
    (ht : ts[i]? = some (script, t)) (hr : (d.run ts)[i]? = some report) :
    d.PoolKeptAt ts (i + 1) ↔
      t ≠ .resetPool ∧ (t.NeedsPool report.trace ∨ d.PoolKeptAt ts i) := by
  rw [← needsPoolAt_iff ht hr]
  constructor
  · rintro ⟨j, hj, hn, hno⟩
    rcases (Nat.lt_succ_iff.1 hj).lt_or_eq with hj | rfl
    · refine ⟨?_, .inr ⟨j, hj, hn, fun l hl hl' => hno l hl (Nat.lt_succ_of_lt hl')⟩⟩
      rintro rfl
      exact hno i hj (Nat.lt_succ_self i) script ht
    · refine ⟨?_, .inl hn⟩
      rintro rfl
      exact (needsPoolAt_iff ht hr).1 hn
  · rintro ⟨hreset, hn | ⟨j, hj, hn, hno⟩⟩
    · exact ⟨i, Nat.lt_succ_self i, hn, fun l hl hl' => absurd hl' (by omega)⟩
    · refine ⟨j, Nat.lt_succ_of_lt hj, hn, fun l hl hl' script' hl'' => ?_⟩
      rcases (Nat.lt_succ_iff.1 hl').lt_or_eq with hl' | rfl
      · exact hno l hl hl' script' hl''
      · exact hreset (Prod.mk.inj (Option.some.inj (ht.symm.trans hl''))).2

lemma pool_after (henv : d.database.environment.Loads) (hts : ∀ t ∈ ts, t.2.Sets Environment.Loads)
    (hpool : d.database.pool = none) {i : ℕ} (hi : i ≤ ts.length) :
    (d.after (ts.take i)).database.environment =
        environmentAfter d.database.environment (ts.take i) ∧
      ((d.after (ts.take i)).database.pool.isSome = true ↔ d.PoolKeptAt ts i) := by
  induction i with
  | zero => exact ⟨rfl, iff_of_false (by simp [after, hpool]) fun ⟨j, hj, _⟩ => by omega⟩
  | succ i ih =>
    obtain ⟨hienv, hipool⟩ := ih (Nat.le_of_succ_le hi)
    have ht : ts[i]? = some ((ts[i]).1, (ts[i]).2) := List.getElem?_eq_getElem hi
    have hr : (d.run ts)[i]? = some ((d.after (ts.take i)).step (ts[i]).1 (ts[i]).2).1 := by
      rw [getElem?_run, ht]
      rfl
    obtain ⟨s, hs⟩ := environmentAfter_of henv hts i
    rw [← hienv] at hs
    have hstep := stepped_step hs (ts[i]).1 (ts[i]).2
    rw [after_succ ht, environmentAfter_succ ht, poolKeptAt_succ ht hr, ← hipool, ← hienv]
    exact ⟨hstep.environment, hstep.cached⟩

lemma newPools_at (henv : d.database.environment.Loads) (hts : ∀ t ∈ ts, t.2.Sets Environment.Loads)
    (hpool : d.database.pool = none) {i : ℕ} {script : Script} {t : Step} {report : Report}
    (ht : ts[i]? = some (script, t)) (hr : (d.run ts)[i]? = some report) :
    (t.NeedsPool report.trace ∧ ¬ d.PoolKeptAt ts i → ∃ s,
      Settings.load (environmentAfter d.database.environment (ts.take i)) = .ok s ∧
        newPools report.trace = [.ofSettings s]) ∧
    (¬ (t.NeedsPool report.trace ∧ ¬ d.PoolKeptAt ts i) → newPools report.trace = []) := by
  obtain ⟨hienv, hipool⟩ := pool_after henv hts hpool (List.getElem?_eq_some_iff.1 ht).1.le
  obtain ⟨s, hs⟩ := environmentAfter_of henv hts i
  have hstep := stepped_step (hienv ▸ hs) script t
  have hreport : report = ((d.after (ts.take i)).step script t).1 := by
    rw [getElem?_run, ht] at hr
    exact (Option.some.inj hr).symm
  rw [hreport, ← hipool, Option.isSome_iff_ne_none, not_not]
  exact ⟨fun h => ⟨s, hs, hstep.made h.1 h.2⟩, hstep.kept⟩

def Step.isReset : Step → Bool
  | .resetPool => true
  | _ => false

lemma Stepped.newPools_length {s : Settings} {trace : List Event} {db : Database}
    (h : d.Stepped s t trace db) :
    (newPools trace).length + d.database.pool.isSome.toNat ≤
      t.isReset.toNat + db.pool.isSome.toNat := by
  -- A pool is made only where none is kept, and is kept then.
  by_cases hn : t.NeedsPool trace ∧ d.database.pool = none
  · have hreset : t ≠ .resetPool := by
      rintro rfl
      exact hn.1
    rw [h.made hn.1 hn.2, hn.2, h.cached.2 ⟨hreset, .inl hn.1⟩]
    simp
  · rw [h.kept hn]
    cases hp : d.database.pool.isSome with
    | false => simp
    | true =>
      cases t with
      | resetPool => simp [Step.isReset]
      | _ => simp [h.cached.2 ⟨nofun, .inr hp⟩]

lemma newPools_run (henv : d.database.environment.Loads)
    (hts : ∀ t ∈ ts, t.2.Sets Environment.Loads) :
    ((d.run ts).flatMap fun report => newPools report.trace).length +
      d.database.pool.isSome.toNat ≤ ts.countP (·.2.isReset) + 1 := by
  induction ts generalizing d with
  | nil => simpa [run] using Bool.toNat_le _
  | cons t ts ih =>
    rw [List.forall_mem_cons] at hts
    obtain ⟨s, hs⟩ := henv
    have hstep := stepped_step hs t.1 t.2
    have hrest := ih (hstep.environment ▸ hts.1.environment ⟨s, hs⟩) hts.2
    have hcount : (t :: ts).countP (·.2.isReset) =
        t.2.isReset.toNat + ts.countP (·.2.isReset) := by
      cases h : t.2.isReset <;> simp [h, Nat.add_comm]
    have hlength := hstep.newPools_length
    rw [run, List.flatMap_cons, List.length_append, hcount]
    omega

structure FirstBuilt (env : Environment) (ts : List (Script × Step)) (k : ℕ) (api : Api) :
    Prop where
  request : ∃ script r, ts[k]? = some (script, .handle r)
  built : buildApi (environmentAfter env (ts.take k)) = .ok api
  first : ∀ j < k, ∀ script r, ts[j]? = some (script, .handle r) →
    ∃ f, buildApi (environmentAfter env (ts.take j)) = .error f

lemma FirstBuilt.unique {k k' : ℕ} {api' : Api} (h : FirstBuilt env ts k api)
    (h' : FirstBuilt env ts k' api') : k = k' ∧ api = api' := by
  have hk : k = k' := by
    rcases lt_trichotomy k k' with hlt | heq | hlt
    · obtain ⟨script, r, hr⟩ := h.request
      obtain ⟨f, hf⟩ := h'.first k hlt script r hr
      cases h.built.symm.trans hf
    · exact heq
    · obtain ⟨script, r, hr⟩ := h'.request
      obtain ⟨f, hf⟩ := h.first k' hlt script r hr
      cases h'.built.symm.trans hf
  subst hk
  exact ⟨rfl, Except.ok.inj (h.built.symm.trans h'.built)⟩

def handled (d : Deployment) (api : Api) (script : Script) (r : Request) : Report :=
  let o := (api.handle d.moment (requestId (d.requests + 1)) r).run Database.stores (d.ready script)
  ⟨o.result.map .response, o.lines, o.state.trace.reverse⟩

lemma step_request (d : Deployment) (script : Script) (r : Request) :
    let o := ({ d with database := d.ready script } : Deployment).handle r
    d.step script (.handle r) =
      (⟨o.result.map .response, o.lines, o.state.database.trace.reverse⟩, o.state) := rfl

lemma step_of_currentApi (h : d.currentApi = .ok api) (script : Script) (r : Request) :
    (d.step script (.handle r)).1 = d.handled api script r ∧
      (d.step script (.handle r)).2.api = some api := by
  have h' : ({ d with database := d.ready script } : Deployment).currentApi = .ok api := h
  rw [step_request, handle, h']
  exact ⟨rfl, rfl⟩

lemma step_of_no_api {f : Failure} (h : d.currentApi = .error f) (script : Script) (r : Request) :
    d.step script (.handle r) = (⟨.error f, [], []⟩, { d with database := d.ready script }) := by
  have h' : ({ d with database := d.ready script } : Deployment).currentApi = .error f := h
  rw [step_request, handle, h']
  rfl

lemma step_api (d : Deployment) (script : Script) {t : Step} (ht : ∀ r, t ≠ .handle r) :
    (d.step script t).2.api = d.api := by
  cases t with
  | handle r => exact absurd rfl (ht r)
  | _ => rfl

/-- What a deployment holds of its interface: the one that was built first, if any could be. -/
def Holds (env : Environment) (ts : List (Script × Step)) (i : ℕ) (held : Option Api) : Prop :=
  (∃ k < i, ∃ api, FirstBuilt env ts k api ∧ held = some api) ∨
    held = none ∧ ∀ j < i, ∀ script r, ts[j]? = some (script, .handle r) →
      ∃ f, buildApi (environmentAfter env (ts.take j)) = .error f

lemma Holds.step {i : ℕ} (h : Holds env ts i d.api)
    (hd : d.database.environment = environmentAfter env (ts.take i))
    (ht : ts[i]? = some (script, t)) : Holds env ts (i + 1) (d.step script t).2.api := by
  by_cases hr : ∃ r, t = .handle r
  swap
  · -- Only requests build the interface.
    have hapi : (d.step script t).2.api = d.api := step_api d script fun r hr' => hr ⟨r, hr'⟩
    rw [hapi]
    obtain ⟨k, hk, api, hfirst, hheld⟩ | ⟨hnone, herror⟩ := h
    · exact .inl ⟨k, Nat.lt_succ_of_lt hk, api, hfirst, hheld⟩
    · refine .inr ⟨hnone, fun j hj script' r hj' => ?_⟩
      rcases (Nat.lt_succ_iff.1 hj).lt_or_eq with hj | rfl
      · exact herror j hj script' r hj'
      · exact absurd ⟨r, (Prod.mk.inj (Option.some.inj (ht.symm.trans hj'))).2⟩ hr
  obtain ⟨r, rfl⟩ := hr
  obtain ⟨k, hk, api, hfirst, hheld⟩ | ⟨hnone, herror⟩ := h
  · have hcurrent : d.currentApi = .ok api := by rw [currentApi, hheld]
    exact .inl ⟨k, Nat.lt_succ_of_lt hk, api, hfirst, (step_of_currentApi hcurrent script r).2⟩
  · have hcurrent : d.currentApi = buildApi (environmentAfter env (ts.take i)) := by
      rw [currentApi, hnone, hd]
    cases hb : buildApi (environmentAfter env (ts.take i)) with
    | ok api =>
      exact .inl ⟨i, Nat.lt_succ_self i, api, ⟨⟨script, r, ht⟩, hb, herror⟩,
        (step_of_currentApi (hcurrent.trans hb) script r).2⟩
    | error f =>
      rw [step_of_no_api (hcurrent.trans hb)]
      refine .inr ⟨hnone, fun j hj script' r' hj' => ?_⟩
      rcases (Nat.lt_succ_iff.1 hj).lt_or_eq with hj | rfl
      · exact herror j hj script' r' hj'
      · exact ⟨f, hb⟩

lemma holds_after (henv : d.database.environment.Loads) (hts : ∀ t ∈ ts, t.2.Sets Environment.Loads)
    (hpool : d.database.pool = none) (hapi : d.api = none) {i : ℕ} (hi : i ≤ ts.length) :
    Holds d.database.environment ts i (d.after (ts.take i)).api := by
  induction i with
  | zero => exact .inr ⟨hapi, fun j hj => absurd hj (Nat.not_lt_zero j)⟩
  | succ i ih =>
    have ht : ts[i]? = some ((ts[i]).1, (ts[i]).2) := List.getElem?_eq_getElem hi
    rw [after_succ ht]
    exact (ih (Nat.le_of_succ_le hi)).step
      (pool_after henv hts hpool (Nat.le_of_succ_le hi)).1 ht

lemma Holds.current {i k : ℕ} (h : Holds env ts i d.api)
    (hd : d.database.environment = environmentAfter env (ts.take i))
    (hk : FirstBuilt env ts k api) (hi : k ≤ i) : d.currentApi = .ok api := by
  obtain ⟨k', -, api', hfirst, hheld⟩ | ⟨hnone, herror⟩ := h
  · obtain ⟨-, rfl⟩ := hk.unique hfirst
    rw [currentApi, hheld]
  · rcases hi.lt_or_eq with hi | rfl
    · obtain ⟨script, r, hr⟩ := hk.request
      obtain ⟨f, hf⟩ := herror k hi script r hr
      cases hk.built.symm.trans hf
    · rw [currentApi, hnone, hd]
      exact hk.built

lemma Holds.current_error {i : ℕ} {s : Settings} {f : Failure} (h : Holds env ts i d.api)
    (hd : d.database.environment = environmentAfter env (ts.take i))
    (herror : ∀ j < i, ∀ script r, ts[j]? = some (script, .handle r) →
      ∃ f, buildApi (environmentAfter env (ts.take j)) = .error f)
    (hs : Settings.load (environmentAfter env (ts.take i)) = .ok s) (hf : s.validate = .error f) :
    d.currentApi = .error f := by
  obtain ⟨k, hk, api, hfirst, -⟩ | ⟨hnone, -⟩ := h
  · obtain ⟨script, r, hr⟩ := hfirst.request
    obtain ⟨g, hg⟩ := herror k hk script r hr
    cases hfirst.built.symm.trans hg
  · rw [currentApi, hnone, hd, buildApi]
    simp only [hs, hf, bind, Except.bind]

end Deployment

theorem Deployment.built_once (env : Environment) (wall : Number)
    (ts : List (Deployment.Script × Deployment.Step)) (henv : env.Loads)
    (hts : ∀ t ∈ ts, t.2.Sets Environment.Loads) :
    let d := start env wall
    (∀ i script t report, ts[i]? = some (script, t) → (d.run ts)[i]? = some report →
      (t.NeedsPool report.trace ∧ ¬ d.PoolKeptAt ts i → ∃ s,
        Settings.load (environmentAfter env (ts.take i)) = .ok s ∧
          Database.newPools report.trace = [.ofSettings s]) ∧
      (¬ (t.NeedsPool report.trace ∧ ¬ d.PoolKeptAt ts i) →
        Database.newPools report.trace = [])) ∧
    ((d.run ts).flatMap fun report => Database.newPools report.trace).length ≤
      1 + ts.countP (·.2.isReset) ∧
    (∀ k api, FirstBuilt env ts k api → Reads (environmentAfter env (ts.take k)) api ∧
      ∀ i script r, k ≤ i → ts[i]? = some (script, .handle r) →
        (d.run ts)[i]? = some ((d.after (ts.take i)).handled api script r)) ∧
    ∀ i script r s f, ts[i]? = some (script, .handle r) →
      (∀ j < i, ∀ script r, ts[j]? = some (script, .handle r) →
        ∃ f, buildApi (environmentAfter env (ts.take j)) = .error f) →
      Settings.load (environmentAfter env (ts.take i)) = .ok s → s.validate = .error f →
      (d.run ts)[i]? = some ⟨.error f, [], []⟩ ∧ d.after (ts.take (i + 1)) =
        { d.after (ts.take i) with database := (d.after (ts.take i)).ready script } := by
  intro d
  have hheld {i : ℕ} {script : Script} {r : Request} (ht : ts[i]? = some (script, .handle r)) :
      Holds env ts i (d.after (ts.take i)).api ∧
        (d.after (ts.take i)).database.environment = environmentAfter env (ts.take i) := by
    have hi := (List.getElem?_eq_some_iff.1 ht).1.le
    exact ⟨holds_after (d := d) henv hts rfl rfl hi, (pool_after (d := d) henv hts rfl hi).1⟩
  have hrun {i : ℕ} {script : Script} {r : Request} (ht : ts[i]? = some (script, .handle r)) :
      (d.run ts)[i]? = some ((d.after (ts.take i)).step script (.handle r)).1 := by
    rw [getElem?_run, ht]
    rfl
  refine ⟨fun i script t report => newPools_at henv hts rfl, ?_, ?_, ?_⟩
  · have h := newPools_run (d := d) henv hts
    omega
  · intro k api hk
    refine ⟨reads_of_buildApi hk.built, fun i script r hi ht => ?_⟩
    obtain ⟨hholds, hd⟩ := hheld ht
    rw [hrun ht, (step_of_currentApi (hholds.current hd hk hi) script r).1]
  · intro i script r s f ht herror hs hf
    obtain ⟨hholds, hd⟩ := hheld ht
    rw [hrun ht, after_succ ht, step_of_no_api (hholds.current_error hd herror hs hf)]
    exact ⟨rfl, rfl⟩

namespace Deployment

def withSecret (secret : String) : Environment :=
  [("DB_HOST", .str "db"), ("DB_NAME", .str "app"), ("DB_USER", .str "app"),
    ("TOKENS_SECRET_KEY", .str secret)]

def loadedWith (secret : String) : Settings :=
  ⟨.str "db", .finite 5432, .str "app", .str "app", .str "", false, .str secret,
    .str "wishlist-backend", .finite 3600, .finite 2592000, .str "Bearer", .str "development"⟩

lemma load_withSecret (secret : String) :
    Settings.load (withSecret secret) = .ok (loadedWith secret) := by
  have hnumbers : leadingInteger "5432".toList = .finite 5432 ∧
      leadingInteger "3600".toList = .finite 3600 ∧
      leadingInteger "2592000".toList = .finite 2592000 := by decide +kernel
  have hsecret : (withSecret secret).valueOr "TOKENS_SECRET_KEY" "" = .str secret := by
    change (if (Value.str secret).truthy then Value.str secret else .str "") = _
    by_cases h : secret = ""
    · rw [h]
      rfl
    · simp [Value.truthy, h]
  refine Settings.load_eq_ok.2 ⟨.finite 5432, .finite 3600, .finite 2592000, ?_, ?_, ?_, ?_⟩
  · exact congrArg Except.ok hnumbers.1
  · exact congrArg Except.ok hnumbers.2.1
  · exact congrArg Except.ok hnumbers.2.2
  · rw [hsecret]
    rfl

lemma loads_withSecret (secret : String) : (withSecret secret).Loads := ⟨_, load_withSecret secret⟩

lemma validate_withoutSecret : (loadedWith "").validate =
    .error (.error "Missing required environment variables: tokensSecretKey") := rfl

lemma validate_withSecret {secret : String} (h : secret ≠ "") :
    (loadedWith secret).validate = .ok () := by
  have haccess : (Number.finite 3600).isPositiveInteger = true := by decide +kernel
  have hrefresh : (Number.finite 2592000).isPositiveInteger = true := by decide +kernel
  refine Settings.validate_eq_ok.2
    ⟨⟨rfl, rfl, rfl, ?_⟩, haccess, hrefresh, "Bearer", rfl, by decide⟩
  simpa [loadedWith, Value.truthy] using h

lemma buildApi_withSecret {secret : String} (h : secret ≠ "") : ∃ api,
    buildApi (withSecret secret) = .ok api ∧ api.tokens.codec.secret = .str secret := by
  have ht : (loadedWith secret).secret.truthy = true := by
    simpa [loadedWith, Value.truthy] using h
  exact ⟨⟨_, .str "Bearer"⟩, buildApi_eq_ok.2 ⟨_, load_withSecret secret, validate_withSecret h,
    make?_auth ht, rfl⟩, rfl⟩

lemma buildApi_withoutSecret : buildApi (withSecret "") =
    .error (.error "Missing required environment variables: tokensSecretKey") := by
  rw [buildApi, load_withSecret]
  rfl

def healthRequest : Request := ⟨.undefined, .str "GET", .str "/", .undefined, false⟩

def quietly (t : Step) : Script × Step := (⟨[], none⟩, t)

/-- Without a secret at first, and with another one at last. -/
def secretRun : List (Script × Step) :=
  [quietly (.handle healthRequest), quietly (.setEnvironment (withSecret "first")),
    quietly (.handle healthRequest), quietly (.setEnvironment (withSecret "second")),
    quietly .resetPool, quietly (.handle healthRequest)]

end Deployment

open Deployment in
theorem Deployment.built_once_secret :
    let d := start (withSecret "") (.finite 0)
    (d.run secretRun)[0]? = some ⟨.error
      (.error "Missing required environment variables: tokensSecretKey"), [], []⟩ ∧
    ((d.run secretRun).flatMap fun report => Database.newPools report.trace).length ≤ 2 ∧
    ∃ api, api.tokens.codec.secret = .str "first" ∧
      (d.run secretRun)[2]? = some ((d.after (secretRun.take 2)).handled api ⟨[], none⟩
        healthRequest) ∧
      (d.run secretRun)[5]? = some ((d.after (secretRun.take 5)).handled api ⟨[], none⟩
        healthRequest) := by
  intro d
  have hts : ∀ t ∈ secretRun, t.2.Sets Environment.Loads := by
    simp [secretRun, quietly, Step.Sets, loads_withSecret]
  obtain ⟨-, hcount, hbuilt, herror⟩ := built_once (withSecret "") (.finite 0) secretRun
    (loads_withSecret "") hts
  have hne : "first" ≠ "" := by decide
  obtain ⟨api, hapi, hsecret⟩ := buildApi_withSecret hne
  have hfirst : FirstBuilt (withSecret "") secretRun 2 api := by
    refine ⟨⟨_, _, rfl⟩, hapi, fun j hj script r hr => ?_⟩
    interval_cases j
    · exact ⟨_, buildApi_withoutSecret⟩
    · cases hr
  exact ⟨(herror 0 _ _ _ _ rfl (by simp) (load_withSecret "") validate_withoutSecret).1, hcount,
    api, hsecret, (hbuilt 2 api hfirst).2 2 _ _ le_rfl rfl,
    (hbuilt 2 api hfirst).2 5 _ _ (by decide) rfl⟩

end AuthGate
