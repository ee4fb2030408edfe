import AuthGate.Database.Deployment
import AuthGate.Proofs.Database.Transaction
import AuthGate.Proofs.Service.Gate
import AuthGate.Proofs.Service.Screening
import AuthGate.Proofs.Session.Consumption

namespace AuthGate

open Program

namespace Status

lemma ofValue_eq_confirmed {v : Value} (h : ofValue v = .confirmed) : v = .str "CONFIRMED" := by
  cases v with
  | str text =>
    rw [ofValue] at h
    cases ho : ofLabel? text with
    | none => simp [ho] at h
    | some status =>
      have hlabel := List.find?_some ho
      simp only [ho, Option.getD_some] at h
      simp only [h, label, decide_eq_true_eq] at hlabel
      rw [hlabel]
  | _ => cases h

lemma ofValue_label (s : Status) : ofValue (.str s.label) = s := by
  cases s <;> rfl

end Status

lemma unconfirmed_error (f : Failure) : Unconfirmed (.error f) := by
  intro u h
  cases h

lemma unconfirmed_some {user : User} (h : user.status ≠ .confirmed) :
    Unconfirmed (.ok (some user)) := by
  intro u hu
  obtain rfl := Option.some.inj (Except.ok.inj hu)
  exact h

namespace Memory

variable {s : Memory} {l : Lookup}

def found (s : Memory) : Lookup → Except Failure (Option User)
  | .byEmail email => s.userByEmail email
  | .byId id => .ok (s.users.find? (·.id.same (.str id)))

lemma lookup_cases (l : Lookup) (s : Memory) :
    ((∃ f, (l.program.run stores s).result = .error f) ∨
      (l.program.run stores s).result = s.found l) ∧
    (l.program.run stores s).state.records = s.records := by
  cases l with
  | byEmail email =>
    rw [Lookup.program, run_ask]
    refine ⟨?_, findByEmail_records email s⟩
    obtain ⟨name, text, hr, -⟩ | ⟨hr, -⟩ := stores_cases (.findByEmail email) s
    · exact .inl ⟨_, hr⟩
    · exact .inr hr
  | byId id =>
    rw [Lookup.program, run_ask]
    obtain ⟨hs, ⟨name, text, hr⟩ | hr⟩ := findById_cases id s
    · exact ⟨.inl ⟨_, hr⟩, hs⟩
    · exact ⟨.inr hr, hs⟩

lemma found_journal (l : Lookup) (s : Memory) (calls : List Call) :
    found { s with journal := calls } l = s.found l := by
  cases l <;> rfl

end Memory

namespace Scenario

variable {x : Scenario} {t : Step} {l : Lookup} {row : Record}

lemma adjust_of_looksUp {api : Api} {m : Moment} (h : t.LooksUp api m l) :
    (x.adjust t).api = x.api ∧ (x.adjust t).moment = x.moment ∧
      (x.adjust t).memory = x.memory := by
  cases h <;> exact ⟨rfl, rfl, rfl⟩

lemma step_of_unconfirmed (h : t.LooksUp x.api x.moment l)
    (hfound : x.memory.found l = .ok (some (User.ofRow row)))
    (hrow : row.get "status" ≠ .str "CONFIRMED") :
    Rejects (x.step t).1.result ∧ (x.step t).2.memory.records = x.memory.records := by
  obtain ⟨ha, hm, hs⟩ := adjust_of_looksUp (x := x) h
  have hscreens := screens_program (x := x.adjust t) (ha ▸ hm ▸ h)
    (AuthGate.requestId (x.adjust t).requests)
  have hfound' : (x.adjust t).start.found l = .ok (some (User.ofRow row)) := by
    rw [start, Memory.found_journal, hs, hfound]
  obtain ⟨hlookup, hrecords⟩ := Memory.lookup_cases l (x.adjust t).start
  have hunconfirmed : Unconfirmed (l.program.run Memory.stores (x.adjust t).start).result := by
    obtain ⟨f, hr⟩ | hr := hlookup
    · rw [hr]
      exact unconfirmed_error f
    · rw [hr, hfound']
      exact unconfirmed_some fun hc => hrow (Status.ofValue_eq_confirmed hc)
  obtain ⟨hrejects, hstate⟩ := hscreens.run hunconfirmed
  refine ⟨hrejects, ?_⟩
  change ((_ : Program Answer).run Memory.stores (x.adjust t).start).state.records = _
  rw [hstate, hrecords, start, hs]

lemma getElem?_run (x : Scenario) (ts : List Step) (i : ℕ) :
    (x.run ts)[i]? = ts[i]?.map fun t => ((x.after (ts.take i)).step t).1 := by
  induction ts generalizing x i with
  | nil => simp [run]
  | cons t ts ih =>
    cases i with
    | zero => rfl
    | succ i => exact ih _ i

end Scenario

lemma status_ofRow_userFields {row : Value} {fields : Record} (h : userFields row = .ok fields) :
    (User.ofRow fields).status = Status.ofValue (row.field "status") := by
  obtain ⟨id, -, h⟩ := Except.bind_eq_ok.1 h
  obtain rfl := Except.ok.inj h
  exact Status.ofValue_label _

namespace Database

variable {α β : Type} {db db' db'' : Database} {row : Value} {rows : Rows}
  {rest : List (Except Failure Rows)}

inductive Event.LooksUp : Event → Prop where
  | newPool (config : PoolConfig) : LooksUp (.newPool config)
  | onError : LooksUp .onError
  | user (column : String) (key : Value) : LooksUp (.query (userBy column key))

def OnlyLooks (db db' : Database) : Prop :=
  ∃ events, db'.trace = events ++ db.trace ∧ ∀ e ∈ events, e.LooksUp

lemma OnlyLooks.refl (db : Database) : OnlyLooks db db := ⟨[], rfl, by simp⟩

lemma ensurePool_looks (db : Database) :
    OnlyLooks db (ensurePool db).state ∧ (ensurePool db).state.outcomes = db.outcomes := by
  rw [ensurePool]
  split
  · exact ⟨.refl db, rfl⟩
  · split
    · exact ⟨.refl db, rfl⟩
    · exact ⟨⟨[.onError, .newPool _], rfl, by simp [Event.LooksUp.onError, Event.LooksUp.newPool]⟩,
        rfl⟩

lemma query_userBy (ho : db.outcomes = .ok (row :: rows) :: rest) (column : String) (key : Value) :
    ((∃ f, (query (userBy column key) db).result = .error f) ∨
      (query (userBy column key) db).result = .ok (row :: rows)) ∧
    OnlyLooks db (query (userBy column key) db).state := by
  -- Making a pool leaves its own events in the trace, but uses up no outcome.
  obtain ⟨⟨events, htrace, hlooks⟩, houtcomes⟩ := ensurePool_looks db
  rw [query]
  cases hp : (ensurePool db).result with
  | error f =>
    obtain ⟨hr, hs⟩ := bind_of_error hp fun _ => (do mark (.query (userBy column key)); nextOutcome)
    exact ⟨.inl ⟨f, hr⟩, events, by rw [hs, htrace], hlooks⟩
  | ok u =>
    obtain ⟨hr, hs⟩ := bind_of_ok hp fun _ => (do mark (.query (userBy column key)); nextOutcome)
    have hnext : (do mark (.query (userBy column key)); nextOutcome : Action Rows)
        (ensurePool db).state = ⟨.ok (row :: rows), [], { (ensurePool db).state with
          trace := .query (userBy column key) :: (ensurePool db).state.trace
          outcomes := rest }⟩ := by
      change Action.bind (mark _) (fun _ => nextOutcome) _ = _
      simp only [Action.bind, mark, Action.change, nextOutcome, record, houtcomes, ho,
        List.append_nil]
    rw [hnext] at hr hs
    refine ⟨.inr hr, .query (userBy column key) :: events, ?_, ?_⟩
    · rw [hs, List.cons_append, ← htrace]
    · exact List.forall_mem_cons.2 ⟨.user column key, hlooks⟩

lemma fetchUser_unconfirmed (ho : db.outcomes = .ok (row :: rows) :: rest)
    (hrow : row.field "status" ≠ .str "CONFIRMED") (column : String) (key : Value) :
    Unconfirmed ((fetchUser (userBy column key) db).result.map (·.map User.ofRow)) ∧
      OnlyLooks db (fetchUser (userBy column key) db).state := by
  obtain ⟨⟨f, hq⟩ | hq, hlooks⟩ := query_userBy ho column key
  · obtain ⟨hr, hs⟩ := bind_of_error hq fun rows => .ofResult (firstUser rows)
    rw [fetchUser, hr, hs]
    exact ⟨unconfirmed_error f, hlooks⟩
  · obtain ⟨hr, hs⟩ := bind_of_ok hq fun rows => .ofResult (firstUser rows)
    rw [fetchUser, hr, hs]
    refine ⟨?_, hlooks⟩
    change Unconfirmed (((userFields row).map some).map _)
    cases hf : userFields row with
    | error f => exact unconfirmed_error f
    | ok fields =>
      refine unconfirmed_some fun hc => hrow (Status.ofValue_eq_confirmed ?_)
      rw [← status_ofRow_userFields hf, hc]

lemma unconfirmed_none : Unconfirmed (.ok none) := by
  intro u h
  cases h

lemma userByEmail_unconfirmed (ho : db.outcomes = .ok (row :: rows) :: rest)
    (hrow : row.field "status" ≠ .str "CONFIRMED") (email : Value) :
    Unconfirmed ((userByEmail email db).result.map (·.map User.ofRow)) ∧
      OnlyLooks db (userByEmail email db).state := by
  rw [userByEmail]
  cases User.normalEmail email with
  | error f => exact ⟨unconfirmed_error f, .refl db⟩
  | ok normal =>
    have hnormal : (Action.ofResult (.ok normal) db).result = .ok normal := rfl
    obtain ⟨hr, hs⟩ := bind_of_ok hnormal fun normal => fetchUser (userBy "email" (.str normal))
    rw [hr, hs]
    exact fetchUser_unconfirmed ho hrow _ _

lemma userById_unconfirmed (ho : db.outcomes = .ok (row :: rows) :: rest)
    (hrow : row.field "status" ≠ .str "CONFIRMED") (id : String) :
    Unconfirmed ((userById (.str id) db).result.map (·.map User.ofRow)) ∧
      OnlyLooks db (userById (.str id) db).state := by
  have htext : (Action.ofResult (Value.str id).text db).result = .ok id := rfl
  obtain ⟨hr, hs⟩ := bind_of_ok htext fun text =>
    if isUuid text then fetchUser (userBy "id" (.str id)) else return none
  rw [userById, hr, hs]
  split_ifs
  · exact fetchUser_unconfirmed ho hrow _ _
  · exact ⟨unconfirmed_none, .refl db⟩

lemma lookup_unconfirmed (ho : db.outcomes = .ok (row :: rows) :: rest)
    (hrow : row.field "status" ≠ .str "CONFIRMED") (l : Lookup) :
    Unconfirmed (l.program.run stores db).result ∧
      OnlyLooks db (l.program.run stores db).state := by
  cases l with
  | byEmail email =>
    obtain ⟨hr, hs⟩ := map_run (Option.map User.ofRow) (userByEmail email) db
    rw [Lookup.program, run_ask, stores, answer, hr, hs]
    exact userByEmail_unconfirmed ho hrow email
  | byId id =>
    obtain ⟨hr, hs⟩ := map_run (Option.map User.ofRow) (userById (.str id)) db
    rw [Lookup.program, run_ask, stores, answer, hr, hs]
    exact userById_unconfirmed ho hrow id

end Database

namespace Deployment

variable {d : Deployment} {script : Script} {r : Request} {api : Api} {l : Lookup} {row : Value}
  {rows : Rows} {rest : List (Except Failure Rows)}

def after (d : Deployment) (ts : List (Script × Step)) : Deployment :=
  ts.foldl (fun d t => (d.step t.1 t.2).2) d

lemma getElem?_run (d : Deployment) (ts : List (Script × Step)) (i : ℕ) :
    (d.run ts)[i]? = ts[i]?.map fun t => ((d.after (ts.take i)).step t.1 t.2).1 := by
  induction ts generalizing d i with
  | nil => simp [run]
  | cons t ts ih =>
    cases i with
    | zero => rfl
    | succ i => exact ih _ i

def ready (d : Deployment) (script : Script) : Database :=
  { d.database with
    outcomes := script.outcomes, connectFailure := script.connectFailure, trace := [] }

lemma step_handle (ha : d.currentApi = .ok api) (script : Script) (r : Request) :
    let o := (api.handle d.moment (requestId (d.requests + 1)) r).run Database.stores
      (d.ready script)
    (d.step script (.handle r)).1.result = o.result.map .response ∧
      (d.step script (.handle r)).1.trace = o.state.trace.reverse := by
  have ha' : ({ d with database := d.ready script } : Deployment).currentApi = .ok api := ha
  change ((({ d with database := d.ready script } : Deployment).handle r).result.map _ = _ ∧
    ((({ d with database := d.ready script } : Deployment).handle r).state.database.trace.reverse) =
      _)
  rw [handle, ha']
  exact ⟨rfl, rfl⟩

lemma handle_of_unconfirmed (ha : d.currentApi = .ok api) (hr : r.LooksUp api d.moment l)
    (ho : script.outcomes = .ok (row :: rows) :: rest)
    (hrow : row.field "status" ≠ .str "CONFIRMED") :
    (∀ response, (d.step script (.handle r)).1.result = .ok (.response response) →
      response.status ≠ 200) ∧ ∀ e ∈ (d.step script (.handle r)).1.trace, e.LooksUp := by
  obtain ⟨hstep, htrace⟩ := step_handle ha script r
  have ho' : (d.ready script).outcomes = .ok (row :: rows) :: rest := ho
  obtain ⟨hunconfirmed, events, hevents, hlooks⟩ := Database.lookup_unconfirmed ho' hrow l
  obtain ⟨hresult, hstate⟩ :=
    (Api.screens_handle (requestId (d.requests + 1)) hr).run hunconfirmed
  rw [hstep, htrace, hstate, hevents]
  refine ⟨fun response h => ?_, fun e he => hlooks e (by simpa [ready] using he)⟩
  obtain ⟨response', hr', h⟩ := Except.map_eq_ok.1 h
  obtain rfl := Answer.response.inj h
  exact hresult _ hr'

end Deployment

theorem only_confirmed_act :
    (∀ (x : Scenario) (ts : List Scenario.Step) i t l row, ts[i]? = some t →
      let y := x.after (ts.take i)
      t.LooksUp y.api y.moment l → y.memory.found l = .ok (some (User.ofRow row)) →
      row.get "status" ≠ .str "CONFIRMED" →
      (∃ report, (x.run ts)[i]? = some report ∧ Scenario.Rejects report.result) ∧
        (x.after (ts.take (i + 1))).memory.records = y.memory.records) ∧
    (∀ (x : Scenario) t l requestId (db : Database) row rows rest, t.LooksUp x.api x.moment l →
      db.outcomes = .ok (row :: rows) :: rest → row.field "status" ≠ .str "CONFIRMED" →
      let o := (x.program requestId t).run Database.stores db
      Scenario.Rejects o.result ∧ db.OnlyLooks o.state) ∧
    ∀ (d : Deployment) (ts : List (Deployment.Script × Deployment.Step)) i script r api l row rows
      rest, ts[i]? = some (script, .handle r) →
      let e := d.after (ts.take i)
      e.currentApi = .ok api → r.LooksUp api e.moment l →
      script.outcomes = .ok (row :: rows) :: rest → row.field "status" ≠ .str "CONFIRMED" →
      ∃ report, (d.run ts)[i]? = some report ∧
        (∀ response, report.result = .ok (.response response) → response.status ≠ 200) ∧
        ∀ event ∈ report.trace, event.LooksUp := by
  refine ⟨?_, ?_, ?_⟩
  · intro x ts i t l row ht y hlooks hfound hrow
    obtain ⟨hrejects, hrecords⟩ := Scenario.step_of_unconfirmed hlooks hfound hrow
    refine ⟨⟨_, by rw [Scenario.getElem?_run, ht]; rfl, hrejects⟩, ?_⟩
    obtain ⟨hi, rfl⟩ := List.getElem?_eq_some_iff.1 ht
    rw [Scenario.after_succ hi, hrecords]
  · intro x t l requestId db row rows rest hlooks ho hrow
    obtain ⟨hunconfirmed, honly⟩ := Database.lookup_unconfirmed ho hrow l
    obtain ⟨hrejects, hstate⟩ := (Scenario.screens_program hlooks requestId).run hunconfirmed
    exact ⟨hrejects, hstate ▸ honly⟩
  · intro d ts i script r api l row rows rest ht e ha hr ho hrow
    exact ⟨_, by rw [Deployment.getElem?_run, ht]; rfl,
      Deployment.handle_of_unconfirmed ha hr ho hrow⟩

def lowerRow : Record :=
  [("id", .str "user-1"), ("email", .str "alice@example.com"), ("status", .str "confirmed")]

def lowerScenario : Scenario :=
  { Scenario.sampleScenario with
    memory := { Session.sampleMemory with users := [User.ofRow lowerRow] } }

def lowerDatabase : Database :=
  { environment := []
    wall := .finite 1700000000000
    pool := none
    created := 0
    outcomes := [.ok [.obj lowerRow]]
    connectFailure := none
    trace := [] }

def lowerDeployment : Deployment := ⟨lowerDatabase, some Api.sampleApi, 0⟩

def lowerRefresh : Scenario.Step :=
  .refresh (.str Session.lastingToken) .undefined

def lowerLogin : Scenario.Step := .login (.str "alice@example.com") (.str "secret") .undefined

def lowerCall : Request := Api.sampleRequest Endpoint.mePath

theorem only_confirmed_act_lower :
    ((∃ report, (lowerScenario.run [lowerRefresh])[0]? = some report ∧
        Scenario.Rejects report.result) ∧
      (lowerScenario.after [lowerRefresh]).memory.records = lowerScenario.memory.records) ∧
    (Scenario.Rejects ((lowerScenario.program "request-1" lowerLogin).run Database.stores
        lowerDatabase).result ∧
      lowerDatabase.OnlyLooks ((lowerScenario.program "request-1" lowerLogin).run Database.stores
        lowerDatabase).state) ∧
    ∃ report, (lowerDeployment.run
        [(⟨[.ok [.obj lowerRow]], none⟩, .handle lowerCall)])[0]? = some report ∧
      (∀ response, report.result = .ok (.response response) → response.status ≠ 200) ∧
      ∀ event ∈ report.trace, event.LooksUp := by
  obtain ⟨hmemory, hdatabase, hdeployment⟩ := only_confirmed_act
  have hstatus : Record.get lowerRow "status" ≠ .str "CONFIRMED" :=
    fun h => absurd (Value.str.inj h) (by decide)
  have hclock : lowerDeployment.moment.clock.seconds = .ok (.finite 1700000000) :=
    Token.sampleMoment_seconds
  have hrefresh : lowerRefresh.LooksUp lowerScenario.api lowerScenario.moment
      (.byId (Token.RefreshClaims.mk ⟨"user-1", .finite 1, .finite (2 ^ 71)⟩ 1).id) :=
    .refresh Session.decodeRefresh_sample
  have hcall : lowerCall.LooksUp Api.sampleApi lowerDeployment.moment (.byId "user-1") :=
    .caller (.inl (Endpoint.ofRequest_me ⟨rfl, rfl⟩))
      (Api.presents_sampleRequest hclock Endpoint.mePath)
  exact ⟨hmemory lowerScenario [lowerRefresh] 0 _ _ lowerRow rfl hrefresh rfl hstatus,
    hdatabase lowerScenario _ _ "request-1" lowerDatabase (.obj lowerRow) [] [] .login rfl hstatus,
    hdeployment lowerDeployment _ 0 _ _ _ _ (.obj lowerRow) [] [] rfl rfl hcall rfl hstatus⟩

end AuthGate
