import AuthGate.Database.Transaction
import AuthGate.Proofs.Except

namespace AuthGate

namespace Query

def begin : Query := ⟨"BEGIN", .undefined⟩

def commit : Query := ⟨"COMMIT", .undefined⟩

def rollback : Query := ⟨"ROLLBACK", .undefined⟩

end Query

namespace Database

variable {α β : Type} {db db' : Database}

lemma bind_of_ok {x : Action α} {a : α} (h : (x db).result = .ok a) (f : α → Action β) :
    ((x >>= f) db).result = (f a (x db).state).result ∧
      ((x >>= f) db).state = (f a (x db).state).state := by
  change (x.bind f db).result = _ ∧ (x.bind f db).state = _
  simp only [Action.bind, h]
  exact ⟨trivial, trivial⟩

lemma bind_of_error {x : Action α} {e : Failure} (h : (x db).result = .error e)
    (f : α → Action β) :
    ((x >>= f) db).result = .error e ∧ ((x >>= f) db).state = (x db).state := by
  change (x.bind f db).result = _ ∧ (x.bind f db).state = _
  simp only [Action.bind, h]
  exact ⟨trivial, trivial⟩

lemma map_run (f : α → β) (x : Action α) (db : Database) :
    ((f <$> x) db).result = (x db).result.map f ∧ ((f <$> x) db).state = (x db).state := by
  change ((x >>= fun a => pure (f a)) db).result = _ ∧ ((x >>= fun a => pure (f a)) db).state = _
  cases hx : (x db).result with
  | ok a => exact bind_of_ok hx _
  | error e => exact bind_of_error hx _

lemma bind_result_eq_ok {x : Action α} {f : α → Action β} {b : β} :
    ((x >>= f) db).result = .ok b ↔
      ∃ a, (x db).result = .ok a ∧ (f a (x db).state).result = .ok b := by
  cases h : (x db).result with
  | ok a => simp [(bind_of_ok h f).1]
  | error e => simp [(bind_of_error h f).1]

section

variable {x : Action α} {lines : List Log.Line}

lemma bind_ok {a : α} (h : x db = ⟨.ok a, lines, db'⟩) (f : α → Action β) :
    (x >>= f) db = { f a db' with lines := lines ++ (f a db').lines } := by
  change x.bind f db = _
  simp only [Action.bind, h]

lemma bind_quiet {a : α} (h : x db = ⟨.ok a, [], db'⟩) (f : α → Action β) :
    (x >>= f) db = f a db' :=
  bind_ok h f

lemma bind_error {e : Failure} (h : x db = ⟨.error e, lines, db'⟩) (f : α → Action β) :
    (x >>= f) db = ⟨.error e, lines, db'⟩ := by
  change x.bind f db = _
  simp only [Action.bind, h]

lemma attempt_eq {r : Except Failure α} (h : x db = ⟨r, lines, db'⟩) :
    x.attempt db = ⟨.ok r, lines, db'⟩ := by
  rw [Action.attempt, h]

end

/-- What the queries to come are answered; after the given outcomes, no rows. -/
def reply (db : Database) (k : ℕ) : Except Failure Rows := db.outcomes.getD k (.ok [])

def past (db : Database) (n : ℕ) (events : List Event) : Database :=
  { db with outcomes := db.outcomes.drop n, trace := events.reverse ++ db.trace }

lemma reply_past (db : Database) (n : ℕ) (events : List Event) (k : ℕ) :
    (db.past n events).reply k = db.reply (n + k) := by
  simp [reply, past, List.getD, List.getElem?_drop]

lemma past_past (db : Database) (n n' : ℕ) (events events' : List Event) :
    (db.past n events).past n' events' = db.past (n + n') (events ++ events') := by
  simp [past, List.drop_drop]

lemma nextOutcome_eq (db : Database) : nextOutcome db = ⟨db.reply 0, [], db.past 1 []⟩ := by
  cases h : db.outcomes with
  | nil =>
    have hpast : db.past 1 [] = db := by
      rw [past, h]
      exact congrArg (fun o => { db with outcomes := o }) h.symm
    simp [nextOutcome, reply, h, hpast]
  | cons r rs => simp [nextOutcome, reply, past, h]

def Action.bare (x : Action α) (db : Database) : Except Failure α × Database :=
  ((x db).result, (x db).state)

lemma bare_bind (x : Action α) (f : α → Action β) (db : Database) :
    (x >>= f).bare db = match x.bare db with
      | (.ok a, db') => (f a).bare db'
      | (.error e, db') => (.error e, db') := by
  rw [Action.bare, Action.bare]
  cases h : (x db).result with
  | ok a => exact Prod.ext (bind_of_ok h f).1 (bind_of_ok h f).2
  | error e => exact Prod.ext (bind_of_error h f).1 (bind_of_error h f).2

lemma bare_next (e : Event) (db : Database) :
    (do mark e; nextOutcome : Action Rows).bare db = (db.reply 0, db.past 1 [e]) := by
  rw [bare_bind]
  change nextOutcome.bare _ = _
  rw [Action.bare, nextOutcome_eq]
  rfl

lemma bare_clientQuery (q : Query) (db : Database) :
    (clientQuery q).bare db = (db.reply 0, db.past 1 [.clientQuery q]) :=
  bare_next _ db

def asked (db : Database) (qs : List Query) : Database := db.past qs.length (qs.map .clientQuery)

def later (ρ : ℕ → Except Failure Rows) (k : ℕ) : Except Failure Rows := ρ (k + 1)

lemma reply_asked (db : Database) (qs : List Query) (k : ℕ) :
    (db.asked qs).reply k = db.reply (qs.length + k) :=
  reply_past ..

lemma reply_asked_one (db : Database) (q : Query) : (db.asked [q]).reply = later db.reply := by
  funext k
  rw [reply_asked, later, List.length_singleton, Nat.add_comm]

lemma asked_asked (db : Database) (qs qs' : List Query) :
    (db.asked qs).asked qs' = db.asked (qs ++ qs') := by
  simp only [asked, past_past, List.map_append, List.length_append]

lemma clientQuery_eq (q : Query) (db : Database) :
    clientQuery q db = ⟨db.reply 0, [], db.asked [q]⟩ := by
  have hmark : mark (.clientQuery q) db = ⟨.ok (), [], db.record (.clientQuery q)⟩ := rfl
  rw [clientQuery, bind_quiet hmark, nextOutcome_eq]
  rfl

namespace Work

def sent : Work α → (ℕ → Except Failure Rows) → List Query
  | .done _, _ => []
  | .send q next, ρ => q :: (next (ρ 0)).sent fun k => ρ (k + 1)

def ends : Work α → (ℕ → Except Failure Rows) → Except Failure α
  | .done r, _ => r
  | .send _ next, ρ => (next (ρ 0)).ends fun k => ρ (k + 1)

lemma run_eq (w : Work α) (db : Database) :
    w.run db = ⟨w.ends db.reply, [], db.asked (w.sent db.reply)⟩ := by
  induction w generalizing db with
  | done r => rfl
  | send q next ih =>
    rw [run, bind_quiet (attempt_eq (clientQuery_eq q db)), ih, reply_asked_one, asked_asked]
    rfl

/-- What is sent after BEGIN, up to the first failure or the end, and what it comes to. -/
inductive Course (w : Work α) (ρ : ℕ → Except Failure Rows) :
    List Query → Except Failure α → Prop
  | unopened {f} : ρ 0 = .error f → Course w ρ [] (.error f)
  | failed {rows f} : ρ 0 = .ok rows → w.ends (later ρ) = .error f →
      Course w ρ (w.sent (later ρ)) (.error f)
  | uncommitted {rows a f} : ρ 0 = .ok rows → w.ends (later ρ) = .ok a →
      later ρ (w.sent (later ρ)).length = .error f →
      Course w ρ (w.sent (later ρ) ++ [.commit]) (.error f)
  | committed {rows a rows'} : ρ 0 = .ok rows → w.ends (later ρ) = .ok a →
      later ρ (w.sent (later ρ)).length = .ok rows' →
      Course w ρ (w.sent (later ρ) ++ [.commit]) (.ok a)

end Work

lemma committed_eq (w : Work α) (db : Database) : ∃ qs result, w.Course db.reply qs result ∧
    committed w db = ⟨result, [], db.asked (.begin :: qs)⟩ := by
  have hbegin : command "BEGIN" db = _ := clientQuery_eq .begin db
  rw [committed]
  cases hopen : db.reply 0 with
  | error f =>
    rw [hopen] at hbegin
    exact ⟨[], .error f, .unopened hopen, bind_error hbegin _⟩
  | ok rows =>
    rw [hopen] at hbegin
    have hwork : w.run (db.asked [.begin]) = ⟨w.ends (later db.reply), [],
        db.asked (.begin :: w.sent (later db.reply))⟩ := by
      rw [Work.run_eq, reply_asked_one, asked_asked]
      rfl
    rw [bind_quiet hbegin]
    cases hend : w.ends (later db.reply) with
    | error f =>
      rw [hend] at hwork
      exact ⟨_, .error f, .failed hopen hend, bind_error hwork _⟩
    | ok a =>
      rw [hend] at hwork
      have hcommit : command "COMMIT" (db.asked (.begin :: w.sent (later db.reply))) =
          ⟨later db.reply (w.sent (later db.reply)).length, [],
            db.asked (.begin :: (w.sent (later db.reply) ++ [.commit]))⟩ := by
        refine (clientQuery_eq .commit _).trans ?_
        rw [reply_asked, asked_asked]
        rfl
      rw [bind_quiet hwork]
      cases hlast : later db.reply (w.sent (later db.reply)).length with
      | error f =>
        rw [hlast] at hcommit
        exact ⟨_, .error f, .uncommitted hopen hend hlast, bind_error hcommit _⟩
      | ok rows' =>
        rw [hlast] at hcommit
        exact ⟨_, .ok a, .committed hopen hend hlast, bind_quiet hcommit _⟩

def undoing : Except Failure α → List Query
  | .ok _ => []
  | .error _ => [.rollback]

lemma committedOrRolledBack_eq (w : Work α) (db : Database) :
    ∃ qs result, w.Course db.reply qs result ∧ committedOrRolledBack w db = match result with
      | .ok a => ⟨.ok a, [], db.asked (.begin :: qs)⟩
      | .error f => rollback f (db.asked (.begin :: qs)) := by
  obtain ⟨qs, result, hcourse, hrun⟩ := committed_eq w db
  refine ⟨qs, result, hcourse, ?_⟩
  rw [committedOrRolledBack, bind_quiet (attempt_eq hrun)]
  cases result with
  | ok a => rfl
  | error f => rfl

lemma logged_state (message query operation : String) (db : Database) :
    (logged message query operation db).state = db := by
  rw [logged, Action.log]
  split <;> rfl

lemma rollback_fails (f : Failure) (db : Database) :
    (∃ g, (rollback f db : Program.Outcome Database α).result = .error g) ∧
      (rollback f db : Program.Outcome Database α).state = db.asked [.rollback] := by
  have hquery : (command "ROLLBACK").attempt db = _ := attempt_eq (clientQuery_eq .rollback db)
  rw [rollback, bind_quiet hquery]
  cases db.reply 0 with
  | ok rows => exact ⟨⟨f, rfl⟩, rfl⟩
  | error g =>
    have hstate := logged_state g.reason "ROLLBACK" "ROLLBACK" (db.asked [.rollback])
    cases hlog : (logged g.reason "ROLLBACK" "ROLLBACK" (db.asked [.rollback])).result with
    | ok u =>
      obtain ⟨hresult, hstate'⟩ := bind_of_ok hlog fun _ => (Action.raise f : Action α)
      exact ⟨⟨f, hresult⟩, hstate'.trans hstate⟩
    | error e =>
      obtain ⟨hresult, hstate'⟩ := bind_of_error hlog fun _ => (Action.raise f : Action α)
      exact ⟨⟨e, hresult⟩, hstate'.trans hstate⟩

def making (db : Database) : List Event :=
  match db.pool, Settings.load db.environment with
  | none, .ok s => [.newPool (.ofSettings s), .onError]
  | _, _ => []

/-- A connection is to be had: there is a pool, or one can be made, and it can be reached. -/
def Connects (db : Database) : Prop :=
  (db.pool.isSome = true ∨ ∃ s, Settings.load db.environment = .ok s) ∧ db.connectFailure = none

inductive Pooled (db : Database) : Except Failure Unit × Database → Prop
  | kept {c : PoolConfig} : db.pool = some c → Pooled db (.ok (), db)
  | made {s : Settings} : db.pool = none → Settings.load db.environment = .ok s →
      Pooled db (.ok (), { db.past 0 [.newPool (.ofSettings s), .onError] with
        pool := some (.ofSettings s), created := db.created + 1 })
  | failed {f : Failure} : db.pool = none → Settings.load db.environment = .error f →
      Pooled db (.error f, db)

lemma pooled_ensurePool (db : Database) : db.Pooled (ensurePool.bare db) := by
  rw [Action.bare, ensurePool]
  cases hp : db.pool with
  | some c => exact .kept hp
  | none =>
    cases hs : Settings.load db.environment with
    | error f => exact .failed hp hs
    | ok s => exact .made hp hs

def HasPool (db : Database) : Prop :=
  db.pool.isSome = true ∨ ∃ s, Settings.load db.environment = .ok s

def reach (db : Database) : Except Failure Unit :=
  match db.connectFailure with
  | some f => .error f
  | none => .ok ()

lemma ensurePool_eq (h : db.HasPool) : ∃ db', ensurePool db = ⟨.ok (), [], db'⟩ ∧
    db'.reach = db.reach ∧ db'.wall = db.wall ∧ db'.reply = db.reply ∧
    db'.trace = db.making.reverse ++ db.trace := by
  rw [ensurePool]
  cases hp : db.pool with
  | some c => exact ⟨_, rfl, rfl, rfl, rfl, by rw [making, hp]; rfl⟩
  | none =>
    obtain h | ⟨s, hs⟩ := h
    · simp [hp] at h
    · rw [hs]
      exact ⟨_, rfl, rfl, rfl, rfl, by rw [making, hp, hs]; rfl⟩

lemma connection_eq (db : Database) : connection db = ⟨db.reach, [], db⟩ := by
  rw [connection, reach]
  cases db.connectFailure with
  | some f => rfl
  | none => rfl

lemma connect_eq (h : db.HasPool) : ∃ db', connect db = ⟨db.reach, [], db'⟩ ∧
    db'.wall = db.wall ∧ db'.reply = db.reply ∧
    db'.trace = (db.making ++ [Event.connect]).reverse ++ db.trace := by
  obtain ⟨db', hpool, hreach, hwall, hreply, htrace⟩ := ensurePool_eq h
  refine ⟨db'.record .connect, ?_, hwall, hreply, ?_⟩
  · rw [connect, bind_quiet hpool, ← hreach]
    exact connection_eq (db'.record .connect)
  · simp [record, htrace]

def Asks (x : Action α) (db : Database) (events : List Event) : Prop :=
  (x db).state.trace = events.reverse ++ db.trace

def enquiries (db : Database) (qs : List Query) : List Event :=
  db.making ++ [Event.connect] ++ qs.map .clientQuery ++ [.release]

lemma transaction_unpooled {f : Failure} (hnone : db.pool = none)
    (hload : Settings.load db.environment = .error f) (w : Work α) :
    transaction w db = ⟨.error f, [], db⟩ := by
  have hmade : ensurePool db = ⟨.error f, [], db⟩ := by rw [ensurePool, hnone, hload]
  exact bind_error (bind_error hmade _) _

lemma transaction_unreached {f : Failure} (h : db.HasPool) (hf : db.connectFailure = some f)
    (w : Work α) : (transaction w db).result = .error f ∧ (transaction w db).lines = [] ∧
      Asks (transaction w) db (db.making ++ [.connect]) := by
  obtain ⟨db', hconnect, -, -, htrace⟩ := connect_eq h
  rw [reach, hf] at hconnect
  have hrun : transaction w db = ⟨.error f, [], db'⟩ := bind_error hconnect _
  rw [Asks, hrun]
  exact ⟨rfl, rfl, htrace⟩

lemma transaction_eq (h : db.Connects) (w : Work α) : ∃ db', db'.wall = db.wall ∧
    db'.reply = db.reply ∧ (transaction w db).result = (committedOrRolledBack w db').result ∧
    (transaction w db).lines = (committedOrRolledBack w db').lines ∧
    ∀ qs, (committedOrRolledBack w db').state = db'.asked qs →
      Asks (transaction w) db (db.enquiries qs) := by
  obtain ⟨db', hconnect, hwall, hreply, htrace⟩ := connect_eq h.1
  rw [reach, h.2] at hconnect
  have hattempt : (committedOrRolledBack w).attempt db' =
      ⟨.ok (committedOrRolledBack w db').result, (committedOrRolledBack w db').lines,
        (committedOrRolledBack w db').state⟩ := rfl
  have hmark (db : Database) : mark .release db = ⟨.ok (), [], db.record .release⟩ := rfl
  have hrun : transaction w db =
      ⟨(committedOrRolledBack w db').result, (committedOrRolledBack w db').lines,
        (committedOrRolledBack w db').state.record .release⟩ := by
    rw [transaction, bind_quiet hconnect, bind_ok hattempt, bind_quiet (hmark _)]
    simp only [Action.ofResult, List.append_nil]
  rw [hrun]
  refine ⟨db', hwall, hreply, rfl, rfl, fun qs hstate => ?_⟩
  rw [Asks, hrun]
  simp [hstate, enquiries, record, asked, past, htrace]

lemma transaction_course (h : db.Connects) (w : Work α) : ∃ qs result,
    w.Course db.reply qs result ∧ (∀ a, (transaction w db).result = .ok a ↔ result = .ok a) ∧
      Asks (transaction w) db (db.enquiries (.begin :: (qs ++ undoing result))) := by
  obtain ⟨db', -, hreply, hresult, -, hasks⟩ := transaction_eq h w
  obtain ⟨qs, result, hcourse, hrun⟩ := committedOrRolledBack_eq w db'
  rw [hreply] at hcourse
  rw [hresult]
  refine ⟨qs, result, hcourse, ?_⟩
  cases result with
  | ok a =>
    rw [hrun]
    exact ⟨fun b => Iff.rfl, hasks _ (by rw [hrun, undoing, List.append_nil])⟩
  | error f =>
    obtain ⟨⟨g, hg⟩, hstate⟩ := rollback_fails (α := α) f (db'.asked (.begin :: qs))
    rw [asked_asked] at hstate
    rw [hrun]
    exact ⟨fun b => by simp [hg], hasks _ (by rw [hrun]; exact hstate)⟩

namespace Work

def undo (f : Failure) : Work α := .send .rollback fun _ => .done (.error f)

def closing : Work α → Work α
  | .done (.ok a) => .send .commit fun
    | .ok _ => .done (.ok a)
    | .error f => undo f
  | .done (.error f) => undo f
  | .send q next => .send q fun r => (next r).closing

def enclosed (w : Work α) : Work α :=
  .send .begin fun
    | .ok _ => w.closing
    | .error f => undo f

lemma closing_eq (w : Work α) (ρ : ℕ → Except Failure Rows) :
    w.closing.sent ρ = w.sent ρ ++
        (closing (.done (w.ends ρ))).sent (fun k => ρ (k + (w.sent ρ).length)) ∧
      w.closing.ends ρ =
        (closing (.done (w.ends ρ))).ends fun k => ρ (k + (w.sent ρ).length) := by
  induction w generalizing ρ with
  | done r => exact ⟨rfl, rfl⟩
  | send q next ih =>
    obtain ⟨hsent, hends⟩ := ih (ρ 0) (later ρ)
    exact ⟨congrArg (q :: ·) hsent, hends⟩

lemma Course.enclosed {w : Work α} {ρ : ℕ → Except Failure Rows} {qs : List Query}
    {result : Except Failure α} (h : w.Course ρ qs result) :
    w.enclosed.sent ρ = .begin :: (qs ++ undoing result) ∧ w.enclosed.ends ρ = result := by
  obtain ⟨hsent, hends⟩ := w.closing_eq (later ρ)
  rw [Work.enclosed, sent, ends]
  cases h with
  | unopened hopen =>
    rw [hopen]
    exact ⟨rfl, rfl⟩
  | failed hopen hend =>
    rw [hend] at hsent hends
    rw [hopen]
    exact ⟨congrArg (Query.begin :: ·) hsent, hends⟩
  | uncommitted hopen hend hlast =>
    rw [hend, closing] at hsent hends
    simp only [sent, ends, Nat.zero_add, hlast] at hsent hends
    rw [hopen]
    refine ⟨congrArg (Query.begin :: ·) (hsent.trans ?_), hends⟩
    simp only [undo, sent, undoing, List.append_assoc, List.singleton_append]
  | committed hopen hend hlast =>
    rw [hend, closing] at hsent hends
    simp only [sent, ends, Nat.zero_add, hlast] at hsent hends
    rw [hopen]
    refine ⟨congrArg (Query.begin :: ·) (hsent.trans ?_), hends⟩
    simp only [undoing, List.append_nil]

end Work

def dealings (w : Work α) (db : Database) : List Event :=
  db.making ++ [Event.connect] ++ (w.enclosed.sent db.reply).map .clientQuery ++ [.release]

lemma transaction_of_connects (h : db.Connects) (w : Work α) :
    (∀ a, (transaction w db).result = .ok a ↔ w.enclosed.ends db.reply = .ok a) ∧
      (transaction w db).state.trace = (dealings w db).reverse ++ db.trace := by
  obtain ⟨qs, result, hcourse, hresult, hasks⟩ := transaction_course h w
  obtain ⟨hsent, hends⟩ := hcourse.enclosed
  rw [dealings, hsent, hends]
  exact ⟨hresult, hasks⟩

lemma transaction_of_not_connects (h : ¬ db.Connects) (w : Work α) :
    (∃ f, (transaction w db).result = .error f) ∧ ∃ events : List Event,
      events ⊆ db.making ++ [Event.connect] ∧
        (transaction w db).state.trace = events.reverse ++ db.trace := by
  by_cases hpool : db.HasPool
  · obtain ⟨f, hf⟩ := Option.ne_none_iff_exists'.1 fun hf => h ⟨hpool, hf⟩
    obtain ⟨hresult, -, hasks⟩ := transaction_unreached hpool hf w
    exact ⟨⟨f, hresult⟩, _, List.Subset.refl _, hasks⟩
  · obtain ⟨hnone, hload⟩ := not_or.1 hpool
    cases hs : Settings.load db.environment with
    | ok s => exact absurd ⟨s, hs⟩ hload
    | error f =>
      rw [transaction_unpooled (Option.not_isSome_iff_eq_none.1 hnone) hs]
      exact ⟨⟨f, rfl⟩, [], List.nil_subset _, rfl⟩

end Database

end AuthGate
