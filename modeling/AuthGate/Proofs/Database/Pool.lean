import AuthGate.Database.Deployment
import AuthGate.Proofs.Database.Transaction
import AuthGate.Proofs.Program

/-! The pool. As long as settings can be loaded, whatever asks something of a pool has one from then
on: the one that was there, or else one that is made of the settings at that moment. Nothing else
makes a pool or loses it. -/

namespace AuthGate

namespace Database

inductive Event.Asks : Event → Prop
  | query (q : Query) : Asks (.query q)
  | connect : Asks .connect

def Event.pool? : Event → Option PoolConfig
  | .newPool c => some c
  | _ => none

def newPools (trace : List Event) : List PoolConfig := trace.filterMap Event.pool?

/-- What happens from one state of the database to another, with these settings in force. -/
structure Moves (s : Settings) (asked : Bool) (db db' : Database) (events : List Event) : Prop where
  environment : db'.environment = db.environment
  trace : db'.trace = events.reverse ++ db.trace
  asks : asked = true ↔ ∃ e ∈ events, e.Asks
  made : newPools events = if asked && db.pool.isNone then [.ofSettings s] else []
  pool : db'.pool = if asked then some (db.pool.getD (.ofSettings s)) else db.pool

namespace Moves

variable {s : Settings} {asked asked' : Bool} {db db' db'' : Database} {events events' : List Event}

lemma refl (s : Settings) (db : Database) : Moves s false db db [] :=
  ⟨rfl, rfl, by simp, rfl, rfl⟩

lemma trans (h : Moves s asked db db' events) (h' : Moves s asked' db' db'' events') :
    Moves s (asked || asked') db db'' (events ++ events') := by
  refine ⟨h'.environment.trans h.environment, ?_, ?_, ?_, ?_⟩
  · rw [h'.trace, h.trace, List.reverse_append, List.append_assoc]
  · rw [Bool.or_eq_true, h.asks, h'.asks]
    simp [or_and_right, exists_or]
  · rw [newPools, List.filterMap_append, ← newPools, ← newPools, h.made, h'.made, h.pool]
    cases asked <;> cases asked' <;> cases db.pool <;> rfl
  · rw [h'.pool, h.pool]
    cases asked <;> cases asked' <;> cases db.pool <;> rfl

end Moves

variable {α β : Type}

namespace Action

/-- Whether this asks something of a pool does not depend on the database. -/
def Moves (asked : Bool) (x : Action α) : Prop :=
  ∀ s db, Settings.load db.environment = .ok s →
    ∃ events, Database.Moves s asked db (x.bare db).2 events

def Roams (x : Action α) : Prop :=
  ∀ s db, Settings.load db.environment = .ok s →
    ∃ asked events, Database.Moves s asked db (x.bare db).2 events

lemma Moves.roams {asked : Bool} {x : Action α} (h : x.Moves asked) : x.Roams :=
  fun s db hs => ⟨asked, h s db hs⟩

lemma rests_of_state {x : Action α} (h : ∀ db, (x db).state = db) : x.Moves false := by
  intro s db hs
  rw [bare, h]
  exact ⟨[], .refl s db⟩

lemma Roams.bind {x : Action α} {f : α → Action β} (hx : x.Roams) (hf : ∀ a, (f a).Roams) :
    (x >>= f).Roams := by
  intro s db hs
  obtain ⟨asked, events, hm⟩ := hx s db hs
  rw [bare_bind]
  generalize x.bare db = p at hm
  obtain ⟨e | a, db'⟩ := p
  · exact ⟨asked, events, hm⟩
  · obtain ⟨asked', events', hm'⟩ := hf a s db' (by rw [hm.environment, hs])
    exact ⟨_, _, hm.trans hm'⟩

lemma Moves.bind {x : Action α} {f : α → Action β} (hx : x.Moves true) (hf : ∀ a, (f a).Roams) :
    (x >>= f).Moves true := by
  intro s db hs
  obtain ⟨events, hm⟩ := hx s db hs
  rw [bare_bind]
  generalize x.bare db = p at hm
  obtain ⟨e | a, db'⟩ := p
  · exact ⟨events, hm⟩
  · obtain ⟨asked', events', hm'⟩ := hf a s db' (by rw [hm.environment, hs])
    exact ⟨_, hm.trans hm'⟩

lemma Moves.map {asked : Bool} {x : Action α} (h : x.Moves asked) (f : α → β) :
    (f <$> x).Moves asked := by
  intro s db hs
  rw [bare, (map_run f x db).2]
  exact h s db hs

lemma Roams.map {x : Action α} (h : x.Roams) (f : α → β) : (f <$> x).Roams := by
  intro s db hs
  rw [bare, (map_run f x db).2]
  exact h s db hs

lemma Moves.attempt {asked : Bool} {x : Action α} (h : x.Moves asked) : x.attempt.Moves asked := h

lemma Roams.attempt {x : Action α} (h : x.Roams) : x.attempt.Roams := h

lemma rests_ofResult (r : Except Failure α) : (ofResult r).Moves false :=
  rests_of_state fun _ => rfl

lemma rests_log (e : Log.Entry) : (log e).Moves false := by
  apply rests_of_state
  intro db
  rw [log]
  cases e.write db.wall <;> rfl

end Action

lemma moves_made {s : Settings} {db db' : Database} {e : Event} (he : e.Asks)
    (hs : Settings.load db.environment = .ok s) (h : db.Pooled (.ok (), db')) :
    ∃ events, Moves s true db (db'.record e) events := by
  have hp : e.pool? = none := by cases he <;> rfl
  cases h with
  | @kept c hc =>
    refine ⟨[e], rfl, rfl, by simpa using he, ?_, ?_⟩
    · simp [newPools, hp, hc]
    · simp [record, hc]
  | @made s' hn hs' =>
    obtain rfl := Except.ok.inj (hs.symm.trans hs')
    refine
      ⟨[.newPool (.ofSettings s), .onError, e], rfl, rfl, by simpa using .inr (.inr he), ?_, ?_⟩
    · have h : newPools [.newPool (.ofSettings s), .onError, e] =
          .ofSettings s :: newPools [e] := rfl
      rw [h, newPools, List.filterMap_cons_none hp, hn]
      rfl
    · simp [record, hn]

lemma moves_request {e : Event} (he : e.Asks) {x : Action α} (hx : x.Moves false) :
    (do ensurePool; mark e; x : Action α).Moves true := by
  intro s db hs
  have hp := pooled_ensurePool db
  rw [bare_bind]
  generalize ensurePool.bare db = p at hp
  obtain ⟨f | u, db'⟩ := p
  · cases hp with
    | failed hn hf => simp [hs] at hf
  · obtain ⟨events, hm⟩ := moves_made he hs hp
    obtain ⟨events', hm'⟩ := hx s (db'.record e) (by rw [hm.environment, hs])
    exact ⟨_, hm.trans hm'⟩

lemma moves_query (q : Query) : (query q).Moves true := by
  refine moves_request (.query q) fun s db hs => ⟨[], ?_⟩
  rw [Action.bare, nextOutcome_eq]
  exact ⟨rfl, rfl, by simp, rfl, rfl⟩

lemma moves_connect : connect.Moves true := by
  refine moves_request .connect (Action.rests_of_state fun db => ?_)
  rw [connection]
  split <;> rfl

lemma moves_clientQuery (q : Query) : (clientQuery q).Moves false := by
  intro s db hs
  rw [bare_clientQuery]
  have hasks : ¬ (Event.clientQuery q).Asks := nofun
  exact ⟨[.clientQuery q], rfl, rfl, by simpa using hasks, rfl, rfl⟩

lemma roams_run (w : Work α) : w.run.Roams := by
  induction w with
  | done r => exact (Action.rests_ofResult r).roams
  | send q next ih => exact (moves_clientQuery q).roams.attempt.bind fun r => ih r

lemma roams_rollback (f : Failure) : (rollback f : Action α).Roams := by
  refine ((moves_clientQuery _).roams.attempt).bind fun r => ?_
  cases r with
  | ok rows => exact (Action.rests_ofResult _).roams
  | error g => exact (Action.rests_log _).roams.bind fun _ => (Action.rests_ofResult _).roams

lemma roams_committed (w : Work α) : (committed w).Roams :=
  (moves_clientQuery _).roams.bind fun _ => (roams_run w).bind fun a =>
    (moves_clientQuery _).roams.bind fun _ => (Action.rests_ofResult (.ok a)).roams

lemma moves_transaction (w : Work α) : (transaction w).Moves true := by
  refine moves_connect.bind fun _ => Action.Roams.bind (Action.Roams.attempt ?_) fun r => ?_
  · refine (roams_committed w).attempt.bind fun r => ?_
    cases r with
    | ok a => exact (Action.rests_ofResult _).roams
    | error f => exact roams_rollback f
  · intro s db hs
    exact ⟨false, [.release], rfl, rfl, by simpa using (nofun : ¬ Event.release.Asks), rfl, rfl⟩

lemma rests_idleFailure (message : String) : (idleFailure message).Moves false := by
  have heach (n : ℕ) (db : Database) : (Action.each (List.replicate n
      (logged message "Pool error" "POOL_ERROR")) db).state = db := by
    induction n generalizing db with
    | zero => rfl
    | succ n ih =>
      have hlogged := logged_state message "Pool error" "POOL_ERROR" db
      rw [List.replicate_succ, Action.each]
      cases hr : (logged message "Pool error" "POOL_ERROR" db).result with
      | error f => rw [(bind_of_error hr _).2, hlogged]
      | ok u => rw [(bind_of_ok hr _).2, hlogged, ih]
  exact Action.rests_of_state fun db => heach db.created db

lemma moves_fetchUser (q : Query) : (fetchUser q).Moves true :=
  (moves_query q).bind fun _ => (Action.rests_ofResult _).roams

lemma ofResult_ok_bind (a : α) (f : α → Action β) : (Action.ofResult (.ok a) >>= f) = f a := rfl

lemma moves_userById {id : Value} (h : ∃ text, id.text = .ok text ∧ isUuid text = true) :
    (userById id).Moves true := by
  obtain ⟨text, ht, hu⟩ := h
  rw [userById, ht, ofResult_ok_bind, if_pos hu]
  exact moves_fetchUser _

lemma rests_userById {id : Value} (h : ¬ ∃ text, id.text = .ok text ∧ isUuid text = true) :
    (userById id).Moves false := by
  rw [userById]
  cases ht : id.text with
  | error f => exact Action.rests_ofResult _
  | ok text =>
    rw [ofResult_ok_bind, if_neg fun hu => h ⟨text, ht, hu⟩]
    exact Action.rests_ofResult _

lemma moves_userByEmail {email : Value} (h : ∃ normal, User.normalEmail email = .ok normal) :
    (userByEmail email).Moves true := by
  obtain ⟨normal, hn⟩ := h
  rw [userByEmail, hn]
  exact moves_fetchUser _

lemma rests_userByEmail {email : Value} (h : ¬ ∃ normal, User.normalEmail email = .ok normal) :
    (userByEmail email).Moves false := by
  rw [userByEmail]
  cases hn : User.normalEmail email with
  | error f => exact Action.rests_ofResult _
  | ok normal => exact absurd ⟨normal, hn⟩ h

lemma roams_userById (id : Value) : (userById id).Roams := by
  by_cases h : ∃ text, id.text = .ok text ∧ isUuid text = true
  · exact (moves_userById h).roams
  · exact (rests_userById h).roams

lemma roams_userByEmail (email : Value) : (userByEmail email).Roams := by
  by_cases h : ∃ normal, User.normalEmail email = .ok normal
  · exact (moves_userByEmail h).roams
  · exact (rests_userByEmail h).roams

lemma moves_grants (note : String) (q : Query) : (grants note q).Moves true :=
  (moves_query q).bind fun _ => (Action.rests_ofResult _).roams

lemma moves_issue (userId : Value) : (issue userId).Moves true :=
  (moves_query _).bind fun _ => (Action.rests_ofResult _).roams

lemma moves_revoke (tokenId userId : Value) : (revoke tokenId userId).Moves true :=
  (moves_query _).bind fun _ => (Action.rests_ofResult _).roams

lemma moves_isHealthy : isHealthy.Moves true := by
  have hprobe : probe.Moves true := (moves_query _).bind fun _ => (Action.rests_ofResult _).roams
  refine hprobe.attempt.bind fun r => ?_
  cases r with
  | ok b => exact (Action.rests_ofResult _).roams
  | error f => exact (Action.rests_log _).roams.bind fun _ => (Action.rests_ofResult _).roams

lemma roams_answer (c : Call) : (answer c).Roams := by
  cases c with
  | findByEmail email => exact (roams_userByEmail email).map _
  | findById id => exact (roams_userById _).map _
  | issue userId => exact (moves_issue userId).roams
  | rotate tokenId userId => exact (moves_transaction _).roams
  | revoke tokenId userId => exact (moves_revoke _ _).roams
  | revokeAllFor userId => exact ((moves_query _).map _).roams
  | findGroupsFor userId | findRolesFor userId | findPermissionsFor userId =>
    exact ((moves_grants _ _).map _).roams
  | checkHealth => exact moves_isHealthy.roams

lemma roams_program (p : Program α) : Action.Roams fun db => p.run stores db := by
  intro s db hs
  let R (db db' : Database) : Prop := Settings.load db.environment = .ok s →
    ∃ asked events, Moves s asked db db' events
  have htrans {a b c : Database} (hab : R a b) (hbc : R b c) : R a c := by
    intro ha
    obtain ⟨asked, events, hm⟩ := hab ha
    obtain ⟨asked', events', hm'⟩ := hbc (by rw [hm.environment, ha])
    exact ⟨_, _, hm.trans hm'⟩
  have hrefl (db : Database) : R db db := fun _ => ⟨false, [], .refl s db⟩
  have hcall (c : Call) (db : Database) : R db (stores c db).state := roams_answer c s db
  exact Program.run_state hrefl htrans hcall p db hs

end Database

end AuthGate
