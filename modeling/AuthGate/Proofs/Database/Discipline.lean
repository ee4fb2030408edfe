import AuthGate.Proofs.Database.Transaction
import AuthGate.Proofs.Log
import AuthGate.Proofs.Transcript

namespace AuthGate

def Query.Closes (q : Query) : Prop := q.text = "COMMIT" ∨ q.text = "ROLLBACK"

namespace Database

variable {α : Type} {db : Database} {ρ : ℕ → Except Failure Rows}

def undoEntry (f : Failure) : Log.Entry :=
  .database .undefined (.str f.reason) (.str "ROLLBACK") (.str "ROLLBACK")

def undoFailure (ρ : ℕ → Except Failure Rows) (n : ℕ) : Except Failure α → Option Failure
  | .ok _ => none
  | .error _ => failureOf (ρ n)

inductive Logs (wall : Number) : Option Failure → List Log.Line → Prop
  | nothing : Logs wall none []
  | failure {f l} : (undoEntry f).write wall = .ok l → l.IsOf "DATABASE_ERROR" →
      Logs wall (some f) [l]

lemma logged_eq {db : Database} {f : Failure} {l : Log.Line}
    (hl : (undoEntry f).write db.wall = .ok l) :
    logged f.reason "ROLLBACK" "ROLLBACK" db = ⟨.ok (), [l], db⟩ := by
  rw [undoEntry] at hl
  rw [logged, Action.log, hl]

lemma rollback_eq (f : Failure) (db : Database) (hw : (Calendar.iso? db.wall).isSome = true) :
    ∃ lines, Logs db.wall (failureOf (db.reply 0)) lines ∧
      (rollback f : Action α) db = ⟨.error f, lines, db.asked [.rollback]⟩ := by
  have hquery : (command "ROLLBACK").attempt db = _ := attempt_eq (clientQuery_eq .rollback db)
  rw [rollback, bind_quiet hquery]
  cases db.reply 0 with
  | ok rows => exact ⟨[], .nothing, rfl⟩
  | error g =>
    obtain ⟨time, ht⟩ := Log.Entry.exists_stamp hw
    obtain ⟨l, hl⟩ : ∃ l, (undoEntry g).write db.wall = .ok l := by
      rw [undoEntry, Log.Entry.write, ht]
      exact ⟨_, rfl⟩
    have hlog : logged g.reason "ROLLBACK" "ROLLBACK" (db.asked [.rollback]) =
        ⟨.ok (), [l], db.asked [.rollback]⟩ := logged_eq hl
    exact ⟨[l], .failure hl (Log.Entry.isOf_of_write rfl hl), bind_ok hlog _⟩

lemma committedOrRolledBack_logs (w : Work α) (db : Database)
    (hw : (Calendar.iso? db.wall).isSome = true) :
    ∃ qs result lines, w.Course db.reply qs result ∧
      Logs db.wall (undoFailure db.reply (qs.length + 1) result) lines ∧
      committedOrRolledBack w db =
        ⟨result, lines, db.asked (.begin :: (qs ++ undoing result))⟩ := by
  obtain ⟨qs, result, hcourse, hrun⟩ := committedOrRolledBack_eq w db
  rw [hrun]
  cases result with
  | ok a => exact ⟨qs, .ok a, [], hcourse, .nothing, by rw [undoing, List.append_nil]⟩
  | error f =>
    obtain ⟨lines, hlogs, hundo⟩ := rollback_eq (α := α) f (db.asked (.begin :: qs)) hw
    rw [reply_asked] at hlogs
    rw [asked_asked] at hundo
    exact ⟨qs, .error f, lines, hcourse, hlogs, hundo⟩

/-- A transaction raises why it gets no connection, or the first failure on it; it asks the
connection for its course, for ROLLBACK if that fails, and for nothing after the release. -/
theorem transaction_disciplined (hw : (Calendar.iso? db.wall).isSome = true) (w : Work α) :
    (∀ f, db.pool = none → Settings.load db.environment = .error f →
      transaction w db = ⟨.error f, [], db⟩) ∧
    (∀ f, db.HasPool → db.connectFailure = some f → (transaction w db).result = .error f ∧
      (transaction w db).lines = [] ∧ Asks (transaction w) db (db.making ++ [.connect])) ∧
    (db.Connects → ∃ qs, w.Course db.reply qs (transaction w db).result ∧
      Logs db.wall (undoFailure db.reply (qs.length + 1) (transaction w db).result)
        (transaction w db).lines ∧
      Asks (transaction w) db (db.making ++ [.connect] ++
        (.begin :: (qs ++ undoing (transaction w db).result)).map .clientQuery ++ [.release])) := by
  refine ⟨fun f hnone hload => transaction_unpooled hnone hload w,
    fun f hpool hf => transaction_unreached hpool hf w, fun h => ?_⟩
  obtain ⟨db', hwall, hreply, hresult, hlines, hasks⟩ := transaction_eq h w
  obtain ⟨qs, result, lines, hcourse, hlogs, hrun⟩ :=
    committedOrRolledBack_logs w db' (by rwa [hwall])
  rw [hreply] at hcourse hlogs
  rw [hwall] at hlogs
  rw [hresult, hlines, hrun]
  exact ⟨qs, hcourse, hlogs, hasks _ (by rw [hrun])⟩

def insertQuery : Query :=
  ⟨"INSERT INTO refresh_tokens (user_id) VALUES ($1)", .arr [.str "user-1"]⟩

def insertion : Work (List Rows) := .queries none [insertQuery] []

def answering (outcomes : List (Except Failure Rows)) : Database :=
  { environment := []
    wall := .finite 0
    pool := some
      ⟨.str "localhost", .finite 5432, .str "wishlist", .str "wishlist", .str "pw", false⟩
    created := 1
    outcomes := outcomes
    connectFailure := none
    trace := [] }

/-- Neither COMMIT nor ROLLBACK is carried out, and the second raises a bare value. -/
def uncommitted : Database :=
  answering [.ok [], .ok [], .error (.error "could not serialize access"), .error (.bare .null)]

theorem transaction_disciplined_uncommitted :
    (Calendar.iso? uncommitted.wall).isSome = true ∧ uncommitted.Connects ∧ ∃ qs,
      insertion.Course uncommitted.reply qs (.error (.error "could not serialize access")) ∧
      Logs uncommitted.wall
        (undoFailure uncommitted.reply (qs.length + 1) (transaction insertion uncommitted).result)
        (transaction insertion uncommitted).lines ∧
      Asks (transaction insertion) uncommitted ([.connect] ++
        (.begin :: (qs ++ [.rollback])).map .clientQuery ++ [.release]) := by
  have hwall : (Calendar.iso? uncommitted.wall).isSome = true := by decide +kernel
  have hconnects : uncommitted.Connects := ⟨.inl rfl, rfl⟩
  exact ⟨hwall, hconnects, (transaction_disciplined hwall insertion).2.2 hconnects⟩

def Closed (ρ : ℕ → Except Failure Rows) (qs : List Query) : Prop :=
  ∃ i q rows, qs[i]? = some q ∧ q.Closes ∧ ρ i = .ok rows

lemma closed_concat {qs : List Query} {q : Query} : Closed ρ (qs ++ [q]) ↔
    Closed ρ qs ∨ q.Closes ∧ ∃ rows, ρ qs.length = .ok rows := by
  constructor
  · rintro ⟨i, q', rows, hq, hcloses, hreply⟩
    by_cases hi : i < qs.length
    · rw [List.getElem?_append_left hi] at hq
      exact .inl ⟨i, q', rows, hq, hcloses, hreply⟩
    · rw [List.getElem?_append_right (Nat.le_of_not_lt hi), List.getElem?_singleton] at hq
      split_ifs at hq with h0
      obtain rfl := Option.some.inj hq
      obtain rfl : i = qs.length := by omega
      exact .inr ⟨hcloses, rows, hreply⟩
  · rintro (⟨i, q', rows, hq, hcloses, hreply⟩ | ⟨hcloses, rows, hreply⟩)
    · refine ⟨i, q', rows, ?_, hcloses, hreply⟩
      rw [List.getElem?_append_left (List.getElem?_eq_some_iff.1 hq).1, hq]
    · exact ⟨qs.length, q, rows, by simp, hcloses, hreply⟩

lemma closed_commit {qs : List Query} :
    Closed ρ (qs ++ [.commit]) ↔ Closed ρ qs ∨ ∃ rows, ρ qs.length = .ok rows := by
  rw [closed_concat, and_iff_right (.inl rfl)]

lemma not_closed_rollback {qs : List Query} :
    ¬ Closed ρ (qs ++ [.rollback]) ↔ (∃ f, ρ qs.length = .error f) ∧ ¬ Closed ρ qs := by
  rw [closed_concat, and_iff_right (.inr rfl), not_or, and_comm]
  refine and_congr_left fun _ => ?_
  cases ρ qs.length with
  | ok rows => simp
  | error f => simp

lemma Work.Course.closed_iff {w : Work α} {qs : List Query} {rows : Rows} {f : Failure}
    (h : w.Course ρ qs (.error f)) (hopen : ρ 0 = .ok rows) :
    Closed (later ρ) qs ↔ Closed (later ρ) (w.sent (later ρ)) := by
  cases h with
  | unopened hfailed => cases hopen.symm.trans hfailed
  | failed => rfl
  | uncommitted _ _ hlast => simp [closed_commit, hlast]

/-- The transaction is open when its connection is given back exactly if its ROLLBACK failed, and
the work has not ended it by itself. -/
theorem released_open_iff (h : db.Connects) {rows : Rows} (hopen : db.reply 0 = .ok rows)
    (w : Work α) : ∃ qs, Asks (transaction w) db (db.making ++ [.connect] ++
        (.begin :: qs).map .clientQuery ++ [.release]) ∧
      (¬ Closed (later db.reply) qs ↔
        (∃ before f, qs = before ++ [.rollback] ∧ later db.reply before.length = .error f) ∧
          ¬ Closed (later db.reply) (w.sent (later db.reply))) := by
  obtain ⟨qs, result, hcourse, -, hasks⟩ := transaction_course h w
  refine ⟨_, hasks, ?_⟩
  cases result with
  | ok a =>
    cases hcourse with
    | committed _ _ hlast =>
      have hclosed : Closed (later db.reply) (w.sent (later db.reply) ++ [.commit]) :=
        closed_commit.2 (.inr ⟨_, hlast⟩)
      rw [undoing, List.append_nil]
      refine iff_of_false (not_not_intro hclosed) ?_
      rintro ⟨⟨before, f, hqs, -⟩, -⟩
      have hlast' := List.append_inj_right' hqs rfl
      exact absurd (congrArg (List.map Query.text) hlast') (by decide)
  | error f =>
    rw [undoing, not_closed_rollback, hcourse.closed_iff hopen]
    refine and_congr_left fun _ => ?_
    constructor
    · rintro ⟨g, hg⟩
      exact ⟨qs, g, rfl, hg⟩
    · rintro ⟨before, g, hqs, hg⟩
      rw [List.append_inj_left' hqs rfl]
      exact ⟨g, hg⟩

lemma asked_inj {x : Action α} {before after : List Event} {qs qs' : List Query}
    (h : Asks x db (before ++ qs.map .clientQuery ++ after))
    (h' : Asks x db (before ++ qs'.map .clientQuery ++ after)) : qs = qs' := by
  have hinj : Function.Injective Event.clientQuery := fun _ _ => Event.clientQuery.inj
  have hevents := List.reverse_injective (List.append_cancel_right (h.symm.trans h'))
  exact List.map_injective_iff.2 hinj (List.append_cancel_left (List.append_cancel_right hevents))

theorem released_open_uncommitted : uncommitted.Connects ∧ uncommitted.reply 0 = .ok [] ∧
    ∃ qs, Asks (transaction insertion) uncommitted ([.connect] ++
        (.begin :: qs).map .clientQuery ++ [.release]) ∧
      ¬ Closed (later uncommitted.reply) qs := by
  have hconnects : uncommitted.Connects := ⟨.inl rfl, rfl⟩
  obtain ⟨qs, hasks, hopen⟩ := released_open_iff hconnects (rfl : uncommitted.reply 0 = .ok [])
    insertion
  have hasked : Asks (transaction insertion) uncommitted ([.connect] ++
      [.begin, insertQuery, .commit, .rollback].map .clientQuery ++ [.release]) := rfl
  obtain ⟨-, hqs⟩ := List.cons.inj (asked_inj hasks hasked)
  refine ⟨hconnects, rfl, qs, hasks, hopen.2 ⟨⟨[insertQuery, .commit], _, hqs, rfl⟩, ?_⟩⟩
  rintro ⟨i, q, rows, hq, hcloses, -⟩
  obtain rfl := List.mem_singleton.1 (List.mem_of_getElem? hq)
  rcases hcloses with htext | htext
  · exact absurd htext (by decide)
  · exact absurd htext (by decide)

end Database

end AuthGate
