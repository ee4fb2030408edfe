import AuthGate.Proofs.Session.Refresh
import Mathlib.Logic.Function.Basic
import Mathlib.Logic.Relation

/-! Refreshes of one token side by side. Between any two calls of one refresh the others may go on;
the first rotation wins, and whoever comes later leaves the owner without live records. -/

namespace AuthGate.Session

open Program Relation

variable {ι : Type}

/-- Refreshes that share the stores: what is left of each, and the calls it has made. -/
structure Shared (ι : Type) where
  memory : Memory
  rest : ι → Program Token.Pair
  made : ι → List Call

def Spares (u : Value) (s s' : Memory) : Prop :=
  ∀ k r, r.userId.same u = true → (s'.record? k = some r ↔ s.record? k = some r)

/-- One of the refreshes makes its next call or writes its next line, or something else happens that
spares the records of the owner. -/
inductive Move [DecidableEq ι] (u : Value) (mayFail : Prop) : Shared ι → Shared ι → Prop where
  | call {x : Shared ι} {i : ι} {c : Call} {next : Except Failure c.Answer → Program Token.Pair} :
      x.rest i = .call c next → mayFail ∨ (∃ a, (Memory.stores c x.memory).result = .ok a) →
      Move u mayFail x
        { memory := (Memory.stores c x.memory).state
          rest := Function.update x.rest i (next (Memory.stores c x.memory).result)
          made := Function.update x.made i (c :: x.made i) }
  | write {x : Shared ι} {i : ι} {l : Log.Line} {next : Program Token.Pair} :
      x.rest i = .write l next →
      Move u mayFail x { x with rest := Function.update x.rest i next }
  | other {x : Shared ι} {s : Memory} : Spares u x.memory s →
      Move u mayFail x { x with memory := s }

lemma Move.mayFail [DecidableEq ι] {u : Value} {x y : Shared ι} (h : Move u False x y) :
    Move u True x y := by
  cases h with
  | call hrest _ => exact .call hrest (.inl trivial)
  | write hrest => exact .write hrest
  | other hs => exact .other hs

def Ends (P : Except Failure Token.Pair → Prop) : Program Token.Pair → Prop
  | .done r => P r
  | .write _ next => Ends P next
  | .call _ _ => False

def IsError (r : Except Failure Token.Pair) : Prop := ∃ f, r = .error f

inductive Stage where
  | starting
  | asking
  | won
  | losing
  | lost
  | out

def Stage.Rotated (st : Stage) : Prop := st = .won ∨ st = .losing ∨ st = .lost

section

variable (k : ℕ) (u : String) (W L : Except Failure Token.Pair → Prop)

def Losing (p : Program Token.Pair) : Prop :=
  ∃ next, p = .call (.revokeAllFor (.str u)) next ∧ (∀ f, Ends IsError (next (.error f))) ∧
    ∀ n, Ends L (next (.ok n))

def Asking (p : Program Token.Pair) : Prop :=
  ∃ next, p = .call (.rotate k (.str u)) next ∧ (∀ f, Ends IsError (next (.error f))) ∧
    Losing u L (next (.ok none)) ∧ ∀ id, Ends W (next (.ok (some id)))

def Starting (p : Program Token.Pair) : Prop :=
  ∃ next, p = .call (.findById u) next ∧ (∀ f, Ends IsError (next (.error f))) ∧
    Ends IsError (next (.ok none)) ∧ ∀ user : User, user.id = .str u →
      (user.status ≠ .confirmed → Ends IsError (next (.ok (some user)))) ∧
      (user.status = .confirmed → Asking k u W L (next (.ok (some user))))

/-- A refresh of record `k` of user `u`, where those that win end in `W` and those that lose in
`L`. -/
def At : Stage → Program Token.Pair → Prop
  | .starting => Starting k u W L
  | .asking => Asking k u W L
  | .won => Ends W
  | .losing => Losing u L
  | .lost => Ends L
  | .out => Ends IsError

inductive Turn (s s' : Memory) (failed : Prop) : Call → Stage → Stage → Prop where
  | found : s'.records = s.records → Turn s s' failed (.findById u) .starting .asking
  | refused : s'.records = s.records → Turn s s' failed (.findById u) .starting .out
  | failed : failed → s'.records = s.records → Turn s s' failed (.rotate k (.str u)) .asking .out
  | used : s.isLive k (.str u) = false → s'.records = s.records →
      Turn s s' failed (.rotate k (.str u)) .asking .losing
  | rotated : s.Rotated s' k (.str u) → Turn s s' failed (.rotate k (.str u)) .asking .won
  | uncleared : failed → s'.records = s.records →
      Turn s s' failed (.revokeAllFor (.str u)) .losing .out
  | cleared : s.Cleared s' (.str u) → Turn s s' failed (.revokeAllFor (.str u)) .losing .lost

end

variable {k : ℕ} {u : String} {W L : Except Failure Token.Pair → Prop} {st : Stage}

lemma at_write {l : Log.Line} {next : Program Token.Pair} (h : At k u W L st (.write l next)) :
    At k u W L st next := by
  cases st with
  | starting => obtain ⟨next, he, -⟩ := h; cases he
  | asking => obtain ⟨next, he, -⟩ := h; cases he
  | losing => obtain ⟨next, he, -⟩ := h; cases he
  | won => exact h
  | lost => exact h
  | out => exact h

lemma at_call {c : Call} {next : Except Failure c.Answer → Program Token.Pair}
    (h : At k u W L st (.call c next)) (s : Memory) :
    ∃ st', At k u W L st' (next (Memory.stores c s).result) ∧
      Turn k u s (Memory.stores c s).state (Memory.Fails (Memory.stores c s).result) c st st' := by
  cases st with
  | starting =>
    obtain ⟨next', he, hfail, hnone, hsome⟩ := h
    cases he
    obtain ⟨hs, ⟨name, text, hr⟩ | hr⟩ := Memory.findById_cases u s
    · exact ⟨.out, by rw [hr]; exact hfail _, .refused hs⟩
    · rw [hr]
      cases hu : s.users.find? (·.id.same (.str u)) with
      | none => exact ⟨.out, hnone, .refused hs⟩
      | some user =>
        have howner : user.id = .str u := Value.same_str.1 (by simpa using List.find?_some hu)
        by_cases hc : user.status = .confirmed
        · exact ⟨.asking, (hsome user howner).2 hc, .found hs⟩
        · exact ⟨.out, (hsome user howner).1 hc, .refused hs⟩
  | asking =>
    obtain ⟨next', he, hfail, hnone, hsome⟩ := h
    cases he
    rcases Memory.rotate_cases k (.str u) s with ⟨hf, hs⟩ | ⟨hr, hl, hs⟩ | ⟨hr, hrot⟩
    · refine ⟨.out, ?_, .failed hf hs⟩
      obtain ⟨name, text, hr⟩ := hf
      rw [hr]
      exact hfail _
    · exact ⟨.losing, by rw [hr]; exact hnone, .used hl hs⟩
    · exact ⟨.won, by rw [hr]; exact hsome _, .rotated hrot⟩
  | losing =>
    obtain ⟨next', he, hfail, hok⟩ := h
    cases he
    rcases Memory.revokeAllFor_cases (.str u) s with ⟨hf, hs⟩ | ⟨hr, hclear⟩
    · refine ⟨.out, ?_, .uncleared hf hs⟩
      obtain ⟨name, text, hr⟩ := hf
      rw [hr]
      exact hfail _
    · exact ⟨.lost, by rw [hr]; exact hok _, .cleared hclear⟩
  | won => exact h.elim
  | lost => exact h.elim
  | out => exact h.elim

section

variable {t : Token.Issuer} {m : Moment} {requestId : Value} {token : String}

lemma ends_log {P : Except Failure Token.Pair → Prop} {e : Log.Entry}
    {f : Unit → Program Token.Pair} (he : ∀ g, P (.error g)) (h : Ends P (f ())) :
    Ends P ((log m e).bind f) := by
  rw [log]
  split
  · exact h
  · exact he _

def issue (t : Token.Issuer) (m : Moment) (requestId : Value) (u : String) (id : Value) :
    Program Token.Pair :=
  (log m (.authentication requestId (.str u) (.bool true) .undefined .undefined)).bind fun _ =>
    done (t.createPair m (.str u) id)

def report (m : Moment) (requestId : Value) (k : ℕ) (u : String) (count : ℕ) :
    Program Token.Pair :=
  (log m (.security requestId (.str u) (.str "REFRESH_TOKEN_REUSE") (.str "HIGH")
    (.obj [("token_id", .ofNat k), ("revoked_count", .ofNat count)]))).bind fun _ => raise reused

lemma losing_reuse (hL : ∀ count, Ends L (report m requestId k u count)) :
    Losing u L (reuse m requestId k (.str u)) := by
  refine ⟨_, rfl, ?_, ?_⟩
  · intro f
    exact ⟨f, rfl⟩
  · exact hL

lemma refresh_at (htok : ∀ claims, t.codec.decodeRefresh m token = .ok claims →
      claims.tokenId = k ∧ claims.id = u)
    (hW : ∀ id, Ends W (issue t m requestId u id))
    (hL : ∀ count, Ends L (report m requestId k u count)) :
    ∃ st, (st = .starting ∨ st = .out) ∧ At k u W L st (Session.refresh t m requestId token) := by
  have hraise (e : Log.Entry) (f : Failure) :
      Ends IsError ((log m e).bind fun _ => raise f) := ends_log (fun g => ⟨g, rfl⟩) ⟨f, rfl⟩
  rw [Session.refresh]
  cases hd : t.codec.decodeRefresh m token with
  | error f => exact ⟨.out, .inr rfl, f, rfl⟩
  | ok claims =>
    obtain ⟨rfl, rfl⟩ := htok claims hd
    refine ⟨.starting, .inl rfl, _, rfl, fun f => ⟨f, rfl⟩, hraise _ _, fun user howner => ?_⟩
    obtain ⟨id, email, passwordHash, status, firstName, lastName, createdAt, updatedAt⟩ := user
    obtain rfl : id = .str claims.id := howner
    refine ⟨fun hc => ?_, fun hc => ?_⟩
    · simp only [bind_ok, refreshFor, if_pos hc]
      exact hraise _ _
    · obtain rfl : status = .confirmed := hc
      simp only [bind_ok, refreshFor, ne_eq, not_true_eq_false, if_false]
      refine ⟨_, rfl, ?_, ?_, ?_⟩
      · intro f
        exact ⟨f, rfl⟩
      · exact losing_reuse hL
      · exact hW

end

section

variable {x y : Shared ι} {mayFail : Prop} {s s' : Memory} {stages : ι → Stage} {i : ι}

lemma Spares.isLive (h : Spares (.str u) s s') (j : ℕ) :
    s'.isLive j (.str u) = s.isLive j (.str u) := by
  rw [Bool.eq_iff_iff, Memory.isLive_iff, Memory.isLive_iff]
  exact exists_congr fun r => ⟨fun ⟨hr, hl, hu⟩ => ⟨(h j r hu).1 hr, hl, hu⟩,
    fun ⟨hr, hl, hu⟩ => ⟨(h j r hu).2 hr, hl, hu⟩⟩

lemma rotated_not_live (h : s.Rotated s' k (.str u)) : s'.isLive k (.str u) = false := by
  rw [← Bool.not_eq_true, Memory.isLive_iff]
  rintro ⟨r, hr, hl, -⟩
  obtain ⟨r', hr', hl'⟩ := h.dead
  obtain rfl := Option.some.inj (hr.symm.trans hr')
  exact absurd hl (by simp [hl'])

def Winner (w : ι) (stages : ι → Stage) : Prop := ∀ i, stages i = .won ↔ i = w

def Safe (k : ℕ) (u : String) (s : Memory) (stages : ι → Stage) : Prop :=
  (∀ i, stages i ≠ .won) ∨ ∃ w, Winner w stages ∧ s.isLive k (.str u) = false

lemma Safe.spares (h : Safe k u s stages) (hs : Spares (.str u) s s') : Safe k u s' stages := by
  rcases h with h | ⟨w, hw, hl⟩
  · exact .inl h
  · exact .inr ⟨w, hw, by rw [hs.isLive, hl]⟩

lemma Safe.winner_unique (h : Safe k u s stages) {j : ι} (hi : stages i = .won)
    (hj : stages j = .won) : i = j := by
  rcases h with h | ⟨w, hw, -⟩
  · exact absurd hi (h i)
  · rw [(hw i).1 hi, (hw j).1 hj]

/-- The record is live and no rotation was answered; or one refresh has won, the record is used up,
and once another has lost the owner has no live record. -/
def Settled (k : ℕ) (u : String) (s : Memory) (stages : ι → Stage) : Prop :=
  (s.isLive k (.str u) = true ∧ ∀ i, ¬ (stages i).Rotated) ∨
    ∃ w, Winner w stages ∧ s.isLive k (.str u) = false ∧
      ((∃ i, stages i = .lost) → ∀ j, s.isLive j (.str u) = false)

lemma Settled.spares (h : Settled k u s stages) (hs : Spares (.str u) s s') :
    Settled k u s' stages := by
  rcases h with ⟨hl, hnone⟩ | ⟨w, hw, hl, hdead⟩
  · exact .inl ⟨by rw [hs.isLive, hl], hnone⟩
  · exact .inr ⟨w, hw, by rw [hs.isLive, hl], fun h j => by rw [hs.isLive, hdead h j]⟩

variable [DecidableEq ι]

lemma update_ne_won {st : Stage} (hst : st ≠ .won) {j : ι} (hj : stages j ≠ .won) :
    Function.update stages i st j ≠ .won := by
  by_cases hji : j = i
  · subst hji
    rwa [Function.update_self]
  · rwa [Function.update_of_ne hji]

lemma winner_update (h : ∀ j, stages j ≠ .won) : Winner i (Function.update stages i .won) := by
  intro j
  by_cases hji : j = i
  · subst hji
    simp
  · rw [Function.update_of_ne hji]
    exact iff_of_false (h j) hji

lemma Winner.update {w : ι} {st : Stage} (h : Winner w stages) (hi : stages i ≠ .won)
    (hst : st ≠ .won) : Winner w (Function.update stages i st) := by
  intro j
  by_cases hji : j = i
  · subst hji
    rw [Function.update_self, ← h j]
    exact iff_of_false hst hi
  · rw [Function.update_of_ne hji, h j]

lemma Safe.keep {st : Stage} (h : Safe k u s stages) (hi : stages i ≠ .won) (hst : st ≠ .won)
    (hs : s.isLive k (.str u) = false → s'.isLive k (.str u) = false) :
    Safe k u s' (Function.update stages i st) := by
  rcases h with h | ⟨w, hw, hl⟩
  · exact .inl fun j => update_ne_won hst (h j)
  · exact .inr ⟨w, hw.update hi hst, hs hl⟩

lemma Safe.turn {c : Call} {failed : Prop} {st : Stage} (h : Safe k u s stages)
    (ht : Turn k u s s' failed c (stages i) st) : Safe k u s' (Function.update stages i st) := by
  generalize hi : stages i = before at ht
  have hsame (hs : s'.records = s.records) :
      s.isLive k (.str u) = false → s'.isLive k (.str u) = false := by
    rw [Memory.isLive_congr hs]
    exact id
  cases ht with
  | found hs => exact h.keep (by simp [hi]) (by simp) (hsame hs)
  | refused hs => exact h.keep (by simp [hi]) (by simp) (hsame hs)
  | failed _ hs => exact h.keep (by simp [hi]) (by simp) (hsame hs)
  | used _ hs => exact h.keep (by simp [hi]) (by simp) (hsame hs)
  | uncleared _ hs => exact h.keep (by simp [hi]) (by simp) (hsame hs)
  | cleared hc => exact h.keep (by simp [hi]) (by simp) fun _ => hc.dead k
  | rotated hrot =>
    -- A live record means that nobody has won yet.
    rcases h with h | ⟨w, -, hl⟩
    · exact .inr ⟨i, winner_update h, rotated_not_live hrot⟩
    · exact absurd hrot.live (by simp [hl])

lemma Turn.imp {c : Call} {failed failed' : Prop} {st st' : Stage}
    (h : Turn k u s s' failed c st st') (hf : failed → failed') :
    Turn k u s s' failed' c st st' := by
  cases h with
  | found hs => exact .found hs
  | refused hs => exact .refused hs
  | failed hfail hs => exact .failed (hf hfail) hs
  | used hl hs => exact .used hl hs
  | rotated hrot => exact .rotated hrot
  | uncleared hfail hs => exact .uncleared (hf hfail) hs
  | cleared hc => exact .cleared hc

lemma move_cases (h : Move (.str u) mayFail x y) (hat : ∀ i, At k u W L (stages i) (x.rest i)) :
    (∃ i c st, (∀ j, At k u W L (Function.update stages i st j) (y.rest j)) ∧
      Turn k u x.memory y.memory mayFail c (stages i) st ∧
      y.made = Function.update x.made i (c :: x.made i)) ∨
    (∀ j, At k u W L (stages j) (y.rest j)) ∧ Spares (.str u) x.memory y.memory ∧
      y.made = x.made := by
  cases h with
  | @call i c next hrest hok =>
    have hi := hat i
    rw [hrest] at hi
    obtain ⟨st, hst, hturn⟩ := at_call hi x.memory
    refine .inl ⟨i, c, st, fun j => ?_, hturn.imp ?_, rfl⟩
    · dsimp only
      rcases eq_or_ne j i with rfl | hji
      · rw [Function.update_self, Function.update_self]
        exact hst
      · rw [Function.update_of_ne hji, Function.update_of_ne hji]
        exact hat j
    · rintro ⟨name, text, hr⟩
      rcases hok with hm | ⟨a, ha⟩
      · exact hm
      · exact absurd (ha.symm.trans hr) (by simp)
  | @write i l next hrest =>
    refine .inr ⟨fun j => ?_, fun _ _ _ => Iff.rfl, rfl⟩
    dsimp only
    rcases eq_or_ne j i with rfl | hji
    · rw [Function.update_self]
      exact at_write (hrest ▸ hat j)
    · rw [Function.update_of_ne hji]
      exact hat j
  | other hs => exact .inr ⟨hat, hs, rfl⟩

def begin (t : Token.Issuer) (ms : ι → Moment) (requestIds : ι → Value) (tokens : ι → String)
    (s : Memory) : Shared ι :=
  { memory := s
    rest := fun i => Session.refresh t (ms i) (requestIds i) (tokens i)
    made := fun _ => [] }

lemma safe_run (h : ReflTransGen (Move (.str u) mayFail) x y)
    (hx : ∃ stages, (∀ i, At k u W L (stages i) (x.rest i)) ∧ Safe k u x.memory stages) :
    ∃ stages, (∀ i, At k u W L (stages i) (y.rest i)) ∧ Safe k u y.memory stages := by
  induction h with
  | refl => exact hx
  | tail _ hmove ih =>
    obtain ⟨stages, hat, hsafe⟩ := ih
    rcases move_cases hmove hat with ⟨i, c, st, hat', hturn, -⟩ | ⟨hat', hs, -⟩
    · exact ⟨_, hat', hsafe.turn hturn⟩
    · exact ⟨_, hat', hsafe.spares hs⟩

lemma at_done {st : Stage} {r : Except Failure Token.Pair} (h : At k u W L st (.done r)) :
    st = .won ∧ W r ∨ st = .lost ∧ L r ∨ st = .out ∧ IsError r := by
  cases st with
  | starting => obtain ⟨next, he, -⟩ := h; cases he
  | asking => obtain ⟨next, he, -⟩ := h; cases he
  | losing => obtain ⟨next, he, -⟩ := h; cases he
  | won => exact .inl ⟨rfl, h⟩
  | lost => exact .inr (.inl ⟨rfl, h⟩)
  | out => exact .inr (.inr ⟨rfl, h⟩)

lemma lost_of_update {st : Stage} (hst : st ≠ .lost) {j : ι}
    (h : Function.update stages i st j = .lost) : stages j = .lost := by
  by_cases hji : j = i
  · subst hji
    rw [Function.update_self] at h
    exact absurd h hst
  · rwa [Function.update_of_ne hji] at h

lemma Settled.keep {st : Stage} (h : Settled k u s stages) (hi : stages i ≠ .won)
    (hst : st ≠ .won ∧ st ≠ .lost) (hs : s'.records = s.records)
    (hlive : s.isLive k (.str u) = true → ¬ st.Rotated) :
    Settled k u s' (Function.update stages i st) := by
  have hsame (j : ℕ) := Memory.isLive_congr hs j (.str u)
  rcases h with ⟨hl, hnone⟩ | ⟨w, hw, hl, hdead⟩
  · refine .inl ⟨by rw [hsame, hl], fun j => ?_⟩
    by_cases hji : j = i
    · subst hji
      rw [Function.update_self]
      exact hlive hl
    · rw [Function.update_of_ne hji]
      exact hnone j
  · refine .inr ⟨w, hw.update hi hst.1, by rw [hsame, hl], ?_⟩
    rintro ⟨j, hj⟩ l
    rw [hsame, hdead ⟨j, lost_of_update hst.2 hj⟩]

lemma Settled.turn {c : Call} {st : Stage} (h : Settled k u s stages)
    (ht : Turn k u s s' False c (stages i) st) :
    Settled k u s' (Function.update stages i st) := by
  generalize hi : stages i = before at ht
  cases ht with
  | failed hf => exact hf.elim
  | uncleared hf => exact hf.elim
  | found hs => exact h.keep (by simp [hi]) (by simp) hs (by simp [Stage.Rotated])
  | refused hs => exact h.keep (by simp [hi]) (by simp) hs (by simp [Stage.Rotated])
  | used hl hs => exact h.keep (by simp [hi]) (by simp) hs (by simp [hl])
  | rotated hrot =>
    rcases h with ⟨-, hnone⟩ | ⟨w, -, hl, -⟩
    · have hfirst : Winner i (Function.update stages i .won) :=
        winner_update fun j hj => hnone j (.inl hj)
      refine .inr ⟨i, hfirst, rotated_not_live hrot, ?_⟩
      -- Nobody has lost yet, for nobody has asked before.
      rintro ⟨j, hj⟩
      exact absurd (.inr (.inr (lost_of_update (by simp) hj))) (hnone j)
    · exact absurd hrot.live (by simp [hl])
  | cleared hc =>
    rcases h with ⟨-, hnone⟩ | ⟨w, hw, -, -⟩
    · exact absurd (.inr (.inl hi)) (hnone i)
    · exact .inr ⟨w, hw.update (by simp [hi]) (by simp), hc.dead k, fun _ => hc.dead⟩

lemma Turn.rotated_iff {c : Call} {st st' : Stage} (h : Turn k u s s' False c st st') :
    st'.Rotated ↔ .rotate k (.str u) = c ∨ st.Rotated := by
  cases h with
  | failed hf => exact hf.elim
  | uncleared hf => exact hf.elim
  | found => simp [Stage.Rotated]
  | refused => simp [Stage.Rotated]
  | used => simp [Stage.Rotated]
  | rotated => simp [Stage.Rotated]
  | cleared => simp [Stage.Rotated]

structure Known (k : ℕ) (u : String) (W L : Except Failure Token.Pair → Prop) (x : Shared ι)
    (stages : ι → Stage) : Prop where
  at_stage : ∀ i, At k u W L (stages i) (x.rest i)
  rotated : ∀ i, .rotate k (.str u) ∈ x.made i ↔ (stages i).Rotated
  settled : Settled k u x.memory stages

lemma known_run (h : ReflTransGen (Move (.str u) False) x y)
    (hx : ∃ stages, Known k u W L x stages) : ∃ stages, Known k u W L y stages := by
  induction h with
  | refl => exact hx
  | tail _ hmove ih =>
    obtain ⟨stages, hat, hmade, hset⟩ := ih
    rcases move_cases hmove hat with ⟨i, c, st, hat', hturn, hm⟩ | ⟨hat', hs, hm⟩
    · refine ⟨_, hat', fun j => ?_, hset.turn hturn⟩
      rw [hm]
      rcases eq_or_ne j i with rfl | hji
      · rw [Function.update_self, Function.update_self, List.mem_cons, hmade, hturn.rotated_iff]
      · rw [Function.update_of_ne hji, Function.update_of_ne hji, hmade]
    · exact ⟨stages, hat', fun j => by rw [hm, hmade], hset.spares hs⟩

end

section

variable {t : Token.Issuer} {m : Moment} {now : ℚ} {issuer : String} {access refresh : Number}

lemma ends_issue (ht : t.Sound issuer access refresh) (hm : m.clock.seconds = .ok (.finite now))
    (h1 : 1 ≤ now) (hw : (Calendar.iso? m.wall).isSome = true) (requestId id : Value) :
    Ends (fun r => ∃ pair, r = .ok pair) (issue t m requestId u id) := by
  obtain ⟨line, hline⟩ := Log.Entry.write_authentication hw requestId (.str u) (.bool true)
    .undefined .undefined (.inl rfl)
  have h0 : now ≠ 0 := (zero_lt_one.trans_le h1).ne'
  rw [issue, log_eq hline]
  exact ⟨_, Token.Issuer.createPair_eq_ok ht hm h0 u id⟩

lemma ends_report (hw : (Calendar.iso? m.wall).isSome = true) (requestId : Value) (count : ℕ) :
    Ends (· = .error reused) (report m requestId k u count) := by
  obtain ⟨time, htime⟩ := Option.isSome_iff_exists.1 hw
  rw [report, log_eq (Log.Entry.write_reuse htime _ _ _ _)]
  rfl

end

section

variable {t : Token.Issuer} {ms : ι → Moment} {requestIds : ι → Value} {tokens : ι → String}
  {s : Memory} {x : Shared ι}

/-- Refreshes by tokens of one record, where all tokens that are accepted name it and its owner. -/
def OfRecord (t : Token.Issuer) (ms : ι → Moment) (tokens : ι → String) (k : ℕ) (u : String) :
    Prop :=
  ∀ i claims, t.codec.decodeRefresh (ms i) (tokens i) = .ok claims →
    claims.tokenId = k ∧ claims.id = u

lemma known_begin {issuer : String} {access refresh : Number} (htok : OfRecord t ms tokens k u)
    (ht : t.Sound issuer access refresh)
    (hclock : ∀ i, ∃ now : ℚ, 1 ≤ now ∧ (ms i).clock.seconds = .ok (.finite now))
    (hwall : ∀ i, (Calendar.iso? (ms i).wall).isSome = true) (hlive : s.isLive k (.str u) = true) :
    ∃ stages, Known k u (fun r => ∃ pair, r = .ok pair) (· = .error reused)
      (begin t ms requestIds tokens s) stages := by
  have hstart (i : ι) : ∃ st, (st = .starting ∨ st = .out) ∧ At k u (fun r => ∃ pair, r = .ok pair)
      (· = .error reused) st (Session.refresh t (ms i) (requestIds i) (tokens i)) := by
    obtain ⟨now, h1, hm⟩ := hclock i
    exact refresh_at (htok i) (ends_issue ht hm h1 (hwall i) (requestIds i))
      (ends_report (hwall i) (requestIds i))
  choose first hfirst hat using hstart
  have hnone : ∀ i, ¬ (first i).Rotated := fun i => by
    rcases hfirst i with hs | hs <;> simp [hs, Stage.Rotated]
  exact ⟨first, hat, fun i => iff_of_false (List.not_mem_nil) (hnone i), .inl ⟨hlive, hnone⟩⟩

lemma Known.ended {stages : ι → Stage}
    (h : Known k u (fun r => ∃ pair, r = .ok pair) (· = .error reused) x stages)
    (hdone : ∀ i, ∃ r, x.rest i = .done r) {i j : ι} (hij : i ≠ j)
    (hi : .rotate k (.str u) ∈ x.made i) (hj : .rotate k (.str u) ∈ x.made j) :
    (∃ w, (∃ pair, x.rest w = .done (.ok pair)) ∧ ∀ l ≠ w, (∀ pair, x.rest l ≠ .done (.ok pair)) ∧
      (.rotate k (.str u) ∈ x.made l → x.rest l = .done (.error reused))) ∧
    ∀ l, x.memory.isLive l (.str u) = false := by
  rcases h.settled with ⟨-, hnone⟩ | ⟨w, hw, -, hdead⟩
  · exact absurd ((h.rotated i).1 hi) (hnone i)
  have hwon : stages w = .won := (hw w).2 rfl
  -- Whoever else has asked for a rotation has lost.
  have hlost (l : ι) (hl : l ≠ w) (hmade : .rotate k (.str u) ∈ x.made l) : stages l = .lost := by
    obtain ⟨r, hr⟩ := hdone l
    rcases at_done (hr ▸ h.at_stage l) with ⟨hs, -⟩ | ⟨hs, -⟩ | ⟨hs, -⟩
    · exact absurd ((hw l).1 hs) hl
    · exact hs
    · have hrot := (h.rotated l).1 hmade
      simp [hs, Stage.Rotated] at hrot
  refine ⟨⟨w, ?_, fun l hl => ⟨fun pair hp => ?_, fun hmade => ?_⟩⟩, hdead ?_⟩
  · obtain ⟨r, hr⟩ := hdone w
    rcases at_done (hr ▸ h.at_stage w) with ⟨-, pair, rfl⟩ | ⟨hs, -⟩ | ⟨hs, -⟩
    · exact ⟨pair, hr⟩
    · exact absurd (hwon.symm.trans hs) (by simp)
    · exact absurd (hwon.symm.trans hs) (by simp)
  · rcases at_done (hp ▸ h.at_stage l) with ⟨hs, -⟩ | ⟨-, hr⟩ | ⟨-, f, hf⟩
    · exact hl ((hw l).1 hs)
    · cases hr
    · cases hf
  · obtain ⟨r, hr⟩ := hdone l
    rcases at_done (hr ▸ h.at_stage l) with ⟨hs, -⟩ | ⟨-, hl'⟩ | ⟨hs, -⟩
    · exact absurd ((hw l).1 hs) hl
    · rw [hr, hl']
    · exact absurd (hs.symm.trans (hlost l hl hmade)) (by simp)
  · rcases eq_or_ne i w with rfl | hiw
    · exact ⟨j, hlost j hij.symm hj⟩
    · exact ⟨i, hlost i hiw hi⟩

variable [DecidableEq ι]

lemma winner_unique (htok : OfRecord t ms tokens k u)
    (h : ReflTransGen (Move (.str u) True) (begin t ms requestIds tokens s) x) {i j : ι}
    {p q : Token.Pair} (hi : x.rest i = .done (.ok p)) (hj : x.rest j = .done (.ok q)) : i = j := by
  have hstart (i : ι) : ∃ st, (st = .starting ∨ st = .out) ∧
      At k u (fun _ => True) IsError st (Session.refresh t (ms i) (requestIds i) (tokens i)) :=
    refresh_at (htok i) (fun _ => ends_log (fun _ => trivial) trivial)
      (fun _ => ends_log (fun g => ⟨g, rfl⟩) ⟨reused, rfl⟩)
  choose first hfirst hat using hstart
  have hnone : ∀ i, first i ≠ .won := fun i => by rcases hfirst i with hs | hs <;> simp [hs]
  obtain ⟨stages, hat', hsafe⟩ := safe_run h ⟨first, hat, .inl hnone⟩
  have hwon (l : ι) (r : Token.Pair) (hl : x.rest l = .done (.ok r)) : stages l = .won := by
    rcases at_done (hl ▸ hat' l) with ⟨hs, -⟩ | ⟨-, f, hf⟩ | ⟨-, f, hf⟩
    · exact hs
    · cases hf
    · cases hf
  exact hsafe.winner_unique (hwon i p hi) (hwon j q hj)

/-- Of refreshes side by side by tokens of one record at most one gives a pair. If the record is
live, no call fails and two of them ask for its rotation, then one gives a pair, all others that
have asked are refused, and in the end their owner has no live record. The wall clocks, which only
the log reads, tell a date, as that of a system always does. -/
theorem concurrent_refresh (htok : OfRecord t ms tokens k u) :
    (ReflTransGen (Move (.str u) True) (begin t ms requestIds tokens s) x →
      ∀ i j p q, x.rest i = .done (.ok p) → x.rest j = .done (.ok q) → i = j) ∧
    ∀ settings secret issuer access refresh, Token.Regular settings secret issuer access refresh →
      Token.Issuer.make? settings = .ok t →
      (∀ i, ∃ now : ℚ, 1 ≤ now ∧ (ms i).clock.seconds = .ok (.finite now)) →
      (∀ i, (Calendar.iso? (ms i).wall).isSome = true) → s.isLive k (.str u) = true →
      ReflTransGen (Move (.str u) False) (begin t ms requestIds tokens s) x →
      (∀ i, ∃ r, x.rest i = .done r) →
      (∃ i j, i ≠ j ∧ .rotate k (.str u) ∈ x.made i ∧ .rotate k (.str u) ∈ x.made j) →
      (∃ w, (∃ pair, x.rest w = .done (.ok pair)) ∧
        ∀ i ≠ w, (∀ pair, x.rest i ≠ .done (.ok pair)) ∧
          (.rotate k (.str u) ∈ x.made i → x.rest i = .done (.error reused))) ∧
      ∀ j, x.memory.isLive j (.str u) = false := by
  refine ⟨fun h i j p q hi hj => winner_unique htok h hi hj, ?_⟩
  intro settings secret issuer access refresh hs ht hclock hwall hlive h hdone hasked
  obtain ⟨i, j, hij, hi, hj⟩ := hasked
  obtain ⟨stages, hknown⟩ := known_run h (known_begin htok (hs.sound ht) hclock hwall hlive)
  exact hknown.ended hdone hij hi hj

end

def race : Shared Bool :=
  begin Token.sampleIssuer (fun _ => Token.sampleMoment) (fun _ => .undefined)
    (fun _ => lastingToken) sampleMemory

lemma race_ends : ∃ x, ReflTransGen (Move (.str "user-1") False) race x ∧
    (∃ p, x.rest false = .done (.ok p)) ∧ x.rest true = .done (.error reused) ∧
    ∀ i, .rotate 1 (.str "user-1") ∈ x.made i := by
  obtain ⟨line, hline⟩ := Log.Entry.write_authentication Token.sampleMoment_wall .undefined
    (.str "user-1") (.bool true) .undefined .undefined (.inl rfl)
  obtain ⟨time, htime⟩ := Option.isSome_iff_exists.1 Token.sampleMoment_wall
  obtain ⟨pair, hpair⟩ : ∃ pair,
      Token.sampleIssuer.createPair Token.sampleMoment (.str "user-1") (.ofNat 2) = .ok pair :=
    ⟨_, Token.Issuer.createPair_eq_ok
      (Token.regular_sampleSettings.sound Token.make?_sampleSettings) Token.sampleMoment_seconds
      (by norm_num) "user-1" (.ofNat 2)⟩
  have hstart : Session.refresh Token.sampleIssuer Token.sampleMoment .undefined
      lastingToken = (ask (.findById "user-1")).bind
        (refreshFor Token.sampleIssuer Token.sampleMoment .undefined
          ⟨⟨"user-1", .finite 1, .finite (2 ^ 71)⟩, 1⟩) := by
    rw [Session.refresh]
    rw [decodeRefresh_sample]
    rfl
  have hissue : issue Token.sampleIssuer Token.sampleMoment .undefined "user-1" (.ofNat 2) =
      .write line (.done (.ok pair)) := by
    rw [issue, log_eq hline, hpair]
    rfl
  have hreport : report Token.sampleMoment .undefined 1 "user-1" 1 =
      .write (Log.Entry.reuseLine time .undefined (.str "user-1") 1 1) (.done (.error reused)) := by
    rw [report, log_eq (Log.Entry.write_reuse htime _ _ _ _)]
    rfl
  refine ⟨_, .head (.call (i := false) hstart (.inr ⟨_, rfl⟩)) <|
    .head (.call (i := true) hstart (.inr ⟨_, rfl⟩)) <|
    .head (.call (i := false) rfl (.inr ⟨_, rfl⟩)) <|
    .head (.call (i := true) rfl (.inr ⟨_, rfl⟩)) <|
    .head (.write (i := false) hissue) <|
    .head (.call (i := true) rfl (.inr ⟨_, rfl⟩)) <|
    .head (.write (i := true) hreport) .refl, ⟨pair, rfl⟩, rfl, fun i => ?_⟩
  cases i with
  | false => exact List.mem_cons_self
  | true => exact List.mem_cons_of_mem _ List.mem_cons_self

theorem concurrent_refresh_race : ∃ x, ReflTransGen (Move (.str "user-1") False) race x ∧
    (∃ w, (∃ pair, x.rest w = .done (.ok pair)) ∧ x.rest (!w) = .done (.error reused) ∧
      ∀ i p q, x.rest i = .done (.ok p) → x.rest w = .done (.ok q) → i = w) ∧
    ∀ j, x.memory.isLive j (.str "user-1") = false := by
  obtain ⟨x, hrun, ⟨p, hfalse⟩, htrue, hmade⟩ := race_ends
  have htok : OfRecord Token.sampleIssuer (fun _ : Bool => Token.sampleMoment)
      (fun _ => lastingToken) 1 "user-1" := fun _ claims h => by
    obtain rfl := Except.ok.inj (decodeRefresh_sample.symm.trans h)
    exact ⟨rfl, rfl⟩
  have hdone (i : Bool) : ∃ r, x.rest i = .done r := by
    cases i with
    | false => exact ⟨_, hfalse⟩
    | true => exact ⟨_, htrue⟩
  obtain ⟨⟨w, hwon, hothers⟩, hdead⟩ := (concurrent_refresh htok).2 Token.sampleSettings
    "test-secret" "wishlist-backend" (.finite 3600) (.finite 2592000)
    Token.regular_sampleSettings Token.make?_sampleSettings
    (fun _ => ⟨1700000000, by norm_num, Token.sampleMoment_seconds⟩)
    (fun _ => Token.sampleMoment_wall) rfl hrun hdone
    ⟨false, true, by decide, hmade false, hmade true⟩
  refine ⟨x, hrun, ⟨w, hwon, (hothers (!w) (by simp)).2 (hmade _), fun i p q => ?_⟩, hdead⟩
  exact (concurrent_refresh htok).1 (ReflTransGen.mono (fun _ _ => Move.mayFail) _ _ hrun) i w p q

end AuthGate.Session
