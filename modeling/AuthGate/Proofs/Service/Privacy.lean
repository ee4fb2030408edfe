import AuthGate.Memory.Scenario
import AuthGate.Proofs.Memory
import AuthGate.Proofs.Parallel
import AuthGate.Proofs.Service.Discretion
import AuthGate.Proofs.Session.Consumption

namespace AuthGate

open Program

/-- The same user to everyone else. -/
structure User.Kin (u u' : User) : Prop where
  id : u'.id = u.id
  email : u'.email = u.email
  status : u'.status = u.status

lemma User.Kin.eq {u u' : User} (h : u.Kin u') : u' =
    { u with
      passwordHash := u'.passwordHash
      firstName := u'.firstName
      lastName := u'.lastName
      createdAt := u'.createdAt
      updatedAt := u'.updatedAt } := by
  obtain ⟨hid, hemail, hstatus⟩ := h
  rw [← hid, ← hemail, ← hstatus]

inductive FoundBoth (K : User → User → Prop) :
    Except Failure (Option User) → Except Failure (Option User) → Prop
  | failed (f : Failure) : FoundBoth K (.error f) (.error f)
  | nobody : FoundBoth K (.ok none) (.ok none)
  | user {u u'} : K u u' → FoundBoth K (.ok (some u)) (.ok (some u'))

/-- Answers that differ at most in what users keep to themselves; `K` says what else is common to
the users that are found by an email. -/
def Call.Kin (K : Value → User → User → Prop) :
    (c : Call) → Except Failure c.Answer → Except Failure c.Answer → Prop
  | .findByEmail email, r, r' => FoundBoth (fun u u' => u.Kin u' ∧ K email u u') r r'
  | .findById _, r, r' => FoundBoth User.Kin r r'
  | _, r, r' => r = r'

variable {K : Value → User → User → Prop} {m : Moment} {t : Token.Issuer} {requestId : Value}

lemma steady_bind_findById {β : Type} {id : String} {f : Option User → Program β}
    (hf : ∀ found, (f found).Steady (Call.Kin K))
    (h : ∀ u u' : User, u.Kin u' → f (some u) = f (some u')) :
    ((ask (.findById id)).bind f).Steady (Call.Kin K) := by
  refine steady_bind_ask hf fun r r' hr => ?_
  cases (hr : FoundBoth User.Kin r r') with
  | failed => rfl
  | nobody => rfl
  | user hu => exact h _ _ hu

namespace Session

lemma steady_refuse {α : Type} (userId code : Value) (reason : String) :
    (refuse m requestId userId code reason : Program α).Steady (Call.Kin K) :=
  (steady_log _ _).bind fun _ => steady_done _

lemma steady_login {email password : Value}
    (hK : ∀ u u', K email u u' →
      belongs password u.passwordHash = belongs password u'.passwordHash) :
    (login t m requestId email password).Steady (Call.Kin K) := by
  refine steady_bind_ask (fun found => ?_) fun r r' hr => ?_
  · cases found with
    | none => exact (steady_done _).bind fun _ => steady_refuse _ _ _
    | some u =>
      refine (steady_done _).bind fun accepted => ?_
      split_ifs
      · exact steady_refuse _ _ _
      · exact steady_refuse _ _ _
      · exact Steady.bind (steady_ask fun _ _ h => h) fun tokenId =>
          (steady_log _ _).bind fun _ => steady_done _
  · cases (hr : FoundBoth _ r r') with
    | failed => rfl
    | nobody => rfl
    | user hu =>
      obtain ⟨hkin, hu⟩ := hu
      have hbelongs := hK _ _ hu
      rw [hkin.eq] at hbelongs ⊢
      simp only [bind_ok, hbelongs]

lemma steady_refreshFor (claims : Token.RefreshClaims) (found : Option User) :
    (refreshFor t m requestId claims found).Steady (Call.Kin K) := by
  cases found with
  | none => exact (steady_log _ _).bind fun _ => steady_done _
  | some u =>
    rw [refreshFor]
    split_ifs
    · exact (steady_log _ _).bind fun _ => steady_done _
    · refine Steady.bind (steady_ask fun _ _ h => h) fun rotated => ?_
      cases rotated with
      | none =>
        exact Steady.bind (steady_ask fun _ _ h => h) fun _ =>
          (steady_log _ _).bind fun _ => steady_done _
      | some tokenId => exact (steady_log _ _).bind fun _ => steady_done _

lemma steady_refresh (token : String) : (refresh t m requestId token).Steady (Call.Kin K) := by
  refine (steady_done _).bind fun claims => steady_bind_findById (steady_refreshFor claims) ?_
  intro u u' hu
  rw [hu.eq]
  simp only [refreshFor]
  refine congrArg (ite _ _) (congrArg (Program.bind _) (funext fun rotated => ?_))
  cases rotated with
  | none => rfl
  | some tokenId => rfl

lemma steady_logout (token : String) : (logout t m token).Steady (Call.Kin K) :=
  (steady_done _).bind fun _ => steady_ask fun _ _ h => h

end Session

namespace Authentication

lemma steady_reject (fault : AuthFault) (reason : String) (cause : Failure) :
    (reject m requestId fault reason cause).Steady (Call.Kin K) :=
  (steady_log _ _).bind fun _ => steady_done _

lemma steady_checkUser (credentials : Credentials) (found : Option User) :
    (checkUser m requestId credentials found).Steady (Call.Kin K) := by
  cases found with
  | none => exact steady_reject _ _ _
  | some u =>
    rw [checkUser]
    split_ifs
    · exact (steady_log _ _).bind fun _ => steady_done _
    · exact (steady_done _).bind fun _ => steady_reject _ _ _

lemma steady_check (schemePrefix headers : Value) :
    (check t schemePrefix m requestId headers).Steady (Call.Kin K) := by
  refine (steady_done _).bind fun words => ?_
  match words with
  | [] => exact steady_done _
  | scheme :: rest =>
    refine (steady_done _).bind fun asked => ?_
    split_ifs
    · exact steady_done _
    match rest with
    | [] => exact steady_reject _ _ _
    | _ :: _ :: _ => exact steady_reject _ _ _
    | [token] =>
      rw [checkCredential, checkToken]
      split
      · refine steady_bind_findById (steady_checkUser _) fun u u' hu => ?_
        rw [hu.eq]
        rfl
      · split
        · exact steady_reject _ _ _
        · exact steady_done _

end Authentication

namespace Authorization

lemma steady_resolve (id : Option Value) : (resolve id).Steady (Call.Kin K) := by
  cases id with
  | none => exact steady_done _
  | some id =>
    refine Steady.bind (steady_ask fun _ _ h => h) fun groups => ?_
    refine (steady_all ?_).bind fun granted => (steady_done _).bind fun roles => ?_
    · rintro p hp
      obtain ⟨group, -, hp⟩ := List.mem_map.1 hp
      obtain ⟨g, -, rfl⟩ := Except.map_eq_ok.1 hp
      exact steady_ask fun _ _ h => h
    refine (steady_all ?_).bind fun held => (steady_done _).bind fun _ => steady_done _
    rintro p hp
    obtain ⟨r, -, hp⟩ := List.mem_map.1 hp
    obtain rfl := Except.ok.inj hp
    exact steady_ask fun _ _ h => h

lemma steady_describe (id : Option Value) : (describe id).Steady (Call.Kin K) :=
  (steady_resolve id).bind fun _ => steady_done _

lemma steady_requirePermission (id : Option Value) (permission : Value) :
    (requirePermission m requestId id permission).Steady (Call.Kin K) := by
  refine (((steady_resolve id).bind fun _ => steady_done _).bind fun _ => steady_done _).bind
    fun granted => (steady_log _ _).bind fun _ => ?_
  split_ifs
  · exact steady_done _
  · exact steady_done _

end Authorization

def Request.Judges (r : Request) (email : Value) (u u' : User) : Prop :=
  Endpoint.ofRequest r = .ok (some .login) → ∀ body form, r.content = .ok body →
    Login.ofBody body = .ok form → email = .str form.email →
    Session.belongs (.str form.password) u.passwordHash =
      Session.belongs (.str form.password) u'.passwordHash

namespace Api

variable {api : Api} {requestId : String} {r : Request}

lemma steady_health : (health m requestId).Steady (Call.Kin K) := by
  refine Steady.bind (steady_ask fun _ _ h => h) fun healthy => ?_
  split_ifs
  · exact steady_done _
  · exact steady_done _

lemma steady_login (he : Endpoint.ofRequest r = .ok (some .login)) :
    (login api m requestId r).Steady (Call.Kin r.Judges) := by
  rw [login]
  cases hbody : r.content with
  | error f => exact steady_done _
  | ok body =>
    cases hform : Login.ofBody body with
    | error f =>
      simp only [bind_eq, bind_ok, hform]
      exact steady_done _
    | ok form =>
      simp only [bind_eq, bind_ok, hform]
      exact (Session.steady_login fun u u' h => h he body form hbody hform rfl).bind
        fun _ => steady_done _

lemma steady_refresh : (refresh api m requestId r).Steady (Call.Kin K) :=
  (steady_done _).bind fun _ => (steady_done _).bind fun _ => (Session.steady_refresh _).bind
    fun _ => steady_done _

lemma steady_logout : (logout api m requestId r).Steady (Call.Kin K) :=
  (steady_done _).bind fun _ => (steady_done _).bind fun _ => (Session.steady_logout _).bind
    fun _ => steady_done _

lemma steady_me (p : Principal) : (me m requestId p).Steady (Call.Kin K) :=
  (Authorization.steady_describe _).bind fun _ => steady_done _

lemma steady_permissionsOf (userId : String) (p : Principal) :
    (permissionsOf m requestId userId p).Steady (Call.Kin K) := by
  refine (Authorization.steady_requirePermission _ _).bind fun _ => steady_bind_findById ?_ ?_
  · intro found
    cases found with
    | none => exact steady_done _
    | some u => exact (Authorization.steady_describe _).bind fun _ => steady_done _
  · intro u u' hu
    rw [hu.eq]

lemma steady_authenticate : (authenticate api m requestId r).Steady (Call.Kin K) :=
  (Authentication.steady_check _ _).bind fun _ => steady_done _

lemma steady_respond (f : Failure) :
    (Failure.respond m (.str requestId) requestId f).Steady (Call.Kin K) :=
  (Failure.quiet_respond m _ _ f).steady

lemma steady_settle {p : Program Response} (h : p.Steady (Call.Kin K)) :
    (settle m requestId p).Steady (Call.Kin K) := by
  refine h.attempt.bind fun result => ?_
  cases result with
  | ok response => exact steady_done _
  | error f => exact steady_respond f

lemma steady_servePublic {p : Program Response} (h : p.Steady (Call.Kin K)) :
    (servePublic m requestId p).Steady (Call.Kin K) :=
  (steady_settle h).bind fun _ => steady_done _

lemma steady_serve {endpoint : Principal → Program Response}
    (h : ∀ p, (endpoint p).Steady (Call.Kin K)) :
    (serve m requestId (authenticate api m requestId r) endpoint).Steady (Call.Kin K) := by
  refine steady_authenticate.attempt.bind fun result => ?_
  cases result with
  | ok p => exact (steady_settle (h p)).bind fun _ => steady_done _
  | error f => exact (steady_respond f).bind fun _ => steady_done _

lemma steady_answer (api : Api) (m : Moment) (requestId : String) (r : Request) :
    (api.answer m requestId r).Steady (Call.Kin r.Judges) := by
  rw [answer]
  cases he : Endpoint.ofRequest r with
  | error f => exact steady_servePublic (steady_done _)
  | ok found =>
    cases found with
    | none => exact steady_done _
    | some e =>
      cases e with
      | health => exact steady_servePublic steady_health
      | login => exact steady_servePublic (steady_login he)
      | refresh => exact steady_servePublic steady_refresh
      | logout => exact steady_servePublic steady_logout
      | me => exact steady_serve steady_me
      | permissionsOf userId => exact steady_serve (steady_permissionsOf userId)

lemma steady_handle (api : Api) (m : Moment) (requestId : String) (r : Request) :
    (api.handle m requestId r).Steady (Call.Kin r.Judges) :=
  (steady_answer api m requestId r).bind fun _ => (steady_log _ _).bind fun _ => steady_done _

end Api

namespace Memory

variable {s s' : Memory}

structure Kin (s s' : Memory) : Prop where
  users : List.Forall₂ User.Kin s.users s'.users
  others : s' = { s with users := s'.users }

lemma found_find? {l l' : List User} {p : User → Bool} (h : List.Forall₂ User.Kin l l')
    (hp : ∀ u u' : User, u.Kin u' → p u' = p u) :
    FoundBoth User.Kin (.ok (l.find? p)) (.ok (l'.find? p)) := by
  induction h with
  | nil => exact .nobody
  | @cons u u' l l' hu _ ih =>
    simp only [List.find?_cons, hp u u' hu]
    cases p u with
    | true => exact .user hu
    | false => exact ih

lemma Kin.userByEmail (h : s.Kin s') (email : Value) :
    FoundBoth User.Kin (s.userByEmail email) (s'.userByEmail email) := by
  have hempty : s'.users.isEmpty = s.users.isEmpty := by
    rw [Bool.eq_iff_iff, List.isEmpty_iff_length_eq_zero, List.isEmpty_iff_length_eq_zero,
      h.users.length_eq]
  rw [Memory.userByEmail, Memory.userByEmail, hempty]
  split_ifs
  · exact .nobody
  · cases User.normalEmail email with
    | error f => exact .failed f
    | ok e => exact found_find? h.users fun u u' hu => by rw [hu.email]

lemma perform_users (c : Call) (s : Memory) (users : List User) :
    (perform c { s with users }).2 = { (perform c s).2 with users } := by
  cases c with
  | rotate k u =>
    change (if s.isLive k u then _ else _ : Except Failure _ × Memory).2 = _
    rw [perform]
    split_ifs
    · rfl
    · rfl
  | revoke k u =>
    change (if s.isLive k (.str u) then _ else _ : Except Failure _ × Memory).2 = _
    rw [perform]
    split_ifs
    · rfl
    · rfl
  | _ => rfl

lemma kin_perform (h : s.Kin s') (c : Call) : (perform c s).2.Kin (perform c s').2 := by
  rw [h.others, perform_users c s s'.users]
  refine ⟨?_, rfl⟩
  rw [(fixed_perform c s).users]
  exact h.users

def Judged (K : Value → User → User → Prop) (s s' : Memory) : Prop :=
  ∀ email u u', s.userByEmail email = .ok (some u) → s'.userByEmail email = .ok (some u') →
    K email u u'

lemma kin_answer (h : s.Kin s') (hK : Judged K s s') (c : Call) :
    Call.Kin K c (perform c s).1 (perform c s').1 := by
  cases c with
  | findByEmail email =>
    have hfound := h.userByEmail email
    have hjudged := hK email
    change FoundBoth _ (s.userByEmail email) (s'.userByEmail email)
    generalize s.userByEmail email = r at hfound hjudged ⊢
    generalize s'.userByEmail email = r' at hfound hjudged ⊢
    cases hfound with
    | failed f => exact .failed f
    | nobody => exact .nobody
    | user hu => exact .user ⟨hu, hjudged _ _ rfl rfl⟩
  | findById id => exact found_find? h.users fun u u' hu => by rw [hu.id]
  | rotate k u =>
    rw [h.others]
    change _ = (if s.isLive k u then _ else _ : Except Failure _ × Memory).1
    rw [perform]
    split_ifs
    · rfl
    · rfl
  | revoke k u =>
    rw [h.others]
    change _ = (if s.isLive k (.str u) then _ else _ : Except Failure _ × Memory).1
    rw [perform]
    split_ifs
    · rfl
    · rfl
  | _ =>
    rw [h.others]
    rfl

lemma Judged.of_users {t t' : Memory} (h : Judged K s s') (hs : t.users = s.users)
    (hs' : t'.users = s'.users) : Judged K t t' := by
  intro email u u' hu hu'
  rw [userByEmail, hs] at hu
  rw [userByEmail, hs'] at hu'
  exact h email u u' hu hu'

lemma kin_stores (h : s.Kin s') (hK : Judged K s s') (c : Call) :
    Call.Kin K c (stores c s).result (stores c s').result ∧
      (stores c s).state.Kin (stores c s').state := by
  have hfailure : s'.failureOf? c = s.failureOf? c := by rw [h.others]; rfl
  have hcalled : { s with journal := c :: s.journal }.Kin { s' with journal := c :: s'.journal } :=
    ⟨h.users, by rw [h.others]⟩
  have hjudged : Judged K { s with journal := c :: s.journal }
      { s' with journal := c :: s'.journal } := hK.of_users rfl rfl
  simp only [stores]
  rw [show failureOf? { s with journal := c :: s.journal } c = s.failureOf? c from rfl,
    show failureOf? { s' with journal := c :: s'.journal } c = s'.failureOf? c from rfl, hfailure]
  cases s.failureOf? c with
  | some f =>
    refine ⟨?_, hcalled⟩
    cases c with
    | findByEmail | findById => exact .failed f
    | _ => rfl
  | none => exact ⟨kin_answer hcalled hjudged c, kin_perform hcalled c⟩

lemma kin_run {α : Type} {p : Program α} (hp : p.Steady (Call.Kin K)) (h : s.Kin s')
    (hK : Judged K s s') :
    (p.run stores s).result = (p.run stores s').result ∧
      (p.run stores s).lines = (p.run stores s').lines ∧
      (p.run stores s).state.Kin (p.run stores s').state := by
  -- Users never change, so what holds of those found at first holds throughout.
  obtain ⟨hresult, hlines, hkin, -⟩ := hp.run (R := fun t t' => t.Kin t' ∧ Judged K t t')
    (fun c t t' ht => (kin_stores ht.1 ht.2 c).1)
    (fun c t t' _ => by rw [stores_lines, stores_lines])
    (fun c t t' ht => ⟨(kin_stores ht.1 ht.2 c).2,
      ht.2.of_users (fixed_stores c t).users (fixed_stores c t').users⟩) ⟨h, hK⟩
  exact ⟨hresult, hlines, hkin⟩

lemma live_congr (h : s'.records = s.records) : s'.live = s.live := by
  rw [live, live, numbered, numbered, h]

end Memory

namespace Scenario

attribute [ext] Report

lemma steady_program (x : Scenario) (requestId : String) (r : Request) :
    (x.program requestId (.request r)).Steady (Call.Kin r.Judges) :=
  (Api.steady_handle x.api x.moment requestId r).bind fun _ => steady_done _

/-- Whatever the settings, the clock and the request: if two stores differ only in the names, dates
and hashes of users, and the password of a login belongs to both hashes or to neither, the request
is answered and logged alike, makes the same calls and leaves the same records. -/
theorem private_fields_unseen (x : Scenario) (r : Request) {s : Memory} (h : x.memory.Kin s)
    (hr : Memory.Judged r.Judges x.memory s) :
    (({ x with memory := s } : Scenario).step (.request r)).1 = (x.step (.request r)).1 ∧
      (({ x with memory := s } : Scenario).step (.request r)).2.memory.records =
        (x.step (.request r)).2.memory.records ∧
      (x.step (.request r)).2.memory.Kin
        (({ x with memory := s } : Scenario).step (.request r)).2.memory := by
  have hstart : { x.memory with journal := [] }.Kin { s with journal := [] } :=
    ⟨h.users, by rw [h.others]⟩
  have hjudged : Memory.Judged r.Judges { x.memory with journal := [] } { s with journal := [] } :=
    hr.of_users rfl rfl
  obtain ⟨hresult, hlines, hkin⟩ := Memory.kin_run
    (x.steady_program (AuthGate.requestId (x.requests + 1)) r) hstart hjudged
  have hjournal := congrArg Memory.journal hkin.others
  have hrecords := congrArg Memory.records hkin.others
  exact ⟨Report.ext hresult.symm hlines.symm (congrArg List.reverse hjournal)
    (Memory.live_congr hrecords), hrecords, hkin⟩

def otherStored : Password.Stored := ⟨.b, 5, List.replicate 16 1⟩

def otherHash : String :=
  .ofList (Password.render otherStored (Text.utf8 "test-password".toList))

def renamedUser : User :=
  { Session.loginUser with
    passwordHash := .str otherHash
    firstName := .str "Alice"
    createdAt := .date .zero }

def loginScenario : Scenario := { sampleScenario with memory := Session.loginMemory }

lemma kin_renamed : loginScenario.memory.Kin { Session.loginMemory with users := [renamedUser] } :=
  ⟨.cons ⟨rfl, rfl, rfl⟩ .nil, rfl⟩

lemma judged_renamed : Memory.Judged
    (Api.loginRequest "alice@example.com" "test-password").Judges loginScenario.memory
    { Session.loginMemory with users := [renamedUser] } := by
  intro email u u' hu hu' _ body form hbody hform _
  obtain rfl := Except.ok.inj ((Api.content_loginRequest _ _).symm.trans hbody)
  obtain rfl := Except.ok.inj ((Api.ofBody_loginBody (by decide +kernel)).symm.trans hform)
  obtain rfl := List.mem_singleton.1 (Memory.mem_of_userByEmail hu)
  obtain rfl := List.mem_singleton.1 (Memory.mem_of_userByEmail hu')
  have hother : Password.accepts "test-password" otherHash = true :=
    Password.accepts_render ⟨by decide, by decide, rfl⟩ _
  exact congrArg Except.ok (Session.accepts_sampleHash.trans hother.symm)

theorem private_fields_unseen_renamed :
    (({ loginScenario with memory := { Session.loginMemory with users := [renamedUser] } } :
        Scenario).step (.request (Api.loginRequest "alice@example.com" "test-password"))).1 =
      (loginScenario.step (.request (Api.loginRequest "alice@example.com" "test-password"))).1 :=
  (loginScenario.private_fields_unseen _ kin_renamed judged_renamed).1

end Scenario

end AuthGate
