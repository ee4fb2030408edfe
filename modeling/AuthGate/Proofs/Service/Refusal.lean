import AuthGate.Proofs.Failure
import AuthGate.Proofs.Log
import AuthGate.Proofs.Service.Answer
import AuthGate.Settings

namespace AuthGate.Failure

open Program

lemma occursIn_iff {p cs : List Char} : occursIn p cs = true ↔ p <:+: cs := by
  induction cs with
  | nil => rw [occursIn, List.isEmpty_iff, List.infix_nil]
  | cons c cs ih =>
    rw [occursIn, Bool.or_eq_true, List.isPrefixOf_iff_prefix, ih, List.infix_cons_iff]

def LooksLost (f : Failure) : Prop :=
  ∃ p ∈ connectionPatterns, p.toList <:+: (Text.lower f.message).toList

lemma isConnectionLoss_iff {f : Failure} : isConnectionLoss f.message = true ↔ f.LooksLost := by
  simp only [isConnectionLoss, List.any_eq_true, occursIn_iff, LooksLost]

inductive Kind where
  | token
  | invalidCredentials
  | inactivePrincipal
  | auth
  | permissionDenied
  | notFound
  | validation
  | badRequest

def Kind.status : Kind → ℕ
  | token | invalidCredentials | inactivePrincipal | validation | badRequest => 400
  | auth => 401
  | permissionDenied => 403
  | notFound => 404

lemma Kind.status_lt (kind : Kind) : kind.status < 500 := by
  cases kind <;> decide

def kind? : Failure → Option Kind
  | token .. => some .token
  | invalidCredentials _ => some .invalidCredentials
  | inactivePrincipal .. => some .inactivePrincipal
  | auth .. => some .auth
  | permissionDenied .. => some .permissionDenied
  | notFound _ => some .notFound
  | validation .. => some .validation
  | badRequest _ => some .badRequest
  | wrongKind _ | other .. | bare _ => none

def Untyped (f : Failure) : Prop := f.kind? = none ∧ f.IsPlain

def AnsweredBy (f : Failure) (m : Moment) (requestId : String) (response : Response)
    (lines : List Log.Line) : Prop :=
  ∀ {σ : Type} (stores : Stores σ) (fresh : String) (s : σ),
    (respond m (.str requestId) fresh f).run stores s = ⟨.ok response, lines, s⟩

variable {m : Moment} {requestId : String} {f g : Failure} {response response' : Response}
  {lines lines' : List Log.Line}

lemma AnsweredBy.unique (h : f.AnsweredBy m requestId response lines)
    (h' : f.AnsweredBy m requestId response' lines') : response = response' := by
  let stores : Stores Unit := fun _ s => ⟨.error default, [], s⟩
  have hresult := congrArg Outcome.result ((h stores requestId ()).symm.trans (h' stores _ _))
  exact Except.ok.inj hresult

lemma idOr_of_ne (hid : requestId ≠ "") (fresh : String) :
    idOr fresh (.str requestId) = .str requestId := by
  have htruthy : (Value.str requestId).truthy = true := decide_eq_true hid
  rw [idOr, if_pos htruthy]

lemma respond_fresh (m : Moment) (hid : requestId ≠ "") (fresh fresh' : String) (f : Failure) :
    respond m (.str requestId) fresh f = respond m (.str requestId) fresh' f := by
  simp only [respond, respondError, respondOther, internal, idOr_of_ne hid]

lemma answered_of_run (hid : requestId ≠ "") (h : ∀ {σ : Type} (stores : Stores σ) (s : σ),
      (respond m (.str requestId) requestId f).run stores s = ⟨.ok response, lines, s⟩) :
    f.AnsweredBy m requestId response lines := by
  intro σ stores fresh s
  rw [respond_fresh m hid fresh requestId, h]

lemma answered_typed (m : Moment) (hid : requestId ≠ "") {kind : Kind} (hf : f.kind? = some kind) :
    ∃ response, f.AnsweredBy m requestId response [] ∧ response.status = kind.status := by
  cases f with
  | wrongKind | other | bare => cases hf
  | _ =>
    obtain rfl := Option.some.inj hf
    exact ⟨_, answered_of_run hid fun _ _ => rfl, rfl⟩

lemma kind?_of_asError (h : f.asError = .ok g) : g.kind? = f.kind? := by
  cases f with
  | bare v =>
    obtain ⟨t, -, rfl⟩ := Except.map_eq_ok.1 h
    rfl
  | _ =>
    obtain rfl := Except.ok.inj h
    rfl

lemma respondError_of_kind? (hf : f.kind? = none) (m : Moment) (requestId : Value)
    (fresh : String) : respondError m requestId fresh f = respondOther m requestId fresh f := by
  cases f with
  | wrongKind | other | bare => rfl
  | _ => cases hf

lemma Untyped.respond_eq (hf : f.Untyped) (m : Moment) (requestId : Value) (fresh : String) :
    ∃ g, g.message = f.message ∧
      respond m requestId fresh f = respondOther m requestId fresh g := by
  obtain ⟨hkind, hplain⟩ := hf
  obtain ⟨g, hg, hmessage, -⟩ := asError_of_plain hplain
  have hother := respondError_of_kind? ((kind?_of_asError hg).trans hkind) m requestId fresh
  exact ⟨g, hmessage, by rw [respond, hg, bind_eq, bind_ok, hother]⟩

def lost (requestId : String) : Response := .unavailable (.str requestId) Response.databaseMessage

lemma answered_lost (m : Moment) (hid : requestId ≠ "") (hf : f.Untyped) (hlost : f.LooksLost) :
    f.AnsweredBy m requestId (lost requestId) [] := by
  refine answered_of_run hid fun stores s => ?_
  obtain ⟨g, hmessage, hrespond⟩ := hf.respond_eq m (.str requestId) requestId
  rw [hrespond, respondOther, hmessage, if_pos (isConnectionLoss_iff.2 hlost), idOr_str]
  rfl

def unforeseen (development : Bool) (requestId message : String) : Response :=
  .error 500 .internal (.str requestId) Response.internalMessage
    (if development then .obj [("error", .str message)] else .undefined)

lemma answered_unforeseen (hw : (Calendar.iso? m.wall).isSome = true) (hid : requestId ≠ "")
    (hf : f.Untyped) (hlost : ¬ f.LooksLost) : ∃ l : Log.Line,
      f.AnsweredBy m requestId (unforeseen m.development requestId f.message) [l] ∧
        l.stream = .err ∧ l.IsNote "Unhandled error" := by
  obtain ⟨g, hmessage, hrespond⟩ := hf.respond_eq m (.str requestId) requestId
  obtain ⟨time, ht⟩ := Log.Entry.exists_stamp hw
  obtain ⟨l, hl, hline⟩ := Log.Entry.write_unhandled ht requestId g
  refine ⟨l, answered_of_run hid fun stores s => ?_, hline⟩
  rw [hrespond, respondOther, hmessage, if_neg (mt isConnectionLoss_iff.1 hlost), internal, log, hl,
    hmessage, idOr_str]
  rfl

lemma AnsweredBy.eq_of_status (hw : (Calendar.iso? m.wall).isSome = true) (hid : requestId ≠ "")
    (hdev : m.development = false) (hf : f.Untyped) (hg : g.Untyped)
    (h : f.AnsweredBy m requestId response lines) (h' : g.AnsweredBy m requestId response' lines')
    (hstatus : response.status = response'.status) : response = response' := by
  have hcases {f : Failure} {response : Response} {lines : List Log.Line} (hf : f.Untyped)
      (h : f.AnsweredBy m requestId response lines) :
      response = lost requestId ∨ response = unforeseen false requestId "" := by
    by_cases hlost : f.LooksLost
    · exact .inl (h.unique (answered_lost m hid hf hlost))
    · obtain ⟨l, hl, -⟩ := answered_unforeseen hw hid hf hlost
      rw [hdev] at hl
      exact .inr (h.unique hl)
  rcases hcases hf h with rfl | rfl <;> rcases hcases hg h' with rfl | rfl
  · rfl
  · cases hstatus
  · cases hstatus
  · rfl

/-- The class of an error decides its status, which is none of the server's. Any other error is
answered with 503 if its message tells of a lost connection and else, once it is logged, with 500;
outside of development two of them with one status are answered alike. -/
theorem answered_by_class (hw : (Calendar.iso? m.wall).isSome = true) (hid : requestId ≠ "")
    {env : Environment} (henv : m.development = env.isDevelopment) :
    (∀ (f : Failure) (kind : Kind), f.kind? = some kind → ∃ response : Response,
      f.AnsweredBy m requestId response [] ∧ response.status = kind.status ∧
        response.status < 500) ∧
    (∀ f : Failure, f.Untyped → f.LooksLost → ∃ response : Response,
      f.AnsweredBy m requestId response [] ∧ response.status = 503) ∧
    (∀ f : Failure, f.Untyped → ¬ f.LooksLost → ∃ (response : Response) (l : Log.Line),
      f.AnsweredBy m requestId response [l] ∧ response.status = 500 ∧
        l.stream = .err ∧ l.IsNote "Unhandled error") ∧
    (Record.get env "NODE_ENV" ≠ .str "development" →
      ∀ (f g : Failure) (response response' : Response) (lines lines' : List Log.Line),
        f.Untyped → g.Untyped → f.AnsweredBy m requestId response lines →
        g.AnsweredBy m requestId response' lines' → response.status = response'.status →
        response = response') := by
  refine ⟨fun f kind hkind => ?_, fun f hf hlost => ?_, fun f hf hlost => ?_,
    fun hnode f g response response' lines lines' hf hg h h' hstatus => ?_⟩
  · obtain ⟨response, h, hstatus⟩ := answered_typed m hid hkind
    exact ⟨response, h, hstatus, hstatus ▸ kind.status_lt⟩
  · exact ⟨_, answered_lost m hid hf hlost, rfl⟩
  · obtain ⟨l, h, hline⟩ := answered_unforeseen hw hid hf hlost
    exact ⟨_, l, h, rfl, hline⟩
  · have hdev : m.development = false :=
      henv.trans (Bool.eq_false_iff.2 fun hsame => hnode (Value.same_str.1 hsame))
    exact h.eq_of_status hw hid hdev hf hg h' hstatus

def production : Environment := [("NODE_ENV", .str "production")]

def productionMoment : Moment := ⟨.reads (.finite 0), .finite 0, production.isDevelopment⟩

theorem answered_by_class_production :
    (Calendar.iso? productionMoment.wall).isSome = true ∧ "request-1" ≠ "" ∧
    (∃ response, (auth .missingToken "connect ECONNREFUSED" none).AnsweredBy productionMoment
      "request-1" response [] ∧ response.status = 401) ∧
    ∃ response l l',
      (error "relation \"users\" does not exist").AnsweredBy productionMoment "request-1" response
        [l] ∧
      (bare (.bool true)).AnsweredBy productionMoment "request-1" response [l'] ∧
      response.status = 500 := by
  have hw : (Calendar.iso? productionMoment.wall).isSome = true := by decide +kernel
  have hid : "request-1" ≠ "" := by decide
  have henv : productionMoment.development = production.isDevelopment := rfl
  have hcalm {f : Failure} (h : isConnectionLoss f.message = false) : ¬ f.LooksLost := by
    rw [← isConnectionLoss_iff, h]
    exact Bool.false_ne_true
  obtain ⟨htyped, -, hlogged, halike⟩ := answered_by_class hw hid henv
  have hf : (error "relation \"users\" does not exist").Untyped := ⟨rfl, trivial⟩
  have hg : (bare (.bool true)).Untyped := ⟨rfl, rfl⟩
  obtain ⟨response, h, hstatus, -⟩ :=
    htyped (auth .missingToken "connect ECONNREFUSED" none) .auth rfl
  obtain ⟨answer, l, h₁, hstatus₁, -⟩ := hlogged _ hf (hcalm (by decide +kernel))
  obtain ⟨answer', l', h₂, hstatus₂, -⟩ := hlogged _ hg (hcalm (by decide +kernel))
  have hnode : Record.get production "NODE_ENV" ≠ .str "development" :=
    fun h => absurd (Value.str.inj h) (by decide)
  obtain rfl := halike hnode _ _ _ _ _ _ hf hg h₁ h₂ (hstatus₁.trans hstatus₂.symm)
  exact ⟨hw, hid, ⟨response, h, hstatus⟩, answer, l, l', h₁, h₂, hstatus₁⟩

end AuthGate.Failure
