import AuthGate.Proofs.Log.Shown
import AuthGate.Proofs.Service.Directory
import AuthGate.Proofs.Session.Refresh

namespace AuthGate.Authorization

open Program

variable {σ : Type} {stores : Stores σ} {d : Directory} {s : σ} {m : Moment} {time : String}
  {principal : Option String} {permission : String}

lemma looks_permissionsOf (principal : Option String) :
    Looks stores d 1 3 (Spells · (namesOf (d.permissions principal)))
      (permissionsOf (principal.map .str)) :=
  Looks.bind (k := 3) (looks_resolve principal) (fun _ h => .done h.permissions) (by decide) le_rfl
    le_rfl

lemma any_same_iff {vs : List Value} {names : Set String} (h : Spells vs names) {name : String} :
    vs.any (·.same (.str name)) = true ↔ name ∈ names := by
  rw [List.any_eq_true]
  constructor
  · rintro ⟨v, hv, hsame⟩
    obtain ⟨name', hname, rfl⟩ := (h.2 v).1 hv
    rwa [← Value.str.inj (Value.same_str.1 hsame)]
  · exact fun hname => ⟨_, (h.2 _).2 ⟨name, hname, rfl⟩, Value.same_str.2 rfl⟩

lemma looks_hasPermission (principal : Option String) (permission : String) :
    Looks stores d 1 3 (fun granted => granted = true ↔ d.Reaches principal permission)
      (hasPermission (principal.map .str) (.str permission)) :=
  Looks.bind (k := 3) (looks_permissionsOf principal) (fun _ h => .done (any_same_iff h))
    (by decide) le_rfl le_rfl

lemma silent_resolve (principalId : Option Value) : (resolve principalId).Silent := by
  cases principalId with
  | none => exact .done
  | some id =>
    refine (Silent.ask _).bind fun rows => (Silent.all fun p hp => ?_).bind fun granted =>
      Silent.bind .done fun roles => (Silent.all fun p hp => ?_).bind fun held =>
        Silent.bind .done fun named => .done
    · obtain ⟨row, -, hrow⟩ := List.mem_map.1 hp
      obtain ⟨g, -, rfl⟩ := Except.map_eq_ok.1 hrow
      exact Silent.ask _
    · obtain ⟨r, -, hr⟩ := List.mem_map.1 hp
      obtain rfl := Except.ok.inj hr
      exact Silent.ask _

lemma silent_hasPermission (principalId : Option Value) (permission : Value) :
    (hasPermission principalId permission).Silent :=
  ((silent_resolve principalId).bind fun _ => .done).bind fun _ => .done

lemma transcript_requirePermission (requestId permission : Value) (principalId : Option Value) :
    (requirePermission m requestId principalId permission).transcript stores s =
      (hasPermission principalId permission).transcript stores s := by
  refine transcript_bind_quiet (fun granted => ?_) _ _
  refine (quiet_log m _).bind (fun _ _ => ?_) fun _ _ => trivial
  split_ifs
  · exact .done trivial
  · exact .done trivial

lemma requirePermission_of_error {requestId permission : Value} {principalId : Option Value}
    {f : Failure} (h : ((hasPermission principalId permission).run stores s).result = .error f) :
    (requirePermission m requestId principalId permission).run stores s =
      ⟨.error f, ((hasPermission principalId permission).run stores s).lines,
        ((hasPermission principalId permission).run stores s).state⟩ := by
  rw [requirePermission, bind_eq, run_bind_error h]

lemma requirePermission_of_ok (ht : Log.Entry.stamp m.wall = .ok time) (requestId : Option String)
    {granted : Bool} (h : ((hasPermission (principal.map .str) (.str permission)).run
      stores s).result = .ok granted) : ∃ line,
    (requirePermission m (.ofText? requestId) (principal.map .str) (.str permission)).run stores s =
      ⟨if granted then .ok () else .error (.denied (.str permission)),
        ((hasPermission (principal.map .str) (.str permission)).run stores s).lines ++ [line],
        ((hasPermission (principal.map .str) (.str permission)).run stores s).state⟩ ∧
      line.Shows (Log.Entry.decisionFields time requestId principal granted permission) := by
  obtain ⟨line, hwrite, hshows⟩ :=
    Log.Entry.write_decision_shows ht requestId principal granted permission
  refine ⟨line, ?_, hshows⟩
  have hlog : log m (.authorization (.ofText? requestId) ((principal.map .str).getD .undefined)
      (.bool granted) (.str permission)) = write line (done (.ok ())) := log_eq hwrite
  rw [requirePermission, bind_eq, run_bind_ok h, hlog]
  cases granted <;> rfl

/-- Authorization fails closed. A principal that is absent leads to no call. The first lookup that
fails ends a decision with its own failure, after lookups of its level and earlier ones only, and
without a line; and if none fails, the decision is whether the permission is reached, and one line
tells it. -/
theorem decisions_audited (hd : Serves stores d s) (hwall : Calendar.iso? m.wall = some time)
    (requestId principal : Option String) (permission : String) :
    let p := hasPermission (principal.map .str) (.str permission)
    let q := requirePermission m (.ofText? requestId) (principal.map .str) (.str permission)
    let es := p.transcript stores s
    q.transcript stores s = es ∧ (principal = none → es = []) ∧ Stepwise es ∧
      (∀ f, es.findSome? Exchange.failure? = some f →
        (p.run stores s).result = .error f ∧ (p.run stores s).lines = es.flatMap Exchange.lines ∧
          (q.run stores s).result = .error f ∧
          (q.run stores s).lines = es.flatMap Exchange.lines) ∧
      ((∀ e ∈ es, e.failure? = none) → ∃ granted line,
        (granted = true ↔ d.Reaches principal permission) ∧
          (p.run stores s).result = .ok granted ∧
          (p.run stores s).lines = es.flatMap Exchange.lines ∧
          (q.run stores s).result =
            (if granted then .ok () else .error (.denied (.str permission))) ∧
          (q.run stores s).lines = es.flatMap Exchange.lines ++ [line] ∧
          line.Shows (Log.Entry.decisionFields time requestId principal granted permission)) := by
  intro p q es
  have ht : Log.Entry.stamp m.wall = .ok time := by rw [Log.Entry.stamp, hwall]
  have hlooks := looks_hasPermission principal permission s hd
  have hlines : (p.run stores s).lines = es.flatMap Exchange.lines :=
    (silent_hasPermission (principal.map .str) (.str permission)).lines s
  refine ⟨transcript_requirePermission _ _ _, ?_, hlooks.stepwise, fun f hf => ?_, fun hok => ?_⟩
  · rintro rfl
    rfl
  · have hresult := hlooks.result_eq_error hf
    have hrun : q.run stores s = ⟨.error f, _, _⟩ := requirePermission_of_error hresult
    exact ⟨hresult, hlines, congrArg Outcome.result hrun,
      (congrArg Outcome.lines hrun).trans hlines⟩
  · obtain ⟨granted, hgranted, hreaches⟩ := hlooks.exists_ok hok
    obtain ⟨line, hrun, hshows⟩ := requirePermission_of_ok ht requestId hgranted
    exact ⟨granted, line, hreaches, hgranted, hlines, congrArg Outcome.result hrun,
      (congrArg Outcome.lines hrun).trans (congrArg (· ++ [line]) hlines), hshows⟩

def readerGroups : List (String × List Named) :=
  [("user-1", [⟨"g", "staff"⟩, ⟨"h", "guests"⟩])]

def readerRoles : List (String × List Named) := [("g", [⟨"r", "reader"⟩]), ("h", [⟨"r", "reader"⟩])]

def readerPermissions : List (String × List Named) := [("r", [⟨"p", "user:read"⟩])]

def readerStores (failures : List (String × String)) : Memory where
  users := []
  records := []
  healthy := true
  failures := failures
  journal := []
  grants := ⟨.keep readerGroups, .keep readerRoles, .keep readerPermissions⟩

lemma serves_readerStores (failures : List (String × String)) : Serves Memory.stores
    (.ofLists readerGroups readerRoles readerPermissions) (readerStores failures) :=
  Memory.serves_ofLists rfl

theorem decisions_audited_reader :
    (∃ line, ((requirePermission Token.sampleMoment (.str "request-1") (some (.str "user-1"))
        (.str "user:read")).run Memory.stores (readerStores [])).lines = [line] ∧
      line.Shows (Log.Entry.decisionFields "2023-11-14T22:13:20.000Z" (some "request-1")
        (some "user-1") true "user:read")) ∧
    ((requirePermission Token.sampleMoment (.str "request-1") (some (.str "user-1"))
      (.str "user:read")).run Memory.stores (readerStores [("findRolesFor:h", "down")])).result =
        .error (.error "down") := by
  have hwall : Calendar.iso? Token.sampleMoment.wall = some "2023-11-14T22:13:20.000Z" := by
    decide +kernel
  obtain ⟨-, -, -, -, hdecided⟩ := decisions_audited (serves_readerStores []) hwall
    (some "request-1") (some "user-1") "user:read"
  obtain ⟨-, -, -, hfailed, -⟩ := decisions_audited
    (serves_readerStores [("findRolesFor:h", "down")]) hwall (some "request-1") (some "user-1")
    "user:read"
  obtain ⟨granted, line, -, hgranted, -, -, hlines, hshows⟩ :=
    hdecided (List.findSome?_eq_none_iff.1 rfl)
  obtain rfl : true = granted := Except.ok.inj hgranted
  exact ⟨⟨line, hlines, hshows⟩, (hfailed _ rfl).2.2.1⟩

end AuthGate.Authorization
