import AuthGate.Proofs.Service.Distinct

namespace AuthGate

open Program

namespace Memory

variable {s : Memory} {id : Value}

namespace Grants

variable {g : Grants} {row : GrantRow}

def at? (g : Grants) (p : Place) : Option Value :=
  match Record.get g p.1 with
  | .arr items => items[p.2]?
  | v => [v][p.2]?

def Holds (g : Grants) (row : GrantRow) : Prop := ∃ p, row.place = some p ∧ g.at? p = some row.value

lemma mem_rows {key : String} {items : List Value} (h : row ∈ rows key items) :
    ∃ i, row.place = some (key, i) ∧ items[i]? = some row.value := by
  obtain ⟨i, hi, rfl⟩ := List.mem_mapIdx.1 h
  exact ⟨i, rfl, List.getElem?_eq_getElem hi⟩

lemma holds_of {rows : List GrantRow} (h : g.of id = .ok rows) (hrow : row ∈ rows) :
    g.Holds row := by
  obtain ⟨key, -, rfl⟩ := Except.map_eq_ok.1 h
  cases hget : Record.get g key with
  | arr items =>
    rw [hget] at hrow
    obtain ⟨i, hi, hv⟩ := mem_rows hrow
    exact ⟨_, hi, by rw [at?, hget]; exact hv⟩
  | _ =>
    rw [hget] at hrow
    dsimp only at hrow
    split_ifs at hrow
    · cases hrow
    · obtain ⟨i, hi, hv⟩ := mem_rows hrow
      exact ⟨_, hi, by rw [at?, hget]; exact hv⟩

lemma Holds.placed (h : g.Holds row) (part : Grant → Value) : row.grant.Placed part := by
  obtain ⟨p, hp, -⟩ := h
  exact fun _ => Option.isSome_iff_exists.2 ⟨p, hp⟩

lemma Holds.asMember_eq (part : Grant → Value) {row' : GrantRow} (h : g.Holds row)
    (h' : g.Holds row') (hpart : row.value = row'.value → part row.grant = part row'.grant)
    (hmark : row.grant.mark part = row'.grant.mark part) :
    (part row.grant).asMember = (part row'.grant).asMember := by
  obtain ⟨p, hp, hv⟩ := h
  obtain ⟨p', hp', hv'⟩ := h'
  simp only [Grant.mark] at hmark
  split_ifs at hmark
  · have hplace : row.place = row'.place := Sum.inr.inj hmark
    obtain rfl : p = p' := Option.some.inj (hp.symm.trans (hplace.trans hp'))
    rw [hpart (Option.some.inj (hv.symm.trans hv'))]
  · exact Sum.inl.inj hmark

def listed (r : Except Failure (List GrantRow)) : List GrantRow := r.toOption.getD []

lemma mem_listed {r : Except Failure (List GrantRow)} :
    row ∈ listed r ↔ ∃ rows, r = .ok rows ∧ row ∈ rows := by
  cases r with
  | ok rows => simp [listed, Except.toOption]
  | error f => simp [listed, Except.toOption]

namespace All

variable {g : Grants.All}

def groupsOf (g : Grants.All) (id : Value) : List GrantRow := listed (g.userGroups.groupsOf id)

def rolesOf (g : Grants.All) (id : Value) : List GrantRow := listed (g.groupRoles.of id)

def permissionsOf (g : Grants.All) (id : Value) : List GrantRow := listed (g.rolePermissions.of id)

def rolesReached (g : Grants.All) (id : Value) : List GrantRow :=
  (g.groupsOf id).flatMap fun group => g.rolesOf group.grant.id

def reached (g : Grants.All) (id : Value) : List GrantRow :=
  (g.groupsOf id).flatMap fun group =>
    (g.rolesOf group.grant.id).flatMap fun role => g.permissionsOf role.grant.id

def Chain (g : Grants.All) (id : Value) (permission : GrantRow) : Prop :=
  ∃ group ∈ g.groupsOf id, ∃ role ∈ g.rolesOf group.grant.id,
    permission ∈ g.permissionsOf role.grant.id

lemma mem_reached : row ∈ g.reached id ↔ g.Chain id row := by
  simp only [reached, Chain, List.mem_flatMap]

lemma reached_eq (g : Grants.All) (id : Value) : g.reached id =
    (g.rolesReached id).flatMap fun role => g.permissionsOf role.grant.id := by
  rw [rolesReached, List.flatMap_assoc, reached]

lemma reaches_iff {name : String} :
    g.Reaches id name ↔ ∃ row, g.Chain id row ∧ row.grant.name = .str name := by
  constructor
  · rintro ⟨groups, hgroups, group, hgroup, roles, hroles, role, hrole, permissions, hpermissions,
      row, hrow, hname⟩
    exact ⟨row, ⟨group, mem_listed.2 ⟨groups, hgroups, hgroup⟩, role,
      mem_listed.2 ⟨roles, hroles, hrole⟩, mem_listed.2 ⟨permissions, hpermissions, hrow⟩⟩, hname⟩
  · rintro ⟨row, ⟨group, hgroup, role, hrole, hrow⟩, hname⟩
    obtain ⟨groups, hgroups, hgroup⟩ := mem_listed.1 hgroup
    obtain ⟨roles, hroles, hrole⟩ := mem_listed.1 hrole
    obtain ⟨permissions, hpermissions, hrow⟩ := mem_listed.1 hrow
    exact ⟨groups, hgroups, group, hgroup, roles, hroles, role, hrole, permissions, hpermissions,
      row, hrow, hname⟩

lemma holds_rolesReached {row : GrantRow} (h : row ∈ g.rolesReached id) :
    g.groupRoles.Holds row := by
  obtain ⟨group, -, hrow⟩ := List.mem_flatMap.1 h
  obtain ⟨rows, hrows, hrow⟩ := mem_listed.1 hrow
  exact holds_of hrows hrow

lemma holds_permissionsOf {row : GrantRow} (h : row ∈ g.permissionsOf id) :
    g.rolePermissions.Holds row := by
  obtain ⟨rows, hrows, hrow⟩ := mem_listed.1 h
  exact holds_of hrows hrow

lemma holds_reached {row : GrantRow} (h : row ∈ g.reached id) : g.rolePermissions.Holds row := by
  obtain ⟨group, -, role, -, hrow⟩ := mem_reached.1 h
  exact holds_permissionsOf hrow

lemma permissionsOf_congr {id' : Value} (h : id.asMember = id'.asMember) :
    g.permissionsOf id = g.permissionsOf id' := by
  simp only [permissionsOf, Grants.of]
  rw [← Value.text_asMember id, h, Value.text_asMember]

end All

end Grants

def Found (r : Except Failure (List GrantRow)) : Prop :=
  ∃ rows, r = .ok rows ∧ ∀ row ∈ rows, row.value.isAbsent = false

lemma Found.eq_listed {r r' : Except Failure (List GrantRow)} (h : Found r)
    (hr : ∀ rows, r = .ok rows → r' = .ok rows) : r = .ok (Grants.listed r') ∧
      ∀ row ∈ Grants.listed r', row.value.isAbsent = false := by
  obtain ⟨rows, hrows, hpresent⟩ := h
  rw [hr rows hrows]
  exact ⟨hrows, hpresent⟩

structure Answers (s : Memory) (id : Value) : Prop where
  groups : Found (stores (.findGroupsFor id) s).result
  roles : ∀ group ∈ s.grants.groupsOf id, Found (stores (.findRolesFor group.grant.id) s).result
  permissions : ∀ role ∈ s.grants.rolesReached id,
    Found (stores (.findPermissionsFor role.grant.id.asMember) s).result

def enter (s : Memory) (cs : List Call) : Memory := { s with journal := cs.reverse ++ s.journal }

lemma stores_enter {c : Call} {a : c.Answer} (hc : ∀ s : Memory, (perform c s).2 = s)
    (h : (stores c s).result = .ok a) (cs : List Call) :
    stores c (s.enter cs) = ⟨.ok a, [], s.enter (cs ++ [c])⟩ := by
  have hnone : s.failureOf? c = none := by
    cases hf : s.failureOf? c with
    | none => rfl
    | some f =>
      rw [(stores_of_failure hf).1] at h
      cases h
  have hentered :
      failureOf? { s.enter cs with journal := c :: (s.enter cs).journal } c = none := hnone
  have hresult :
      (perform c { s.enter cs with journal := c :: (s.enter cs).journal }).1 = .ok a := by
    rw [← h, (stores_of_none hnone).1]
    exact (perform_journal c s _).1
  rw [stores]
  simp only [hentered, hresult, hc]
  simp [enter]

def Finds (s : Memory) (lookup : Program (List GrantRow)) (c : Call) (rows : List GrantRow) :
    Prop :=
  (∀ cs, lookup.run stores (s.enter cs) = ⟨.ok rows, [], s.enter (cs ++ [c])⟩) ∧
    ∀ row ∈ rows, row.value.isAbsent = false

namespace Answers

variable (h : s.Answers id)

include h

lemma finds_groups :
    s.Finds (ask (.findGroupsFor id)) (.findGroupsFor id) (s.grants.groupsOf id) := by
  obtain ⟨hrows, hpresent⟩ := h.groups.eq_listed fun _ => perform_of_ok
  exact ⟨fun cs => (run_ask _ _).trans (stores_enter (fun _ => rfl) hrows cs), hpresent⟩

lemma finds_roles {group : GrantRow} (hg : group ∈ s.grants.groupsOf id) :
    s.Finds (ask (.findRolesFor group.grant.id)) (.findRolesFor group.grant.id)
      (s.grants.rolesOf group.grant.id) := by
  obtain ⟨hrows, hpresent⟩ := (h.roles group hg).eq_listed fun _ => perform_of_ok
  exact ⟨fun cs => (run_ask _ _).trans (stores_enter (fun _ => rfl) hrows cs), hpresent⟩

lemma finds_permissions {role : GrantRow} (hr : role ∈ s.grants.rolesReached id) :
    s.Finds (ask (.findPermissionsFor role.grant.id.asMember))
      (.findPermissionsFor role.grant.id.asMember) (s.grants.permissionsOf role.grant.id) := by
  obtain ⟨hrows, hpresent⟩ := (h.permissions role hr).eq_listed fun _ => perform_of_ok
  rw [← Grants.All.permissionsOf_congr (Value.asMember_asMember role.grant.id)]
  exact ⟨fun cs => (run_ask _ _).trans (stores_enter (fun _ => rfl) hrows cs), hpresent⟩

end Answers

lemma firstFailure_map_ok {α : Type} (l : List α) : firstFailure (l.map .ok) = .ok l := by
  induction l with
  | nil => rfl
  | cons a l ih =>
    rw [List.map_cons, firstFailure, ih]
    rfl

section

variable {β : Type} {l : List β} {lookup : β → Program (List GrantRow)} {c : β → Call}
  {rows : β → List GrantRow}

lemma run_attemptAll_finds (h : ∀ b ∈ l, s.Finds (lookup b) (c b) (rows b)) (cs : List Call) :
    (attemptAll (l.map fun b => .ok (lookup b))).run stores (s.enter cs) =
      ⟨.ok ((l.map rows).map .ok), [], s.enter (cs ++ l.map c)⟩ := by
  induction l generalizing cs with
  | nil => simp [attemptAll]
  | cons b l ih =>
    obtain ⟨⟨hb, -⟩, hl⟩ := List.forall_mem_cons.1 h
    have hfirst : (lookup b).attempt.run stores (s.enter cs) =
        ⟨.ok (.ok (rows b)), [], s.enter (cs ++ [c b])⟩ := by rw [run_attempt, hb]
    have hrest := ih hl (cs ++ [c b])
    rw [List.map_cons, attemptAll, bind_eq, run_bind_ok (by rw [hfirst]), hfirst, bind_eq,
      run_bind_ok (by rw [hrest]), hrest, List.append_assoc]
    rfl

lemma run_all_finds (h : ∀ b ∈ l, s.Finds (lookup b) (c b) (rows b)) (cs : List Call) :
    (all (l.map fun b => .ok (lookup b))).run stores (s.enter cs) =
      ⟨.ok (l.map rows), [], s.enter (cs ++ l.map c)⟩ := by
  have hattempt := run_attemptAll_finds h cs
  rw [all, bind_eq, run_bind_ok (by rw [hattempt]), hattempt, firstFailure_map_ok]
  rfl

end

end Memory

namespace Authorization

variable {s : Memory} {id : Value}

lemma read_of_present {row : GrantRow} (h : row.value.isAbsent = false) (field : String) :
    row.read field = .ok row.grant := by
  rw [GrantRow.read]
  cases hv : row.value with
  | undefined | null => simp [hv, Value.isAbsent, Value.isUndefined, Value.isNull] at h
  | _ => rfl

lemma mapM_read {rows : List GrantRow} (h : ∀ row ∈ rows, row.value.isAbsent = false)
    (field : String) : rows.mapM (·.read field) = .ok (rows.map GrantRow.grant) := by
  induction rows with
  | nil => rfl
  | cons row rows ih =>
    obtain ⟨hrow, hrows⟩ := List.forall_mem_cons.1 h
    rw [List.mapM_cons, read_of_present hrow, ih hrows]
    rfl

lemma mapM_read_finds {β : Type} {l : List β} {lookup : β → Program (List GrantRow)} {c : β → Call}
    {rows : β → List GrantRow} (h : ∀ b ∈ l, s.Finds (lookup b) (c b) (rows b)) (field : String) :
    (l.map rows).flatten.mapM (·.read field) = .ok ((l.flatMap rows).map GrantRow.grant) := by
  rw [← List.flatMap_def]
  refine mapM_read (fun row hrow => ?_) field
  obtain ⟨b, hb, hrow⟩ := List.mem_flatMap.1 hrow
  exact (h b hb).2 row hrow

def distinct (s : Memory) (id : Value) : List Grant :=
  Access.distinctRoles ((s.grants.rolesReached id).map GrantRow.grant)

def lookups (s : Memory) (id : Value) : List Call :=
  .findGroupsFor id :: (s.grants.groupsOf id).map (fun group => .findRolesFor group.grant.id) ++
    (distinct s id).map fun r => .findPermissionsFor r.id.asMember

lemma mem_distinct {r : Grant} (h : r ∈ distinct s id) :
    ∃ role ∈ s.grants.rolesReached id, role.grant = r :=
  List.mem_map.1 (Access.mem_of_distinctRoles h)

lemma placed_rolesReached : ∀ r ∈ (s.grants.rolesReached id).map GrantRow.grant,
    r.Placed (·.id) := by
  rintro _ hr
  obtain ⟨row, hrow, rfl⟩ := List.mem_map.1 hr
  exact (Memory.Grants.All.holds_rolesReached hrow).placed _

lemma distinctNames_distinct : Access.distinctNames (((distinct s id).flatMap fun r =>
      s.grants.permissionsOf r.id).map GrantRow.grant) =
    Access.distinctNames ((s.grants.reached id).map GrantRow.grant) := by
  rw [Memory.Grants.All.reached_eq, List.map_flatMap, List.map_flatMap, Access.distinctNames,
    Access.distinctNames, distinct, Access.foldl_putName_distinctRoles placed_rolesReached,
    List.flatMap_map]
  · rintro _ - g hg
    obtain ⟨row, hrow, rfl⟩ := List.mem_map.1 hg
    exact (Memory.Grants.All.holds_permissionsOf hrow).placed _
  · rintro _ hr _ hq hmark
    obtain ⟨row, hrow, rfl⟩ := List.mem_map.1 hr
    obtain ⟨row', hrow', rfl⟩ := List.mem_map.1 hq
    have hid := (Memory.Grants.All.holds_rolesReached hrow).asMember_eq (·.id)
      (Memory.Grants.All.holds_rolesReached hrow')
      (fun h => congrArg (Value.field · "id") h) hmark
    rw [Memory.Grants.All.permissionsOf_congr hid]

lemma finds_distinct (h : s.Answers id) {r : Grant} (hr : r ∈ distinct s id) :
    s.Finds (ask (.findPermissionsFor r.id.asMember)) (.findPermissionsFor r.id.asMember)
      (s.grants.permissionsOf r.id) := by
  obtain ⟨role, hrole, rfl⟩ := mem_distinct hr
  exact h.finds_permissions hrole

lemma map_rolesOf {groups : List GrantRow} (h : ∀ group ∈ groups, group.value.isAbsent = false) :
    groups.map rolesOf = groups.map fun group => .ok (ask (.findRolesFor group.grant.id)) := by
  refine List.map_congr_left fun group hg => ?_
  rw [rolesOf, read_of_present (h group hg)]
  rfl

lemma resolve_run (h : s.Answers id) : ∃ access,
    (resolve (some id)).run Memory.stores s = ⟨.ok access, [], s.enter (lookups s id)⟩ ∧
      access.permissions = Access.distinctNames ((s.grants.reached id).map GrantRow.grant) := by
  have hroles (group : GrantRow) (hg : group ∈ s.grants.groupsOf id) := h.finds_roles hg
  have hpermissions (r : Grant) (hr : r ∈ distinct s id) := finds_distinct h hr
  obtain ⟨hfound, hgroup⟩ := h.finds_groups
  -- Three rounds of calls, each of which finds what it would have found at the start.
  have hfound : (ask (.findGroupsFor id)).run Memory.stores s = _ := hfound []
  have hgranted := Memory.run_all_finds hroles [.findGroupsFor id]
  have hheld := Memory.run_all_finds hpermissions
    (.findGroupsFor id :: (s.grants.groupsOf id).map fun group => .findRolesFor group.grant.id)
  have hread := mapM_read_finds hroles "id"
  have hnamed := mapM_read_finds hpermissions "name"
  have hrun : (resolve (some id)).run Memory.stores s =
      ⟨.ok ⟨Access.distinctNames ((s.grants.groupsOf id).map GrantRow.grant),
        Access.distinctNames (distinct s id), Access.distinctNames
          (((distinct s id).flatMap fun r => s.grants.permissionsOf r.id).map GrantRow.grant)⟩,
        [], s.enter (lookups s id)⟩ := by
    have hdistinct : Access.distinctRoles (((s.grants.groupsOf id).flatMap
      fun group => s.grants.rolesOf group.grant.id).map GrantRow.grant) = distinct s id := rfl
    rw [resolve, bind_eq, run_bind_ok (by rw [hfound]), hfound, map_rolesOf hgroup, bind_eq,
      run_bind_ok (by rw [List.nil_append, hgranted]), List.nil_append, hgranted, hread, bind_eq,
      bind_ok, hdistinct, bind_eq, run_bind_ok (by rw [List.singleton_append, hheld]),
      List.singleton_append, hheld, hnamed]
    rfl
  exact ⟨_, hrun, distinctNames_distinct⟩

def names (s : Memory) (id : Value) : List Value :=
  Access.distinctNames ((s.grants.reached id).map GrantRow.grant)

lemma permissionsOf_run (h : s.Answers id) : (permissionsOf (some id)).run Memory.stores s =
    ⟨.ok (names s id), [], s.enter (lookups s id)⟩ := by
  obtain ⟨access, hrun, hnames⟩ := resolve_run h
  rw [permissionsOf, bind_eq, run_bind_ok (by rw [hrun]), hrun, hnames]
  rfl

lemma hasPermission_run (h : s.Answers id) (permission : Value) :
    (hasPermission (some id) permission).run Memory.stores s =
      ⟨.ok ((names s id).any (·.same permission)), [], s.enter (lookups s id)⟩ := by
  rw [hasPermission, bind_eq, run_bind_ok (by rw [permissionsOf_run h]), permissionsOf_run h]
  rfl

lemma placed_reached : ∀ g ∈ (s.grants.reached id).map GrantRow.grant, g.Placed (·.name) := by
  rintro _ hg
  obtain ⟨row, hrow, rfl⟩ := List.mem_map.1 hg
  exact (Memory.Grants.All.holds_reached hrow).placed _

lemma mem_names {v : Value} :
    v ∈ names s id ↔ ∃ row, s.grants.Chain id row ∧ row.grant.name.asMember = v := by
  rw [names, Access.mem_distinctNames placed_reached]
  · simp only [List.mem_map, exists_exists_and_eq_and, Memory.Grants.All.mem_reached]
  · rintro _ hg _ hh hmark
    obtain ⟨row, hrow, rfl⟩ := List.mem_map.1 hg
    obtain ⟨row', hrow', rfl⟩ := List.mem_map.1 hh
    exact (Memory.Grants.All.holds_reached hrow).asMember_eq (·.name)
      (Memory.Grants.All.holds_reached hrow')
      (fun h => congrArg (Value.field · "name") h) hmark

lemma any_names_iff {name : String} :
    (names s id).any (·.same (.str name)) = true ↔ s.grants.Reaches id name := by
  rw [Memory.Grants.All.reaches_iff, List.any_eq_true]
  constructor
  · rintro ⟨v, hv, hsame⟩
    obtain ⟨row, hchain, hname⟩ := mem_names.1 hv
    exact ⟨row, hchain, Value.asMember_str.1 (hname.trans (Value.same_str.1 hsame))⟩
  · rintro ⟨row, hchain, hname⟩
    exact ⟨_, mem_names.2 ⟨row, hchain, Value.asMember_str.2 hname⟩, Value.same_str.2 rfl⟩

/-- Permissions are exactly the names to which chains lead, each once, and the same as those of the
plain loop over groups, roles and permissions. To find them the groups are looked up once, the roles
of every listed group in turn, and the permissions of every role once, where roles of one id count
as one. -/
theorem permissions_eq_chains (h : s.Answers id) :
    (permissionsOf (some id)).run Memory.stores s = ⟨.ok (names s id), [], s.enter (lookups s id)⟩ ∧
    (∀ v, v ∈ names s id ↔ ∃ row, s.grants.Chain id row ∧ row.grant.name.asMember = v) ∧
    ((names s id).Pairwise fun v w => v.same w = false) ∧
    (∀ permission, ∃ granted, (hasPermission (some id) (.str permission)).run Memory.stores s =
        ⟨.ok granted, [], s.enter (lookups s id)⟩ ∧
      (granted = true ↔ s.grants.Reaches id permission)) ∧
    ((distinct s id).Pairwise fun q r => q.agree (·.id) r = false) ∧
    (∀ r ∈ distinct s id, ∃ role ∈ s.grants.rolesReached id, role.grant = r) ∧
    ∀ role ∈ s.grants.rolesReached id, ∃ r ∈ distinct s id, r.agree (·.id) role.grant = true :=
  ⟨permissionsOf_run h, fun _ => mem_names, Access.pairwise_distinctNames placed_reached,
    fun _ => ⟨_, hasPermission_run h _, any_names_iff⟩,
    Access.pairwise_distinctRoles placed_rolesReached, fun _ hr => mem_distinct hr,
    fun _ hr => Access.exists_distinctRoles placed_rolesReached (List.mem_map_of_mem hr)⟩

def grantValue (id name : String) : Value := .obj [("id", .str id), ("name", .str name)]

/-- A group that is listed twice, and two roles that groups share, one of them under two names. -/
def sharingMemory : Memory :=
  { users := [], records := [], healthy := true, failures := [], journal := []
    grants :=
      ⟨[("user-1", .arr [grantValue "g" "staff", grantValue "h" "guests", grantValue "g" "staff"])],
        [("g", .arr [grantValue "r" "reader", grantValue "w" "writer"]),
          ("h", .arr [grantValue "w" "author", grantValue "r" "reader"])],
        [("r", .arr [grantValue "p" "user:read", grantValue "p" "user:read"]),
          ("w", .arr [grantValue "q" "wish:write", grantValue "p" "user:read"])]⟩ }

lemma answers_sharingMemory : sharingMemory.Answers (.str "user-1") where
  groups := ⟨_, rfl, by decide⟩
  roles := by
    have hg : Memory.Found (Memory.stores (.findRolesFor (.str "g")) sharingMemory).result :=
      ⟨_, rfl, by decide⟩
    have hh : Memory.Found (Memory.stores (.findRolesFor (.str "h")) sharingMemory).result :=
      ⟨_, rfl, by decide⟩
    exact List.forall_mem_cons.2 ⟨hg, List.forall_mem_cons.2 ⟨hh, List.forall_mem_singleton.2 hg⟩⟩
  permissions := by
    have hr : Memory.Found (Memory.stores (.findPermissionsFor (.str "r")) sharingMemory).result :=
      ⟨_, rfl, by decide⟩
    have hw : Memory.Found (Memory.stores (.findPermissionsFor (.str "w")) sharingMemory).result :=
      ⟨_, rfl, by decide⟩
    exact List.forall_mem_cons.2 ⟨hr, List.forall_mem_cons.2 ⟨hw, List.forall_mem_cons.2 ⟨hw,
      List.forall_mem_cons.2 ⟨hr, List.forall_mem_cons.2 ⟨hr, List.forall_mem_singleton.2 hw⟩⟩⟩⟩⟩

theorem permissions_eq_chains_sharing :
    (permissionsOf (some (.str "user-1"))).run Memory.stores sharingMemory =
      ⟨.ok [.str "user:read", .str "wish:write"], [], sharingMemory.enter
        [.findGroupsFor (.str "user-1"), .findRolesFor (.str "g"), .findRolesFor (.str "h"),
          .findRolesFor (.str "g"), .findPermissionsFor (.str "r"),
          .findPermissionsFor (.str "w")]⟩ ∧
    ((hasPermission (some (.str "user-1")) (.str "user:read")).run Memory.stores
      sharingMemory).result = .ok true ∧
    ((hasPermission (some (.str "user-1")) (.str "User:read")).run Memory.stores
      sharingMemory).result = .ok false := by
  obtain ⟨hrun, hmem, -, hhas, -⟩ := permissions_eq_chains answers_sharingMemory
  have hnames : names sharingMemory (.str "user-1") = [.str "user:read", .str "wish:write"] := rfl
  have hreaches (permission : String) : sharingMemory.grants.Reaches (.str "user-1") permission ↔
      .str permission ∈ names sharingMemory (.str "user-1") := by
    rw [hmem, Memory.Grants.All.reaches_iff]
    simp only [Value.asMember_str]
  obtain ⟨granted, hgranted, hiff⟩ := hhas "user:read"
  obtain ⟨denied, hdenied, hiff'⟩ := hhas "User:read"
  rw [hreaches, hnames] at hiff hiff'
  obtain rfl : granted = true := hiff.2 (by simp)
  obtain rfl : denied = false := by simpa using hiff'
  exact ⟨hrun, congrArg Outcome.result hgranted, congrArg Outcome.result hdenied⟩

end Authorization

end AuthGate
