import AuthGate.Proofs.Except
import AuthGate.Proofs.Memory
import AuthGate.Proofs.Record
import AuthGate.Service.Authorization

namespace AuthGate

open Program

lemma Value.asMember_str {v : Value} {name : String} : v.asMember = .str name ↔ v = .str name := by
  cases v with
  | num n => cases n <;> simp [asMember]
  | _ => simp [asMember]

lemma Value.text_asMember (v : Value) : v.asMember.text = v.text := by
  cases v with
  | num n => cases n <;> rfl
  | _ => rfl

lemma mapM_mem {α β : Type} {f : α → Except Failure β} {l : List α} {l' : List β} {b : β}
    (h : l.mapM f = .ok l') (hb : b ∈ l') : ∃ a ∈ l, f a = .ok b := by
  induction l generalizing l' with
  | nil =>
    obtain rfl := Except.ok.inj h
    cases hb
  | cons a l ih =>
    rw [List.mapM_cons] at h
    obtain ⟨c, hc, h⟩ := Except.bind_eq_ok.1 h
    obtain ⟨r, hr, h⟩ := Except.bind_eq_ok.1 h
    obtain rfl := Except.ok.inj h
    rcases List.mem_cons.1 hb with rfl | hb
    · exact ⟨a, List.mem_cons_self, hc⟩
    · obtain ⟨a', ha', h⟩ := ih hr hb
      exact ⟨a', List.mem_cons_of_mem _ ha', h⟩

namespace Memory

variable {α : Type} {s : Memory}

def Grants.All.Reaches (g : Grants.All) (id : Value) (permission : String) : Prop :=
  ∃ groups, g.userGroups.groupsOf id = .ok groups ∧ ∃ group ∈ groups,
    ∃ roles, g.groupRoles.of (group.value.field "id") = .ok roles ∧ ∃ role ∈ roles,
      ∃ permissions, g.rolePermissions.of (role.value.field "id") = .ok permissions ∧
        ∃ row ∈ permissions, row.value.field "name" = .str permission

lemma perform_of_ok {c : Call} {a : c.Answer} (h : (stores c s).result = .ok a) :
    (perform c s).1 = .ok a := by
  obtain ⟨name, text, hr, -⟩ | ⟨hr, -⟩ := stores_cases c s
  · rw [hr] at h
    cases h
  · rw [← hr, h]

lemma run_attemptAll {ps : List (Except Failure (Program α))} {rs : List (Except Failure α)}
    {r : Except Failure α} (h : ((attemptAll ps).run stores s).result = .ok rs) (hr : r ∈ rs) :
    ∃ p s', .ok p ∈ ps ∧ Fixed s s' ∧ (p.run stores s').result = r := by
  induction ps generalizing s rs with
  | nil =>
    obtain rfl := Except.ok.inj h
    cases hr
  | cons q ps ih =>
    cases q with
    | error f => cases h
    | ok q =>
      simp only [attemptAll, bind_eq, result_bind_eq_ok, run_attempt] at h
      obtain ⟨r', hr', rs', hrs', h⟩ := h
      obtain rfl := Except.ok.inj h
      rcases List.mem_cons.1 hr with rfl | hr
      · exact ⟨q, s, List.mem_cons_self, Fixed.refl s, Except.ok.inj hr'⟩
      · obtain ⟨p, s', hp, hs, h⟩ := ih hrs' hr
        exact ⟨p, s', List.mem_cons_of_mem _ hp, (fixed_run q s).trans hs, h⟩

lemma firstFailure_eq_ok {rs : List (Except Failure α)} {l : List α} (h : firstFailure rs = .ok l) :
    rs = l.map .ok := by
  induction rs generalizing l with
  | nil =>
    obtain rfl := Except.ok.inj h
    rfl
  | cons r rs ih =>
    cases r with
    | error f => cases h
    | ok a =>
      obtain ⟨l', hl', rfl⟩ := Except.map_eq_ok.1 h
      rw [ih hl', List.map_cons]

lemma run_all {ps : List (Except Failure (Program α))} {l : List α} {a : α}
    (h : ((all ps).run stores s).result = .ok l) (ha : a ∈ l) :
    ∃ p s', .ok p ∈ ps ∧ Fixed s s' ∧ (p.run stores s').result = .ok a := by
  rw [all, bind_eq, result_bind_eq_ok] at h
  obtain ⟨rs, hrs, h⟩ := h
  obtain rfl := firstFailure_eq_ok h
  exact run_attemptAll hrs (List.mem_map_of_mem ha)

end Memory

namespace Access

lemma mem_of_putRole {roles : List Grant} {r q : Grant} (h : q ∈ putRole roles r) :
    q ∈ roles ∨ q = r := by
  rw [putRole] at h
  split_ifs at h
  · obtain ⟨p, hp, rfl⟩ := List.mem_map.1 h
    split_ifs
    · exact .inr rfl
    · exact .inl hp
  · simpa using h

lemma mem_of_putName {named : List Grant} {g q : Grant} (h : q ∈ putName named g) :
    q ∈ named ∨ q = g := by
  rw [putName] at h
  split_ifs at h
  · exact .inl h
  · simpa using h

lemma mem_of_foldl {put : List Grant → Grant → List Grant}
    (hput : ∀ {found g q}, q ∈ put found g → q ∈ found ∨ q = g) {l found : List Grant} {q : Grant}
    (h : q ∈ l.foldl put found) : q ∈ found ∨ q ∈ l := by
  induction l generalizing found with
  | nil => exact .inl h
  | cons g l ih =>
    rcases ih h with h | h
    · rcases hput h with h | rfl
      · exact .inl h
      · exact .inr List.mem_cons_self
    · exact .inr (List.mem_cons_of_mem _ h)

lemma mem_of_distinctRoles {roles : List Grant} {r : Grant} (h : r ∈ distinctRoles roles) :
    r ∈ roles := by
  simpa using mem_of_foldl mem_of_putRole h

lemma mem_of_distinctNames {grants : List Grant} {v : Value} (h : v ∈ distinctNames grants) :
    ∃ g ∈ grants, g.name.asMember = v := by
  obtain ⟨g, hg, rfl⟩ := List.mem_map.1 h
  exact ⟨g, by simpa using mem_of_foldl mem_of_putName hg, rfl⟩

end Access

namespace Authorization

variable {s : Memory} {id requestId : Value} {permission : String} {m : Moment}

lemma read_eq_ok {field : String} {row : GrantRow} {g : Grant} (h : row.read field = .ok g) :
    g = row.grant := by
  obtain ⟨-, -, rfl⟩ := Except.map_eq_ok.1 h
  rfl

lemma roles_of_granted {groups : List GrantRow} {granted : List (List GrantRow)}
    (h : ((all (groups.map rolesOf)).run Memory.stores s).result = .ok granted)
    {rows : List GrantRow} (hrows : rows ∈ granted) :
    ∃ group ∈ groups, s.grants.groupRoles.of (group.value.field "id") = .ok rows := by
  obtain ⟨p, s', hp, hs, hr⟩ := Memory.run_all h hrows
  obtain ⟨group, hgroup, hp⟩ := List.mem_map.1 hp
  obtain ⟨g, hg, rfl⟩ := Except.map_eq_ok.1 hp
  obtain rfl := read_eq_ok hg
  rw [run_ask] at hr
  exact ⟨group, hgroup, hs.grants ▸ Memory.perform_of_ok hr⟩

lemma permissions_of_granted {roles : List Grant} {granted : List (List GrantRow)}
    (h : ((all (roles.map fun r => .ok (ask (.findPermissionsFor r.id.asMember)))).run
      Memory.stores s).result = .ok granted) {rows : List GrantRow} (hrows : rows ∈ granted) :
    ∃ r ∈ roles, s.grants.rolePermissions.of r.id = .ok rows := by
  obtain ⟨p, s', hp, hs, hr⟩ := Memory.run_all h hrows
  obtain ⟨r, hmem, hp⟩ := List.mem_map.1 hp
  obtain rfl := Except.ok.inj hp
  rw [run_ask] at hr
  have hrows : s'.grants.rolePermissions.of r.id.asMember = .ok rows := Memory.perform_of_ok hr
  rw [Memory.Grants.of, Value.text_asMember] at hrows
  exact ⟨r, hmem, hs.grants ▸ hrows⟩

lemma resolve_reaches {access : Access}
    (h : ((resolve (some id)).run Memory.stores s).result = .ok access)
    (hp : .str permission ∈ access.permissions) : s.grants.Reaches id permission := by
  simp only [resolve, bind_eq, result_bind_eq_ok] at h
  obtain ⟨groups, hgroups, granted, hgranted, roles, hroles, held, hheld, named, hnamed, h⟩ := h
  have hfixed := Memory.fixed_run (ask (.findGroupsFor id)) s
  have hfixed' := hfixed.trans (Memory.fixed_run (all (groups.map rolesOf)) _)
  rw [run_ask] at hgroups
  obtain rfl := Except.ok.inj h
  -- Back from the name to the row that gave it, its role, and the group of that role. Each was read
  -- in a later state, but no call changes the grants.
  obtain ⟨g, hg, hname⟩ := Access.mem_of_distinctNames hp
  obtain ⟨row, hrow, hread⟩ := mapM_mem hnamed hg
  obtain rfl := read_eq_ok hread
  obtain ⟨permissions, hpermissions, hrow⟩ := List.mem_flatten.1 hrow
  obtain ⟨r, hr, hof⟩ := permissions_of_granted hheld hpermissions
  obtain ⟨role, hrole, hread⟩ := mapM_mem hroles (Access.mem_of_distinctRoles hr)
  obtain rfl := read_eq_ok hread
  obtain ⟨rows, hrows, hrole⟩ := List.mem_flatten.1 hrole
  obtain ⟨group, hgroup, hroleof⟩ := roles_of_granted hgranted hrows
  refine ⟨groups, Memory.perform_of_ok hgroups, group, hgroup, rows, ?_, role, hrole, permissions,
    ?_, row, hrow, Value.asMember_str.1 hname⟩
  · rw [← hfixed.grants, hroleof]
  · rw [← hfixed'.grants]
    exact hof

lemma hasPermission_reaches
    (h : ((hasPermission (some id) (.str permission)).run Memory.stores s).result = .ok true) :
    s.grants.Reaches id permission := by
  simp only [hasPermission, permissionsOf, bind_eq, result_bind_eq_ok] at h
  obtain ⟨held, ⟨access, haccess, h⟩, h'⟩ := h
  obtain rfl := Except.ok.inj h
  obtain ⟨v, hv, hsame⟩ := List.any_eq_true.1 (Except.ok.inj h')
  exact resolve_reaches haccess (Value.same_str.1 hsame ▸ hv)

lemma requirePermission_reaches
    (h : ((requirePermission m requestId (some id) (.str permission)).run Memory.stores s).result =
      .ok ()) : s.grants.Reaches id permission := by
  simp only [requirePermission, bind_eq, result_bind_eq_ok] at h
  obtain ⟨granted, hgranted, -, -, h⟩ := h
  split_ifs at h with hg
  · exact hasPermission_reaches (hg ▸ hgranted)
  · cases h

section

variable {σ : Type} {stores : Stores σ} {s : σ} {principalId : Option Value}

lemma describe_state : ((describe principalId).run stores s).state =
    ((resolve principalId).run stores s).state := by
  rw [describe, bind_eq]
  refine state_bind_quiet (fun _ => ?_) _ _
  exact .done trivial

lemma hasPermission_state {permission : Value} :
    ((hasPermission principalId permission).run stores s).state =
      ((resolve principalId).run stores s).state := by
  have hpermissions : ((permissionsOf principalId).run stores s).state =
      ((resolve principalId).run stores s).state := by
    rw [permissionsOf, bind_eq]
    refine state_bind_quiet (fun _ => ?_) _ _
    exact .done trivial
  rw [hasPermission, bind_eq, ← hpermissions]
  refine state_bind_quiet (fun _ => ?_) _ _
  exact .done trivial

lemma requirePermission_state {permission : Value} :
    ((requirePermission m requestId principalId permission).run stores s).state =
      ((resolve principalId).run stores s).state := by
  rw [requirePermission, bind_eq, ← hasPermission_state]
  refine state_bind_quiet (fun granted => ?_) _ _
  refine (quiet_log m _).bind (fun _ _ => ?_) fun _ _ => trivial
  split_ifs
  · exact .done trivial
  · exact .done trivial

end

end Authorization

end AuthGate
