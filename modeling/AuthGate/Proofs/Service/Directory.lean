import AuthGate.Proofs.Service.Chains
import AuthGate.Proofs.Transcript
import Mathlib.Data.Set.Basic

/-! Looking up access in a directory, over any stores that are filled from it. A program goes from
level to level, fails as the first of its lookups that fails, and looks up nothing of a later level
then; if none fails it finds what the directory holds, however its rows come. -/

namespace AuthGate

open Program

structure Named where
  id : String
  name : String
deriving DecidableEq

def namesOf (A : Set Named) : Set String := {name | ∃ n ∈ A, n.name = name}

def Grant.Is (g : Grant) (n : Named) : Prop := g.id = .str n.id ∧ g.name = .str n.name

def Lists (grants : List Grant) (A : Set Named) : Prop :=
  (∀ g ∈ grants, ∃ n ∈ A, g.Is n) ∧ ∀ n ∈ A, ∃ g ∈ grants, g.Is n

structure Directory where
  groupsOf : String → Set Named
  rolesOf : String → Set Named
  permissionsOf : String → Set Named

namespace Directory

variable (d : Directory)

def groups (principal : Option String) : Set Named := {g | ∃ id ∈ principal, g ∈ d.groupsOf id}

def roles (principal : Option String) : Set Named :=
  {r | ∃ g ∈ d.groups principal, r ∈ d.rolesOf g.id}

def permissions (principal : Option String) : Set Named :=
  {p | ∃ r ∈ d.roles principal, p ∈ d.permissionsOf r.id}

def Reaches (principal : Option String) (permission : String) : Prop :=
  permission ∈ namesOf (d.permissions principal)

end Directory

inductive GrantQuery where
  | groupsOf (userId : String)
  | rolesOf (groupId : String)
  | permissionsOf (roleId : String)

namespace GrantQuery

def ask : GrantQuery → Program (List GrantRow)
  | groupsOf id => Program.ask (.findGroupsFor (.str id))
  | rolesOf id => Program.ask (.findRolesFor (.str id))
  | permissionsOf id => Program.ask (.findPermissionsFor (.str id))

lemma ask_rolesOf {v : Value} {id : String} (h : v = .str id) :
    (rolesOf v.asText).ask = Program.ask (.findRolesFor v) := by
  subst h
  rfl

lemma ask_permissionsOf {v : Value} {id : String} (h : v = .str id) :
    (permissionsOf v.asText).ask = Program.ask (.findPermissionsFor v.asMember) := by
  subst h
  rfl

def entries (d : Directory) : GrantQuery → Set Named
  | groupsOf id => d.groupsOf id
  | rolesOf id => d.rolesOf id
  | permissionsOf id => d.permissionsOf id

def level : GrantQuery → ℕ
  | groupsOf _ => 1
  | rolesOf _ => 2
  | permissionsOf _ => 3

end GrantQuery

def Call.level : Call → ℕ
  | findGroupsFor _ => 1
  | findRolesFor _ => 2
  | findPermissionsFor _ => 3
  | _ => 0

/-- Whatever was called before, a lookup that does not fail finds what the directory holds. -/
def Serves {σ : Type} (stores : Stores σ) (d : Directory) (s : σ) : Prop :=
  ∀ cs (q : GrantQuery) rows, (q.ask.run stores (after stores cs s)).result = .ok rows →
    Lists (rows.map GrantRow.grant) (q.entries d)

variable {α β σ : Type} {stores : Stores σ} {d : Directory} {s : σ} {q : GrantQuery}

lemma Serves.run (h : Serves stores d s) (p : Program α) :
    Serves stores d (p.run stores s).state := by
  intro cs q rows hrows
  rw [state_eq_after, ← after_append] at hrows
  exact h _ q rows hrows

lemma Serves.lists (h : Serves stores d s) {rows : List GrantRow}
    (hrows : (q.ask.run stores s).result = .ok rows) :
    Lists (rows.map GrantRow.grant) (q.entries d) :=
  h [] q rows hrows

/-- No call is of a later level than one that fails. -/
def Stepwise (es : List Exchange) : Prop :=
  ∀ e ∈ es, e.failure? ≠ none → ∀ e' ∈ es, e'.call.level ≤ e.call.level

/-- A program that asks at the levels between two: it fails as the first of its calls that fails,
and ends in a result of one kind otherwise. -/
structure Explores (stores : Stores σ) (s : σ) (first last : ℕ) (P : α → Prop) (p : Program α) :
    Prop where
  blames : failureOf (p.run stores s).result =
    (p.transcript stores s).findSome? Exchange.failure?
  stepwise : Stepwise (p.transcript stores s)
  levels : ∀ e ∈ p.transcript stores s, first ≤ e.call.level ∧ e.call.level ≤ last
  gives : ∀ a, (p.run stores s).result = .ok a → P a

namespace Explores

variable {first last : ℕ} {P : α → Prop} {p : Program α}

lemma result_eq_error (h : Explores stores s first last P p) {f : Failure}
    (hf : (p.transcript stores s).findSome? Exchange.failure? = some f) :
    (p.run stores s).result = .error f := by
  have hblames := h.blames
  rw [hf] at hblames
  cases hr : (p.run stores s).result with
  | ok a =>
    rw [hr] at hblames
    cases hblames
  | error g =>
    rw [hr] at hblames
    rw [Option.some.inj hblames]

lemma exists_ok (h : Explores stores s first last P p)
    (hok : ∀ e ∈ p.transcript stores s, e.failure? = none) :
    ∃ a, (p.run stores s).result = .ok a ∧ P a := by
  have hblames := h.blames
  rw [List.findSome?_eq_none_iff.2 hok] at hblames
  cases hr : (p.run stores s).result with
  | ok a => exact ⟨a, rfl, h.gives a hr⟩
  | error f =>
    rw [hr] at hblames
    cases hblames

end Explores

def Looks (stores : Stores σ) (d : Directory) (first last : ℕ) (P : α → Prop) (p : Program α) :
    Prop :=
  ∀ s, Serves stores d s → Explores stores s first last P p

namespace Looks

variable {i j k l : ℕ} {P : α → Prop} {Q : β → Prop} {p : Program α}

lemma done {a : α} (h : P a) : Looks stores d i l P (done (.ok a)) := by
  refine fun s _ => ⟨rfl, ?_, ?_, ?_⟩
  · exact fun e he => absurd he List.not_mem_nil
  · exact fun e he => absurd he List.not_mem_nil
  · rintro _ ⟨⟩
    exact h

lemma bind {f : α → Program β} (hp : Looks stores d i j P p)
    (hf : ∀ a, P a → Looks stores d k l Q (f a)) (hfirst : i ≤ k) (hmid : j ≤ k) (hlast : j ≤ l) :
    Looks stores d i l Q (p.bind f) := by
  intro s hs
  obtain ⟨hblames, hstep, hlevels, hgives⟩ := hp s hs
  cases hr : (p.run stores s).result with
  | error e =>
    rw [hr] at hblames
    refine ⟨?_, ?_, ?_, ?_⟩
    · rw [transcript_bind_error hr, run_bind_error hr, ← hblames]
      rfl
    · rwa [transcript_bind_error hr]
    · rw [transcript_bind_error hr]
      exact fun e he => ⟨(hlevels e he).1, (hlevels e he).2.trans hlast⟩
    · rw [run_bind_error hr]
      exact fun a ha => by cases ha
  | ok a =>
    rw [hr] at hblames
    have hnone : ∀ e ∈ p.transcript stores s, e.failure? = none :=
      List.findSome?_eq_none_iff.1 hblames.symm
    obtain ⟨hblames', hstep', hlevels', hgives'⟩ := hf a (hgives a hr) _ (hs.run p)
    refine ⟨?_, ?_, ?_, ?_⟩
    · rw [transcript_bind_ok hr, run_bind_ok hr, List.findSome?_append, ← hblames, ← hblames']
      rfl
    · rw [transcript_bind_ok hr]
      intro e he hfail e' he'
      -- The failing call is one of the second part, so it is of no earlier level than the others.
      obtain he | he := List.mem_append.1 he
      · exact absurd (hnone e he) hfail
      · obtain he' | he' := List.mem_append.1 he'
        · exact (hlevels e' he').2.trans (hmid.trans (hlevels' e he).1)
        · exact hstep' e he hfail e' he'
    · rw [transcript_bind_ok hr]
      refine List.forall_mem_append.2 ⟨fun e he => ?_, fun e he => ?_⟩
      · exact ⟨(hlevels e he).1, (hlevels e he).2.trans hlast⟩
      · exact ⟨hfirst.trans (hlevels' e he).1, (hlevels' e he).2⟩
    · rw [run_bind_ok hr]
      exact hgives'

end Looks

lemma looks_ask (q : GrantQuery) :
    Looks stores d q.level q.level (fun rows => Lists (rows.map GrantRow.grant) (q.entries d))
      q.ask := by
  intro s hs
  have hone : ∃ e, q.ask.transcript stores s = [e] ∧ e.call.level = q.level ∧
      e.failure? = failureOf (q.ask.run stores s).result := by
    cases q <;> exact ⟨_, rfl, rfl, rfl⟩
  obtain ⟨e, he, hlevel, hfailure⟩ := hone
  refine ⟨?_, ?_, ?_, fun rows => hs.lists⟩
  · rw [he, ← hfailure, List.findSome?_singleton]
  · rw [he]
    rintro a ha - b hb
    rw [List.mem_singleton.1 ha, List.mem_singleton.1 hb]
  · rw [he]
    exact List.forall_mem_singleton.2 ⟨hlevel.ge, hlevel.le⟩

lemma Lists.append {gs hs : List Grant} {A B : Set Named} (h : Lists gs A) (h' : Lists hs B) :
    Lists (gs ++ hs) (A ∪ B) := by
  refine ⟨fun g hg => ?_, fun n hn => ?_⟩
  · obtain hg | hg := List.mem_append.1 hg
    · obtain ⟨n, hn, his⟩ := h.1 g hg
      exact ⟨n, .inl hn, his⟩
    · obtain ⟨n, hn, his⟩ := h'.1 g hg
      exact ⟨n, .inr hn, his⟩
  · obtain hn | hn := hn
    · obtain ⟨g, hg, his⟩ := h.2 n hn
      exact ⟨g, List.mem_append_left _ hg, his⟩
    · obtain ⟨g, hg, his⟩ := h'.2 n hn
      exact ⟨g, List.mem_append_right _ hg, his⟩

def found (d : Directory) (qs : List GrantQuery) : Set Named := {n | ∃ q ∈ qs, n ∈ q.entries d}

lemma found_cons (q : GrantQuery) (qs : List GrantQuery) :
    found d (q :: qs) = q.entries d ∪ found d qs := by
  ext n
  simp [found]

lemma result_attemptAll_cons {p : Program α} {ps : List (Except Failure (Program α))}
    {rs : List (Except Failure α)}
    (h : ((attemptAll ps).run stores (p.run stores s).state).result = .ok rs) :
    ((attemptAll (.ok p :: ps)).run stores s).result = .ok ((p.run stores s).result :: rs) := by
  rw [attemptAll, bind_eq, run_bind_ok (result_attempt p s), state_attempt, bind_eq, run_bind_ok h]
  rfl

lemma failureOf_map (r : Except Failure α) (f : α → β) : failureOf (r.map f) = failureOf r := by
  cases r <;> rfl

lemma attemptAll_lookups {n : ℕ} {qs : List GrantQuery} (hqs : ∀ q ∈ qs, q.level = n)
    (hs : Serves stores d s) :
    let p := attemptAll (qs.map fun q => .ok q.ask)
    ∃ rs, (p.run stores s).result = .ok rs ∧
      failureOf (firstFailure rs) = (p.transcript stores s).findSome? Exchange.failure? ∧
      (∀ e ∈ p.transcript stores s, e.call.level = n) ∧
      ∀ rowss, firstFailure rs = .ok rowss →
        Lists (rowss.flatten.map GrantRow.grant) (found d qs) := by
  induction qs generalizing s with
  | nil =>
    refine ⟨[], rfl, rfl, fun e he => absurd he List.not_mem_nil, ?_⟩
    rintro _ ⟨⟩
    exact ⟨by simp, fun n ⟨q, hq, _⟩ => absurd hq List.not_mem_nil⟩
  | cons q qs ih =>
    obtain ⟨hq, hqs⟩ := List.forall_mem_cons.1 hqs
    obtain ⟨hblames, -, hlevels, hgives⟩ := looks_ask q s hs
    -- The stores serve the same directory after the first lookup, whatever that did to them.
    obtain ⟨rs, hrs, hblames', hlevels', hgives'⟩ := ih hqs (hs.run q.ask)
    refine ⟨(q.ask.run stores s).result :: rs, result_attemptAll_cons hrs, ?_, ?_, ?_⟩
    · rw [List.map_cons, transcript_attemptAll_cons, List.findSome?_append, ← hblames, ← hblames']
      cases (q.ask.run stores s).result with
      | ok rows => exact failureOf_map _ _
      | error f => rfl
    · rw [List.map_cons, transcript_attemptAll_cons]
      refine List.forall_mem_append.2 ⟨fun e he => ?_, hlevels'⟩
      exact (le_antisymm (hlevels e he).2 (hlevels e he).1).trans hq
    · intro rowss hrowss
      cases hr : (q.ask.run stores s).result with
      | error f =>
        rw [hr] at hrowss
        cases hrowss
      | ok rows =>
        rw [hr] at hrowss
        obtain ⟨rowss, hrest, rfl⟩ := Except.map_eq_ok.1 hrowss
        rw [found_cons, List.flatten_cons, List.map_append]
        exact (hgives rows hr).append (hgives' rowss hrest)

lemma looks_all {n : ℕ} {qs : List GrantQuery} (hqs : ∀ q ∈ qs, q.level = n) :
    Looks stores d n n (fun rowss => Lists (rowss.flatten.map GrantRow.grant) (found d qs))
      (all (qs.map fun q => .ok q.ask)) := by
  intro s hs
  obtain ⟨rs, hrs, hblames, hlevels, hgives⟩ := attemptAll_lookups hqs hs
  have htranscript : (all (qs.map fun q => .ok q.ask)).transcript stores s =
      (attemptAll (qs.map fun q => .ok q.ask)).transcript stores s :=
    transcript_bind_quiet (fun rs => .done trivial) _ _
  have hresult : ((all (qs.map fun q => .ok q.ask)).run stores s).result = firstFailure rs := by
    rw [all, bind_eq, run_bind_ok hrs]
    rfl
  refine ⟨?_, ?_, ?_, ?_⟩
  · rw [hresult, htranscript, hblames]
  · rw [htranscript]
    exact fun e he _ e' he' => (hlevels e' he').le.trans (hlevels e he).ge
  · rw [htranscript]
    exact fun e he => ⟨(hlevels e he).ge, (hlevels e he).le⟩
  · rw [hresult]
    exact hgives

namespace Grant.Is

variable {g : Grant} {n : Named}

lemma placed (h : g.Is n) : g.Placed (·.id) ∧ g.Placed (·.name) := by
  obtain ⟨hid, hname⟩ := h
  simp [Placed, hid, hname, Value.isCompound]

lemma present {row : GrantRow} (h : row.grant.Is n) : row.value.isAbsent = false := by
  have hid : row.value.field "id" = .str n.id := h.1
  cases hv : row.value with
  | obj r => rfl
  | _ => simp [hv, Value.field] at hid

end Grant.Is

def Spells (vs : List Value) (names : Set String) : Prop :=
  vs.Nodup ∧ ∀ v, v ∈ vs ↔ ∃ name ∈ names, v = .str name

variable {grants : List Grant} {A : Set Named}

lemma Lists.spells (h : Lists grants A) : Spells (Access.distinctNames grants) (namesOf A) := by
  have hplaced : ∀ g ∈ grants, g.Placed (·.name) := by
    intro g hg
    obtain ⟨n, -, his⟩ := h.1 g hg
    exact his.placed.2
  have htext (g : Grant) (hg : g ∈ grants) : ∃ n ∈ A, g.name = .str n.name := by
    obtain ⟨n, hn, his⟩ := h.1 g hg
    exact ⟨n, hn, his.2⟩
  have hmem (v : Value) : v ∈ Access.distinctNames grants ↔ ∃ name ∈ namesOf A, v = .str name := by
    rw [Access.mem_distinctNames hplaced]
    · constructor
      · rintro ⟨g, hg, rfl⟩
        obtain ⟨n, hn, hname⟩ := htext g hg
        exact ⟨n.name, ⟨n, hn, rfl⟩, by rw [hname]; rfl⟩
      · rintro ⟨_, ⟨n, hn, rfl⟩, rfl⟩
        obtain ⟨g, hg, his⟩ := h.2 n hn
        exact ⟨g, hg, by rw [his.2]; rfl⟩
    · intro g hg g' hg' hmark
      obtain ⟨n, -, hname⟩ := htext g hg
      obtain ⟨n', -, hname'⟩ := htext g' hg'
      simpa [Grant.mark, hname, hname', Value.isCompound] using hmark
  refine ⟨(Access.pairwise_distinctNames hplaced).imp_of_mem ?_, hmem⟩
  rintro v w hv - hne rfl
  obtain ⟨name, -, rfl⟩ := (hmem v).1 hv
  simp [Value.same] at hne

lemma Lists.distinctRoles (h : Lists grants A) : ∃ B ⊆ A, (∀ r ∈ A, ∃ q ∈ B, q.id = r.id) ∧
    Lists (Access.distinctRoles grants) B := by
  have hplaced : ∀ g ∈ grants, g.Placed (·.id) := by
    intro g hg
    obtain ⟨n, -, his⟩ := h.1 g hg
    exact his.placed.1
  have hkept (g : Grant) (hg : g ∈ Access.distinctRoles grants) : ∃ n ∈ A, g.Is n :=
    h.1 g (Access.mem_of_distinctRoles hg)
  refine ⟨{n | n ∈ A ∧ ∃ g ∈ Access.distinctRoles grants, g.Is n}, fun n hn => hn.1,
    fun r hr => ?_, fun g hg => ?_, fun n hn => hn.2⟩
  · obtain ⟨g, hg, his⟩ := h.2 r hr
    obtain ⟨q, hq, hagree⟩ := Access.exists_distinctRoles hplaced hg
    obtain ⟨n, hn, hqn⟩ := hkept q hq
    refine ⟨n, ⟨hn, q, hq, hqn⟩, ?_⟩
    simpa [Grant.agree, hqn.1, his.1, Value.same, Value.isCompound] using hagree
  · obtain ⟨n, hn, his⟩ := hkept g hg
    exact ⟨n, ⟨hn, g, hg, his⟩, his⟩

lemma Lists.found_eq (h : Lists grants A) (look : String → GrantQuery) :
    found d (grants.map fun g => look g.id.asText) =
      {x | ∃ n ∈ A, x ∈ (look n.id).entries d} := by
  ext x
  simp only [found, List.mem_map, exists_exists_and_eq_and, Set.mem_ofPred_eq]
  constructor
  · rintro ⟨g, hg, hx⟩
    obtain ⟨n, hn, his⟩ := h.1 g hg
    rw [his.1] at hx
    exact ⟨n, hn, hx⟩
  · rintro ⟨n, hn, hx⟩
    obtain ⟨g, hg, his⟩ := h.2 n hn
    refine ⟨g, hg, ?_⟩
    rw [his.1]
    exact hx

lemma looks_level {n : ℕ} (h : Lists grants A) (look : String → GrantQuery)
    (hlevel : ∀ id, (look id).level = n) :
    Looks stores d n n (fun rowss => Lists (rowss.flatten.map GrantRow.grant)
      {x | ∃ n ∈ A, x ∈ (look n.id).entries d})
      (all ((grants.map fun g => look g.id.asText).map fun q => .ok q.ask)) := by
  rw [← h.found_eq]
  exact looks_all (by simp [hlevel])

/-- What a principal can reach, told in lists of one kind; of roles with one id the name of one is
told. -/
structure Tells (kind : List Value → Set String → Prop) (d : Directory) (principal : Option String)
    (a : Access) : Prop where
  groups : kind a.groups (namesOf (d.groups principal))
  roles : ∃ B ⊆ d.roles principal, (∀ r ∈ d.roles principal, ∃ q ∈ B, q.id = r.id) ∧
    kind a.roles (namesOf B)
  permissions : kind a.permissions (namesOf (d.permissions principal))

namespace Authorization

lemma mapM_read_lists {rows : List GrantRow} (h : Lists (rows.map GrantRow.grant) A)
    (field : String) : rows.mapM (·.read field) = .ok (rows.map GrantRow.grant) := by
  refine mapM_read (fun row hrow => ?_) field
  obtain ⟨n, -, his⟩ := h.1 _ (List.mem_map_of_mem hrow)
  exact his.present

lemma map_rolesOf_lists {rows : List GrantRow} (h : Lists (rows.map GrantRow.grant) A) :
    rows.map rolesOf = ((rows.map GrantRow.grant).map fun g => GrantQuery.rolesOf g.id.asText).map
      fun q => .ok q.ask := by
  rw [map_rolesOf fun row hrow => ?_, List.map_map, List.map_map]
  · refine List.map_congr_left fun row hrow => ?_
    obtain ⟨n, -, his⟩ := h.1 _ (List.mem_map_of_mem hrow)
    exact congrArg Except.ok (GrantQuery.ask_rolesOf his.1).symm
  · obtain ⟨n, -, his⟩ := h.1 _ (List.mem_map_of_mem hrow)
    exact his.present

lemma map_permissionsOf_lists (h : Lists grants A) :
    (grants.map fun r => (.ok (ask (.findPermissionsFor r.id.asMember)) :
      Except Failure (Program (List GrantRow)))) =
      (grants.map fun g => GrantQuery.permissionsOf g.id.asText).map fun q => .ok q.ask := by
  rw [List.map_map]
  refine List.map_congr_left fun g hg => ?_
  obtain ⟨n, -, his⟩ := h.1 g hg
  exact congrArg Except.ok (GrantQuery.ask_permissionsOf his.1).symm

lemma looks_groups (id : String) : Looks stores d 1 1
    (fun rows => Lists (rows.map GrantRow.grant) (d.groups (some id)))
    (ask (.findGroupsFor (.str id))) := by
  have hgroups : d.groups (some id) = d.groupsOf id := by
    ext g
    simp [Directory.groups]
  rw [hgroups]
  exact looks_ask (.groupsOf id)

lemma permissions_eq {principal : Option String} {B : Set Named} (hB : B ⊆ d.roles principal)
    (hids : ∀ r ∈ d.roles principal, ∃ q ∈ B, q.id = r.id) :
    {p | ∃ r ∈ B, p ∈ d.permissionsOf r.id} = d.permissions principal := by
  ext p
  constructor
  · rintro ⟨r, hr, hp⟩
    exact ⟨r, hB hr, hp⟩
  · rintro ⟨r, hr, hp⟩
    obtain ⟨q, hq, hid⟩ := hids r hr
    exact ⟨q, hq, by rwa [hid]⟩

lemma looks_resolve (principal : Option String) :
    Looks stores d 1 3 (Tells Spells d principal) (resolve (principal.map .str)) := by
  cases principal with
  | none =>
    refine Looks.done ⟨⟨List.nodup_nil, ?_⟩, ⟨∅, ?_, ?_, List.nodup_nil, ?_⟩, List.nodup_nil, ?_⟩
    all_goals simp [Access.empty, Directory.groups, Directory.roles, Directory.permissions, namesOf]
  | some id =>
    refine Looks.bind (k := 2) (looks_groups id) (fun rows hrows => ?_) (by decide) (by decide)
      (by decide)
    rw [map_rolesOf_lists hrows]
    refine Looks.bind (k := 3) (looks_level hrows .rolesOf fun _ => rfl)
      (fun granted (hgranted : Lists _ (d.roles (some id))) => ?_) (by decide) (by decide)
      (by decide)
    rw [mapM_read_lists hgranted, bind_eq, bind_ok]
    -- From here on only the distinct roles count; they have the ids of all roles.
    obtain ⟨B, hB, hids, hdistinct⟩ := hgranted.distinctRoles
    dsimp only
    rw [map_permissionsOf_lists hdistinct]
    refine Looks.bind (k := 3) (looks_level hdistinct .permissionsOf fun _ => rfl)
      (fun held (hheld : Lists _ {p | ∃ r ∈ B, p ∈ d.permissionsOf r.id}) => ?_) (by decide)
      (by decide) (by decide)
    rw [mapM_read_lists hheld, bind_eq, bind_ok]
    refine Looks.done ⟨hrows.spells, ⟨B, hB, hids, hdistinct.spells⟩, ?_⟩
    rw [← permissions_eq hB hids]
    exact hheld.spells

end Authorization

namespace Directory

def ofLists (groups roles permissions : List (String × List Named)) : Directory where
  groupsOf id := {n | n ∈ (groups.lookup id).getD []}
  rolesOf id := {n | n ∈ (roles.lookup id).getD []}
  permissionsOf id := {n | n ∈ (permissions.lookup id).getD []}

end Directory

namespace Memory

open Grants

variable {groups roles permissions : List (String × List Named)}

def Grants.row (n : Named) : Value := .obj [("id", .str n.id), ("name", .str n.name)]

def Grants.keep (l : List (String × List Named)) : Grants :=
  l.map fun p => (p.1, .arr (p.2.map row))

lemma Grants.lookup_keep (l : List (String × List Named)) (id : String) :
    (keep l).lookup id = (l.lookup id).map fun ns => .arr (ns.map row) := by
  induction l with
  | nil => rfl
  | cons p l ih =>
    rw [keep, List.map_cons, List.lookup_cons, List.lookup_cons]
    split
    · rfl
    · exact ih

lemma Grants.rows_keep (l : List (String × List Named)) (id : String) :
    (keep l).groupsOf (.str id) = .ok (rows id (((l.lookup id).getD []).map row)) ∧
      (keep l).of (.str id) = .ok (rows id (((l.lookup id).getD []).map row)) := by
  have hget : Record.get (keep l) id =
      ((l.lookup id).map fun ns => .arr (ns.map row)).getD .undefined := by
    rw [Record.get, lookup_keep]
  cases hl : l.lookup id with
  | none | some ns =>
    rw [hl] at hget
    constructor
    · simp only [Grants.groupsOf, Value.text, Value.text?, Bind.bind, Except.bind, hget]
      rfl
    · simp only [Grants.of, Value.text, Value.text?, Except.map, hget]
      rfl

lemma lists_rows (id : String) (ns : List Named) :
    Lists ((rows id (ns.map row)).map GrantRow.grant) {n | n ∈ ns} := by
  refine ⟨fun g hg => ?_, fun n hn => ?_⟩
  · obtain ⟨r, hr, rfl⟩ := List.mem_map.1 hg
    obtain ⟨i, -, hi⟩ := mem_rows hr
    obtain ⟨n, hn, hrow⟩ := List.mem_map.1 (List.mem_of_getElem? hi)
    refine ⟨n, hn, ?_, ?_⟩
    · exact congrArg (Value.field · "id") hrow.symm
    · exact congrArg (Value.field · "name") hrow.symm
  · obtain ⟨i, hi, rfl⟩ := List.mem_iff_getElem.1 hn
    refine ⟨GrantRow.grant ⟨row ns[i], some (id, i)⟩, List.mem_map_of_mem ?_, rfl, rfl⟩
    exact List.mem_mapIdx.2 ⟨i, by simpa using hi, by simp⟩

lemma fixed_after (cs : List Call) (s : Memory) : Fixed s (after Memory.stores cs s) := by
  induction cs generalizing s with
  | nil => exact Fixed.refl s
  | cons c cs ih => exact (fixed_stores c s).trans (ih _)

lemma serves_ofLists {s : Memory}
    (hs : s.grants = ⟨keep groups, keep roles, keep permissions⟩) :
    Serves Memory.stores (.ofLists groups roles permissions) s := by
  intro cs q found hfound
  have hgrants := (fixed_after cs s).grants.trans hs
  cases q with
  | groupsOf id =>
    have hrows := perform_of_ok (c := .findGroupsFor (.str id)) hfound
    rw [perform, hgrants, (rows_keep groups id).1] at hrows
    rw [← Except.ok.inj hrows]
    exact lists_rows id _
  | rolesOf id =>
    have hrows := perform_of_ok (c := .findRolesFor (.str id)) hfound
    rw [perform, hgrants, (rows_keep roles id).2] at hrows
    rw [← Except.ok.inj hrows]
    exact lists_rows id _
  | permissionsOf id =>
    have hrows := perform_of_ok (c := .findPermissionsFor (.str id)) hfound
    rw [perform, hgrants, (rows_keep permissions id).2] at hrows
    rw [← Except.ok.inj hrows]
    exact lists_rows id _

end Memory

end AuthGate
