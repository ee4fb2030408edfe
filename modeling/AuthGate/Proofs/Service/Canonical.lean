import AuthGate.Proofs.Service.Audit
import AuthGate.Proofs.Text.Units

namespace AuthGate

open Program

def Sorts (vs : List Value) (names : Set String) : Prop :=
  ∃ ts : List String, vs = ts.map .str ∧ Text.Ascending ts ∧ ∀ t, t ∈ ts ↔ t ∈ names

variable {vs ws : List Value} {names : Set String}

lemma Sorts.unique (h : Sorts vs names) (h' : Sorts ws names) : vs = ws := by
  obtain ⟨ts, rfl, hasc, hmem⟩ := h
  obtain ⟨ts', rfl, hasc', hmem'⟩ := h'
  rw [hasc.ext hasc' fun t => (hmem t).trans (hmem' t).symm]

lemma Sorts.mem_iff (h : Sorts vs names) {v : Value} :
    v ∈ vs ↔ ∃ name ∈ names, v = .str name := by
  obtain ⟨ts, rfl, -, hmem⟩ := h
  simp only [List.mem_map, hmem, eq_comm]

namespace Access

lemma mapM_keyed (ns : List String) :
    (ns.map Value.str).mapM keyed = .ok (ns.map fun n => (n, .str n)) := by
  induction ns with
  | nil => rfl
  | cons n ns ih =>
    rw [List.map_cons, List.mapM_cons, ih]
    rfl

lemma sortNames_texts (ns : List String) : ∃ ts : List String,
    sortNames (ns.map .str) = .ok (ts.map .str) ∧ ts.Perm ns ∧
      ts.Pairwise fun s t => Text.unitsLE s t = true := by
  have hnamed : (ns.map Value.str).filter (fun v => !v.isUndefined) = ns.map .str := by
    simp [List.filter_map, Function.comp_def, Value.isUndefined]
  have hrest : (ns.map Value.str).filter Value.isUndefined = [] := by
    simp [List.filter_map, Function.comp_def, Value.isUndefined]
  rw [sortNames, hnamed, hrest]
  split_ifs with hlength
  · refine ⟨ns, by rw [List.append_nil], .refl ns, ?_⟩
    obtain _ | ⟨n, _ | ⟨m, ns⟩⟩ := ns
    · exact .nil
    · exact List.pairwise_singleton _ _
    · simp at hlength
  · refine ⟨ns.mergeSort Text.unitsLE, ?_, List.mergeSort_perm _ _,
      List.pairwise_mergeSort Text.unitsLE_trans Text.unitsLE_total ns⟩
    have hpairs : (ns.map fun n => (n, Value.str n)).mergeSort
        (fun a b => Text.unitsLE a.1 b.1) =
        (ns.mergeSort Text.unitsLE).map fun n => (n, Value.str n) :=
      (List.map_mergeSort (r := Text.unitsLE) (f := fun n => (n, Value.str n))
        fun _ _ _ _ => rfl).symm
    rw [mapM_keyed, Except.map, hpairs, List.map_map, List.append_nil]
    rfl

lemma sortNames_spells (h : Spells vs names) :
    ∃ ws, sortNames vs = .ok ws ∧ Sorts ws names := by
  obtain ⟨hnodup, hmem⟩ := h
  have hvs : vs = (vs.map Value.asText).map .str := by
    rw [List.map_map]
    refine (List.map_id vs).symm.trans (List.map_congr_left fun v hv => ?_)
    obtain ⟨name, -, rfl⟩ := (hmem v).1 hv
    rfl
  obtain ⟨ts, hsorted, hperm, hle⟩ := sortNames_texts (vs.map Value.asText)
  rw [← hvs] at hsorted
  rw [hvs] at hnodup hmem
  refine ⟨_, hsorted, ts, rfl, ?_, fun t => ?_⟩
  · exact Text.ascending_of_nodup hle (hperm.nodup_iff.2 hnodup.of_map)
  · rw [hperm.mem_iff, ← List.mem_map_of_injective (fun a b => Value.str.inj), hmem]
    simp

end Access

def Directory.Coherent (d : Directory) (principal : Option String) : Prop :=
  ∀ r ∈ d.roles principal, ∀ q ∈ d.roles principal, q.id = r.id → q.name = r.name

variable {σ : Type} {stores : Stores σ} {d : Directory} {s : σ} {principal : Option String}
  {a b : Access}

lemma Tells.sorted (h : Tells Spells d principal a) :
    ∃ b, a.sorted = .ok b ∧ Tells Sorts d principal b := by
  obtain ⟨hgroups, ⟨B, hB, hids, hroles⟩, hpermissions⟩ := h
  obtain ⟨groups, hg, hgroups⟩ := Access.sortNames_spells hgroups
  obtain ⟨roles, hr, hroles⟩ := Access.sortNames_spells hroles
  obtain ⟨permissions, hp, hpermissions⟩ := Access.sortNames_spells hpermissions
  refine ⟨⟨groups, roles, permissions⟩, ?_, hgroups, ⟨B, hB, hids, hroles⟩, hpermissions⟩
  rw [Access.sorted, hg, hr, hp]
  rfl

lemma Tells.roles_of_coherent (h : Tells Sorts d principal a) (hd : d.Coherent principal) :
    Sorts a.roles (namesOf (d.roles principal)) := by
  obtain ⟨B, hB, hids, hroles⟩ := h.roles
  have hnames : namesOf B = namesOf (d.roles principal) := by
    ext name
    constructor
    · rintro ⟨r, hr, rfl⟩
      exact ⟨r, hB hr, rfl⟩
    · rintro ⟨r, hr, rfl⟩
      obtain ⟨q, hq, hid⟩ := hids r hr
      exact ⟨q, hq, hd r hr q (hB hq) hid⟩
  rwa [← hnames]

lemma Tells.unique (h : Tells Sorts d principal a) (h' : Tells Sorts d principal b)
    (hd : d.Coherent principal) : a = b := by
  have hgroups := h.groups.unique h'.groups
  have hroles := (h.roles_of_coherent hd).unique (h'.roles_of_coherent hd)
  have hpermissions := h.permissions.unique h'.permissions
  cases a
  cases b
  simp only at hgroups hroles hpermissions
  rw [hgroups, hroles, hpermissions]

namespace Authorization

lemma looks_describe (principal : Option String) :
    Looks stores d 1 3 (Tells Sorts d principal) (describe (principal.map .str)) := by
  refine Looks.bind (k := 3) (looks_resolve principal) (fun a ha => ?_) (by decide) le_rfl le_rfl
  obtain ⟨b, hb, htells⟩ := ha.sorted
  rw [hb]
  exact .done htells

lemma transcript_describe (principalId : Option Value) :
    (describe principalId).transcript stores s = (resolve principalId).transcript stores s :=
  transcript_bind_quiet (fun _ => .done trivial) _ _

lemma transcript_permissionsOf (principalId : Option Value) :
    (permissionsOf principalId).transcript stores s = (resolve principalId).transcript stores s :=
  transcript_bind_quiet (fun _ => .done trivial) _ _

/-- Descriptions are canonical. If no lookup fails they list the names of groups, of roles and of
the permissions that are held, each list ascending; and where roles with one id have one name they
list the names of all roles, and are the same over any stores that serve the same directory, in
whatever order these list its entries and however often. -/
theorem describe_canonical (hd : Serves stores d s) (principal : Option String)
    (hok : ∀ e ∈ (describe (principal.map .str)).transcript stores s, e.failure? = none) :
    ∃ access held, ((describe (principal.map .str)).run stores s).result = .ok access ∧
      ((permissionsOf (principal.map .str)).run stores s).result = .ok held ∧
      Sorts access.groups (namesOf (d.groups principal)) ∧
      (∃ B ⊆ d.roles principal, Sorts access.roles (namesOf B)) ∧
      Sorts access.permissions (namesOf (d.permissions principal)) ∧
      (∀ v, v ∈ access.permissions ↔ v ∈ held) ∧
      (d.Coherent principal → Sorts access.roles (namesOf (d.roles principal)) ∧
        ∀ {τ : Type} (stores' : Stores τ) (s' : τ), Serves stores' d s' →
          (∀ e ∈ (describe (principal.map .str)).transcript stores' s', e.failure? = none) →
          ((describe (principal.map .str)).run stores' s').result = .ok access) := by
  obtain ⟨access, haccess, htells⟩ := (looks_describe principal s hd).exists_ok hok
  rw [transcript_describe, ← transcript_permissionsOf] at hok
  obtain ⟨held, hheld, hspells⟩ := (looks_permissionsOf principal s hd).exists_ok hok
  obtain ⟨B, hB, -, hroles⟩ := htells.roles
  refine ⟨access, held, haccess, hheld, htells.groups, ⟨B, hB, hroles⟩, htells.permissions,
    fun v => htells.permissions.mem_iff.trans (hspells.2 v).symm,
    fun hcoherent => ⟨htells.roles_of_coherent hcoherent, ?_⟩⟩
  intro τ stores' s' hd' hok'
  obtain ⟨access', haccess', htells'⟩ := (looks_describe principal s' hd').exists_ok hok'
  rw [haccess', htells.unique htells' hcoherent]

/-- One user's groups and the roles of the first; either of the roles has the other's place by code
points. -/
def listedStores : Memory :=
  { readerStores [] with grants :=
    ⟨.keep [("user-1", [⟨"g", "staff"⟩, ⟨"h", "guests"⟩])],
      .keep [("g", [⟨"r", "～"⟩, ⟨"w", "😀"⟩])],
      .keep [("r", [⟨"p", "user:read"⟩]), ("w", [⟨"q", "wish:write"⟩, ⟨"p", "user:read"⟩])]⟩ }

def shuffledStores : Memory :=
  { readerStores [] with grants :=
    ⟨.keep [("user-1", [⟨"h", "guests"⟩, ⟨"g", "staff"⟩, ⟨"h", "guests"⟩])],
      .keep [("g", [⟨"w", "😀"⟩, ⟨"r", "～"⟩, ⟨"w", "😀"⟩])],
      .keep [("r", [⟨"p", "user:read"⟩]), ("w", [⟨"p", "user:read"⟩, ⟨"q", "wish:write"⟩])]⟩ }

def listed : Directory :=
  .ofLists [("user-1", [⟨"g", "staff"⟩, ⟨"h", "guests"⟩])]
    [("g", [⟨"r", "～"⟩, ⟨"w", "😀"⟩])]
    [("r", [⟨"p", "user:read"⟩]), ("w", [⟨"q", "wish:write"⟩, ⟨"p", "user:read"⟩])]

lemma roles_listed : listed.roles (some "user-1") = {⟨"r", "～"⟩, ⟨"w", "😀"⟩} := by
  ext r
  simp [Directory.roles, Directory.groups, listed, Directory.ofLists, List.lookup_cons]

lemma coherent_listed : listed.Coherent (some "user-1") := by
  rw [Directory.Coherent, roles_listed]
  simp

lemma serves_shuffled : Serves Memory.stores listed shuffledStores := by
  have hserves := Memory.serves_ofLists (s := shuffledStores) rfl
  convert hserves using 1
  simp only [listed, Directory.ofLists, Directory.mk.injEq]
  refine ⟨funext fun id => ?_, funext fun id => ?_, funext fun id => ?_⟩
  all_goals
    ext n
    simp only [List.lookup_cons, List.lookup_nil, Set.mem_ofPred_eq]
    grind

theorem describe_canonical_shuffled : ∃ access,
    ((describe (some (.str "user-1"))).run Memory.stores listedStores).result = .ok access ∧
    ((describe (some (.str "user-1"))).run Memory.stores shuffledStores).result = .ok access ∧
    access.roles = [.str "😀", .str "～"] := by
  have hserves : Serves Memory.stores listed listedStores := Memory.serves_ofLists rfl
  obtain ⟨access, -, haccess, -, -, -, -, -, hcanonical⟩ :=
    describe_canonical hserves (some "user-1") (List.findSome?_eq_none_iff.1 rfl)
  obtain ⟨hroles, hsame⟩ := hcanonical coherent_listed
  refine ⟨access, haccess, hsame Memory.stores shuffledStores serves_shuffled
    (List.findSome?_eq_none_iff.1 rfl), hroles.unique ⟨["😀", "～"], rfl, ?_, fun t => ?_⟩⟩
  · simp only [Text.Ascending, List.pairwise_cons]
    decide
  · rw [roles_listed]
    simp [namesOf, or_comm, eq_comm]

end Authorization

end AuthGate
