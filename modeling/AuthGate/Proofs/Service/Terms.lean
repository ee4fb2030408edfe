import AuthGate.Proofs.Failure
import AuthGate.Proofs.Log
import AuthGate.Proofs.Service.Answer

namespace AuthGate

open Program

def Log.Line.IsAside (l : Log.Line) : Prop := ¬ l.IsOf "API_REQUEST"

/-- An answer that can be relied on: to fail is to fail plainly, and the id of a user that is found
by it is a text. -/
def Call.Answers : (c : Call) → Except Failure c.Answer → Prop
  | .findById _, r => Tame r ∧ ∀ u, r = .ok (some u) → ∃ id, u.id = .str id
  | _, r => Tame r

lemma Call.Answers.tame {c : Call} {r : Except Failure c.Answer} (h : c.Answers r) : Tame r := by
  cases c with
  | findById id => exact h.1
  | _ => exact h

namespace Program

variable {α β σ : Type} {m : Moment}

structure Stores.Orderly (stores : Stores σ) : Prop where
  answers : ∀ c s, Call.Answers c (stores c s).result
  lines : ∀ c s, ∀ l ∈ (stores c s).lines, l.IsAside

def Gives (P : α → Prop) (p : Program α) : Prop :=
  p.Abides Call.Answers (fun _ => True) fun r => Tame r ∧ ∀ a, r = .ok a → P a

def Yields (P : α → Prop) (p : Program α) : Prop :=
  p.Abides Call.Answers (fun _ => True) fun r => ∃ a, r = .ok a ∧ P a

abbrev Sound (p : Program α) : Prop := p.Gives fun _ => True

variable {P : α → Prop} {Q : β → Prop} {p : Program α}

lemma gives_done {x : Except Failure α} (hx : Tame x) (hP : ∀ a, x = .ok a → P a) :
    (done x).Gives P :=
  .done ⟨hx, hP⟩

lemma sound_done {x : Except Failure α} (hx : Tame x) : (done x).Sound :=
  gives_done hx fun _ _ => trivial

lemma gives_return {a : α} (ha : P a) : (done (.ok a)).Gives P :=
  gives_done (tame_ok a) (forall_success_ok ha)

lemma gives_raise {f : Failure} (hf : f.IsPlain) : (raise f : Program α).Gives P :=
  gives_done (tame_error hf) (forall_success_error f)

namespace Gives

lemma bind {f : α → Program β} (hp : p.Gives P) (hf : ∀ a, P a → (f a).Gives Q) :
    (p.bind f).Gives Q :=
  Abides.bind hp (fun a ha => hf a (ha.2 a rfl)) fun e he =>
    ⟨fun g hg => he.1 g (congrArg Except.error (Except.error.inj hg)), forall_success_error e⟩

lemma imp {P' : α → Prop} (hp : p.Gives P) (h : ∀ a, P a → P' a) : p.Gives P' :=
  Abides.imp hp fun _ hr => ⟨hr.1, fun a ha => h a (hr.2 a ha)⟩

lemma sound (hp : p.Gives P) : p.Sound := hp.imp fun _ _ => trivial

lemma attempt (hp : p.Gives P) :
    p.attempt.Yields fun r => Tame r ∧ ∀ a, r = .ok a → P a :=
  Abides.attempt hp

end Gives

lemma Sound.bind {f : α → Program β} (hp : p.Sound) (hf : ∀ a, (f a).Gives Q) :
    (p.bind f).Gives Q :=
  Gives.bind hp fun a _ => hf a

lemma Yields.bind {f : α → Program β} (hp : p.Yields P) (hf : ∀ a, P a → (f a).Yields Q) :
    (p.bind f).Yields Q := by
  refine Abides.bind hp (fun a ha => ?_) fun e he => ?_
  · obtain ⟨b, hb, hP⟩ := ha
    obtain rfl := Except.ok.inj hb
    exact hf a hP
  · obtain ⟨b, hb, -⟩ := he
    cases hb

lemma yields_return {a : α} (ha : P a) : (done (.ok a)).Yields P := .done ⟨a, rfl, ha⟩

lemma gives_ask (c : Call) : (ask c).Gives fun a => c.Answers (.ok a) := by
  refine Abides.imp (abides_ask c) fun r hr => ⟨hr.tame, ?_⟩
  rintro a rfl
  exact hr

lemma sound_ask (c : Call) : (ask c).Sound := (gives_ask c).sound

lemma sound_log (e : Log.Entry) : (log m e).Sound := by
  rw [log]
  cases hl : e.write m.wall with
  | ok l => exact .write trivial (gives_return trivial)
  | error f => exact gives_raise (Log.Entry.tame_write m.wall e f hl)

lemma sound_attemptAll {ps : List (Except Failure (Program α))} (hps : ∀ x ∈ ps, Tame x)
    (h : ∀ p, .ok p ∈ ps → p.Sound) : (attemptAll ps).Gives fun rs => ∀ r ∈ rs, Tame r := by
  induction ps with
  | nil => exact gives_return fun r hr => absurd hr List.not_mem_nil
  | cons x ps ih =>
    obtain ⟨hx, hps⟩ := List.forall_mem_cons.1 hps
    have ih := ih hps fun p hp => h p (List.mem_cons_of_mem _ hp)
    cases x with
    | error f => exact gives_raise (hx f rfl)
    | ok p =>
      refine Gives.bind (P := fun r => Tame r) ?_ fun r hr => ih.bind fun rs hrs =>
        gives_return (List.forall_mem_cons.2 ⟨hr, hrs⟩)
      refine Abides.imp (h p List.mem_cons_self).attempt fun r' hr' => ?_
      obtain ⟨r, rfl, hr, -⟩ := hr'
      exact ⟨tame_ok r, forall_success_ok hr⟩

lemma tame_firstFailure {rs : List (Except Failure α)} (h : ∀ r ∈ rs, Tame r) :
    Tame (firstFailure rs) := by
  induction rs with
  | nil => exact tame_ok []
  | cons r rs ih =>
    obtain ⟨hr, hrs⟩ := List.forall_mem_cons.1 h
    cases r with
    | ok a => exact (ih hrs).map _
    | error f => exact tame_error (hr f rfl)

lemma sound_all {ps : List (Except Failure (Program α))} (hps : ∀ x ∈ ps, Tame x)
    (h : ∀ p, .ok p ∈ ps → p.Sound) : (all ps).Sound :=
  (sound_attemptAll hps h).bind fun _ hrs => sound_done (tame_firstFailure hrs)

end Program

variable {m : Moment} {t : Token.Issuer} {requestId : Value} {n : Number}

namespace Session

lemma sound_refuse {α : Type} (userId code : Value) (reason : String) :
    (refuse m requestId userId code reason : Program α).Sound :=
  (sound_log _).bind fun _ => gives_raise trivial

lemma sound_login (hm : m.clock = .reads n) (email password : Value) :
    (login t m requestId email password).Sound := by
  refine (sound_ask _).bind fun found => ?_
  cases found with
  | none => exact (sound_done (tame_belongs _ _)).bind fun _ => sound_refuse _ _ _
  | some u =>
    refine (sound_done (tame_belongs _ _)).bind fun accepted => ?_
    split_ifs
    · exact sound_refuse _ _ _
    · exact sound_refuse _ _ _
    · exact (sound_ask _).bind fun tokenId => (sound_log _).bind fun _ =>
        sound_done (t.tame_createPair hm _ _)

lemma sound_reuse {α : Type} (tokenId : ℕ) (userId : Value) :
    (reuse m requestId tokenId userId : Program α).Sound :=
  (sound_ask _).bind fun _ => (sound_log _).bind fun _ => gives_raise trivial

lemma sound_refreshFor (hm : m.clock = .reads n) (claims : Token.RefreshClaims)
    (found : Option User) : (refreshFor t m requestId claims found).Sound := by
  cases found with
  | none => exact (sound_log _).bind fun _ => gives_raise trivial
  | some u =>
    rw [refreshFor]
    split_ifs
    · exact (sound_log _).bind fun _ => gives_raise trivial
    · refine (sound_ask _).bind fun rotated => ?_
      cases rotated with
      | none => exact sound_reuse _ _
      | some tokenId =>
        exact (sound_log _).bind fun _ => sound_done (t.tame_createPair hm _ _)

lemma sound_refresh (hm : m.clock = .reads n) (token : String) :
    (refresh t m requestId token).Sound :=
  (sound_done (t.codec.tame_decodeRefresh m token)).bind fun claims =>
    (sound_ask _).bind fun found => sound_refreshFor hm claims found

lemma sound_logout (token : String) : (logout t m token).Sound :=
  (sound_done (t.codec.tame_decodeRefresh m token)).bind fun _ => sound_ask (.revoke _ _)

end Session

namespace Authentication

variable {schemePrefix headers : Value}

def Named (a : Authentication) : Prop :=
  (∀ credentials p, a = .authenticated credentials p → ∃ id, p.id = .str id) ∧
    ∀ f, a = .rejected f → f.IsPlain

lemma named_anonymous : Named .anonymous := by
  constructor
  · rintro _ _ ⟨⟩
  · rintro _ ⟨⟩

lemma gives_reject (fault : AuthFault) (reason : String) (cause : Failure) :
    (reject m requestId fault reason cause).Gives Named := by
  refine (sound_log _).bind fun _ => gives_return ⟨?_, ?_⟩
  · rintro _ _ ⟨⟩
  · rintro _ ⟨⟩
    trivial

lemma gives_checkUser (credentials : Credentials) {found : Option User}
    (h : ∀ u, found = some u → ∃ id, u.id = .str id) :
    (checkUser m requestId credentials found).Gives Named := by
  cases found with
  | none => exact gives_reject _ _ _
  | some u =>
    rw [checkUser]
    split_ifs
    · refine (sound_log _).bind fun _ => gives_return ⟨?_, ?_⟩
      · rintro _ _ ⟨⟩
        exact h u rfl
      · rintro _ ⟨⟩
    · exact (sound_done u.id.tame_text).bind fun id => gives_reject _ _ _

def Finds : AuthFault → Prop
  | .token fault => fault ∈ TokenFault.listed
  | _ => True

/-- Every way in which authentication ends: it fails, finds nobody who asks, or is left to a rejection
or to the user of a token. -/
structure Covers (A : (c : Call) → Except Failure c.Answer → Prop) (L : Log.Line → Prop)
    (P : Except Failure Authentication → Prop) (m : Moment) (requestId : Value) : Prop where
  failed : ∀ f, f.IsPlain → P (.error f)
  unanswered : ∀ id f, A (.findById id) (.error f) → P (.error f)
  anonymous : P (.ok .anonymous)
  rejected : ∀ fault reason cause, Finds fault →
    (reject m requestId fault reason cause).Abides A L P
  found : ∀ credentials id user, A (.findById id) (.ok user) →
    (checkUser m requestId credentials user).Abides A L P

namespace Covers

variable {A : (c : Call) → Except Failure c.Answer → Prop} {L : Log.Line → Prop}
  {P : Except Failure Authentication → Prop} (h : Covers A L P m requestId)

include h

lemma checkToken (scheme token : String) :
    (checkToken t m requestId scheme token).Abides A L P := by
  rw [Authentication.checkToken]
  cases hd : t.codec.decodeAccess m token with
  | ok claims =>
    refine .call fun r hr => ?_
    cases r with
    | ok user => exact h.found _ _ user hr
    | error f => exact .done (h.unanswered _ f hr)
  | error f =>
    have hf := t.codec.tame_decodeAccess m token f hd
    cases f with
    | token fault message cause => exact h.rejected _ _ _ (Token.Codec.listed_decodeAccess hd)
    | _ => exact .done (h.failed _ hf)

lemma check : (check t schemePrefix m requestId headers).Abides A L P := by
  rw [Authentication.check]
  cases hw : words headers with
  | error f => exact .done (h.failed f (tame_words headers f hw))
  | ok found =>
    match found with
    | [] => exact .done h.anonymous
    | scheme :: rest =>
      simp only [bind_eq, bind_ok]
      cases hp : schemePrefix.textFor "toLowerCase" "this.options.schemePrefix" with
      | error f => exact .done (h.failed f (schemePrefix.tame_textFor _ _ f hp))
      | ok asked =>
        rw [bind_ok]
        split_ifs
        · exact .done h.anonymous
        match rest with
        | [] => exact h.rejected _ _ _ trivial
        | [token] => exact h.checkToken scheme token
        | _ :: _ :: _ => exact h.rejected _ _ _ (by simp [Finds, TokenFault.listed])

end Covers

lemma gives_check : (check t schemePrefix m requestId headers).Gives Named := by
  have hcovers : Covers Call.Answers (fun _ => True)
      (fun r => Tame r ∧ ∀ a, r = .ok a → Named a) m requestId :=
    { failed := fun f hf => ⟨tame_error hf, forall_success_error f⟩
      unanswered := fun _ f hr => ⟨tame_error (hr.1 f rfl), forall_success_error f⟩
      anonymous := ⟨tame_ok _, forall_success_ok named_anonymous⟩
      rejected := fun fault reason cause _ => gives_reject fault reason cause
      found := fun credentials _ _ hr => gives_checkUser credentials fun u hu => hr.2 u (by rw [hu]) }
  exact hcovers.check

end Authentication

namespace Authorization

variable {id : Option Value}

lemma sound_resolve : (resolve id).Sound := by
  cases id with
  | none => exact gives_return trivial
  | some id =>
    refine (sound_ask _).bind fun groups => ?_
    refine Sound.bind (sound_all ?_ ?_) fun granted => ?_
    · rintro _ hx
      obtain ⟨group, -, rfl⟩ := List.mem_map.1 hx
      exact (group.tame_read "id").map _
    · rintro p hp
      obtain ⟨group, -, hp⟩ := List.mem_map.1 hp
      obtain ⟨g, -, rfl⟩ := Except.map_eq_ok.1 hp
      exact sound_ask _
    refine (sound_done (tame_mapM (GrantRow.tame_read "id") _)).bind fun roles => ?_
    refine Sound.bind (sound_all ?_ ?_) fun held => ?_
    · rintro _ hx
      obtain ⟨r, -, rfl⟩ := List.mem_map.1 hx
      exact tame_ok _
    · rintro p hp
      obtain ⟨r, -, hp⟩ := List.mem_map.1 hp
      obtain rfl := Except.ok.inj hp
      exact sound_ask _
    exact (sound_done (tame_mapM (GrantRow.tame_read "name") _)).bind fun _ => gives_return trivial

lemma sound_describe : (describe id).Sound :=
  sound_resolve.bind fun a => sound_done a.tame_sorted

lemma sound_permissionsOf : (permissionsOf id).Sound :=
  sound_resolve.bind fun _ => gives_return trivial

lemma sound_hasPermission (permission : Value) : (hasPermission id permission).Sound :=
  sound_permissionsOf.bind fun _ => gives_return trivial

lemma sound_requirePermission (permission : Value) :
    (requirePermission m requestId id permission).Sound := by
  refine (sound_hasPermission permission).bind fun granted =>
    (sound_log _).bind fun _ => ?_
  split_ifs
  · exact gives_return trivial
  · exact gives_raise (Failure.plain_denied permission)

end Authorization

end AuthGate
