import AuthGate.Proofs.Except
import AuthGate.Request.Body
import AuthGate.Request.Content
import AuthGate.Request.Header
import AuthGate.Service.Authorization
import AuthGate.Service.Session
import Mathlib.Tactic.Common

namespace AuthGate

/-- An error, or a bare value that has a text whatever it is. -/
def Failure.IsPlain : Failure → Prop
  | bare v => v.isCompound = false
  | _ => True

def Tame {α : Type} (x : Except Failure α) : Prop := ∀ f, x = .error f → f.IsPlain

variable {α β : Type} {x : Except Failure α}

lemma tame_ok (a : α) : Tame (.ok a) := by
  intro f h
  cases h

lemma tame_error {f : Failure} (hf : f.IsPlain) : Tame (.error f : Except Failure α) := by
  intro g h
  cases h
  exact hf

lemma Tame.bind {f : α → Except Failure β} (hx : Tame x) (hf : ∀ a, Tame (f a)) :
    Tame (x >>= f) := by
  intro g h
  cases x with
  | ok a => exact hf a g h
  | error e => exact hx g (congrArg Except.error (Except.error.inj h))

lemma Tame.map (hx : Tame x) (f : α → β) : Tame (x.map f) := by
  intro g h
  cases x with
  | ok a => cases h
  | error e => exact hx g (congrArg Except.error (Except.error.inj h))

lemma tame_mapM {f : α → Except Failure β} (hf : ∀ a, Tame (f a)) (l : List α) :
    Tame (l.mapM f) := by
  induction l with
  | nil => exact tame_ok []
  | cons a l ih =>
    rw [List.mapM_cons]
    exact (hf a).bind fun b => ih.bind fun bs => tame_ok (b :: bs)

lemma Failure.asError_of_plain {f : Failure} (hf : f.IsPlain) :
    ∃ g, f.asError = .ok g ∧ g.message = f.message ∧ ∀ v, g ≠ .bare v := by
  cases f with
  | bare v =>
    have htext : ∃ t, v.text? = some t := by
      cases v with
      | arr | obj => cases hf
      | _ => simp [Value.text?]
    obtain ⟨t, ht⟩ := htext
    refine ⟨.error t, ?_, ?_, by simp [Failure.error]⟩
    · simp [asError, Value.text, ht, Except.map]
    · simp [message, Failure.error, ht]
  | _ => exact ⟨_, rfl, rfl, by simp⟩

namespace Value

lemma tame_text (v : Value) : Tame v.text := by
  rw [text]
  split
  · exact tame_ok _
  · exact tame_error trivial

lemma tame_number (v : Value) : Tame v.number := by
  rw [number]
  split
  · exact tame_ok _
  · exact tame_error trivial

lemma tame_read (v : Value) (key : String) : Tame (v.read key) := by
  cases v with
  | undefined | null => exact tame_error trivial
  | _ => exact tame_ok _

lemma tame_textFor (operation called : String) (v : Value) : Tame (v.textFor operation called) := by
  cases v with
  | str s => exact tame_ok s
  | _ => exact tame_error trivial

lemma tame_objectKind (r : Record) : Tame (objectKind r) := by
  rw [objectKind]
  split_ifs
  · exact tame_ok _
  · exact tame_ok _
  · cases r.get "constructor" with
    | obj m =>
      dsimp only
      split_ifs
      · exact (tame_text _).bind fun _ => tame_ok _
      · exact tame_ok _
    | arr | date => exact tame_ok _
    | _ => exact (tame_text _).bind fun _ => tame_error trivial

lemma tame_kind (v : Value) : Tame v.kind := by
  cases v with
  | obj r => exact tame_objectKind r
  | _ => exact tame_ok _

end Value

lemma Failure.plain_notOfKind (argument expected : String) (v : Value) :
    (notOfKind argument expected v).IsPlain := by
  rw [notOfKind]
  split
  · trivial
  · rename_i f hf
    exact v.tame_kind f hf

namespace Value

lemma noText_of_text {v : Value} {f : Failure} (h : v.text = .error f) : f = .noText := by
  rw [text] at h
  split at h
  · cases h
  · exact (Except.error.inj h).symm

lemma other_of_objectKind {r : Record} {f : Failure} (h : objectKind r = .error f) :
    ∃ name message, f = .other name message := by
  rw [objectKind] at h
  split_ifs at h
  · cases h
  · cases h
  · generalize r.get "constructor" = maker at h
    cases maker with
    | obj m =>
      dsimp only at h
      split_ifs at h
      · obtain h | ⟨_, -, h⟩ := Except.bind_eq_error.1 h
        · exact ⟨_, _, noText_of_text h⟩
        · cases h
      · cases h
    | arr | date => cases h
    | _ =>
      obtain h | ⟨_, -, h⟩ := Except.bind_eq_error.1 h
      · exact ⟨_, _, noText_of_text h⟩
      · exact ⟨_, _, (Except.error.inj h).symm⟩

end Value

def Failure.Listed : Failure → Prop
  | token fault _ _ => fault ∈ TokenFault.listed
  | _ => True

lemma Failure.listed_notOfKind (argument expected : String) (v : Value) :
    (notOfKind argument expected v).Listed := by
  rw [notOfKind]
  split
  · trivial
  · rename_i f hf
    cases v with
    | obj r =>
      obtain ⟨name, message, rfl⟩ := Value.other_of_objectKind hf
      trivial
    | _ => cases hf

namespace Request

lemma tame_bytesOf (items : List Value) : Tame (bytesOf items) := by
  refine (tame_mapM (fun v => ?_) items).map some
  refine v.tame_number.bind fun n => ?_
  split
  · exact tame_ok _
  · exact tame_ok _

lemma tame_itemBytes (r : Record) (length : Number) : Tame (itemBytes r length) := by
  rw [itemBytes]
  split_ifs
  · exact tame_error trivial
  · exact (tame_bytesOf _).map _

lemma tame_objectBytes (r : Record) : Tame (objectBytes r) := by
  rw [objectBytes]
  split_ifs
  · exact tame_error trivial
  · exact tame_ok _
  split
  · split
    · exact tame_bytesOf _
    · exact tame_error (Failure.plain_notOfKind _ _ _)
  · exact tame_itemBytes r _
  · exact tame_ok _

lemma tame_bodyText (r : Request) : Tame r.bodyText := by
  rw [bodyText]
  split_ifs
  · refine Tame.map ?_ _
    cases r.body with
    | arr l => exact tame_bytesOf l
    | obj fields => exact tame_objectBytes fields
    | str | date => exact tame_ok _
    | _ => exact tame_error (Failure.plain_notOfKind _ _ _)
  · exact tame_ok _

lemma tame_content (r : Request) : Tame r.content := by
  rw [content]
  split_ifs
  · exact tame_error trivial
  · refine r.tame_bodyText.bind fun text => ?_
    split
    · exact tame_ok _
    · exact tame_error trivial

end Request

lemma Form.tame_check (form : List Form.Field) (body : Value) : Tame (Form.check form body) := by
  rw [Form.check]
  split
  · exact tame_error trivial
  · split_ifs
    · exact tame_ok _
    · exact tame_error trivial

lemma Login.tame_ofBody (body : Value) : Tame (Login.ofBody body) :=
  (Form.tame_check loginForm body).map _

lemma tame_presentedToken (body : Value) : Tame (presentedToken body) :=
  (Form.tame_check refreshForm body).map _

lemma Header.tame_find (headers name : Value) : Tame (find headers name) := by
  rw [find]
  split_ifs
  · refine (name.tame_textFor _ _).bind fun n => ?_
    unfold joined
    split
    · exact (Value.tame_text _).map _
    · exact tame_ok _
  · exact tame_ok _

namespace Token

variable {m : Moment} {n : Number}

lemma Codec.plain_refusal {c : Codec} {token : String} {cause : Failure} :
    (c.refusal token cause).IsPlain := by
  rw [refusal]
  split
  · rename_i f hf
    rw [isAuthentic] at hf
    split at hf
    · split_ifs at hf
      cases hf
      exact Failure.plain_notOfKind _ _ _
    · cases hf
  · trivial
  · trivial

lemma Codec.tame_verify (c : Codec) (clock : Clock) (wall : Number) (token : String) :
    Tame (c.verify clock wall token) := by
  rw [verify]
  split
  · exact tame_error plain_refusal
  · split
    · exact tame_error trivial
    · exact tame_error plain_refusal
    · exact tame_error trivial
    · exact tame_ok _

lemma Codec.tame_payloadFor (c : Codec) (m : Moment) (token : String) (audience : Value) :
    Tame (c.payloadFor m token audience) := by
  refine (c.tame_verify m.clock m.wall token).bind fun p => ?_
  split_ifs
  · exact tame_ok _
  · exact audience.tame_text.bind fun _ => tame_error trivial

lemma AccessClaims.tame_ofPayload (payload : Value) : Tame (ofPayload payload) := by
  rw [ofPayload]
  split
  · split_ifs
    · exact tame_error trivial
    · exact tame_ok _
  · exact tame_error trivial

lemma RefreshClaims.tame_ofPayload (payload : Value) : Tame (ofPayload payload) := by
  rw [ofPayload]
  split
  · split
    · exact tame_ok _
    · exact tame_error trivial
  · exact tame_error trivial
  · rename_i hf
    exact tame_error (AccessClaims.tame_ofPayload payload _ hf)

lemma Codec.tame_decodeAccess (c : Codec) (m : Moment) (token : String) :
    Tame (c.decodeAccess m token) :=
  (c.tame_payloadFor m token _).bind AccessClaims.tame_ofPayload

lemma Codec.tame_decodeRefresh (c : Codec) (m : Moment) (token : String) :
    Tame (c.decodeRefresh m token) :=
  (c.tame_payloadFor m token _).bind RefreshClaims.tame_ofPayload

lemma Codec.listed_refusal (c : Codec) (token : String) (cause : Failure) :
    (c.refusal token cause).Listed := by
  rw [refusal]
  split
  · rename_i f hf
    rw [isAuthentic] at hf
    split at hf
    · split_ifs at hf
      cases hf
      exact Failure.listed_notOfKind _ _ _
    · cases hf
  · simp [Failure.Listed, TokenFault.listed]
  · simp [Failure.Listed, TokenFault.listed]

lemma Codec.listed_verify {c : Codec} {clock : Clock} {wall : Number} {token : String} {f : Failure}
    (h : c.verify clock wall token = .error f) : f.Listed := by
  rw [verify] at h
  split at h
  · exact Except.error.inj h ▸ c.listed_refusal token _
  · split at h
    · exact Except.error.inj h ▸ by simp [Failure.Listed, TokenFault.listed]
    · exact Except.error.inj h ▸ c.listed_refusal token _
    · exact Except.error.inj h ▸ by simp [Failure.Listed, TokenFault.listed]
    · cases h

lemma Codec.listed_payloadFor {c : Codec} {m : Moment} {token audience : String} {f : Failure}
    (h : c.payloadFor m token (.str audience) = .error f) : f.Listed := by
  obtain h | ⟨p, -, h⟩ := Except.bind_eq_error.1 h
  · exact listed_verify h
  · split_ifs at h
    · cases h
    · exact Except.error.inj h ▸ by simp [Failure.Listed, TokenFault.listed]

lemma AccessClaims.listed_ofPayload {payload : Value} {f : Failure}
    (h : ofPayload payload = .error f) : f.Listed := by
  rw [ofPayload] at h
  split at h
  · split_ifs at h
    exact Except.error.inj h ▸ by simp [malformed, Failure.Listed, TokenFault.listed]
  · exact Except.error.inj h ▸ by simp [malformed, Failure.Listed, TokenFault.listed]

lemma Codec.listed_decodeAccess {c : Codec} {m : Moment} {token : String} {f : Failure}
    (h : c.decodeAccess m token = .error f) : f.Listed := by
  obtain h | ⟨v, -, h⟩ := Except.bind_eq_error.1 h
  · exact listed_payloadFor h
  · exact AccessClaims.listed_ofPayload h

lemma Codec.tame_checkClaim (name : String) (v : Value) : Tame (checkClaim name v) := by
  unfold checkClaim
  split_ifs
  · split
    · exact tame_ok ()
    · exact tame_error trivial
  · exact tame_error trivial
  · exact tame_ok ()

lemma Codec.tame_checkClaims (r : Record) : Tame (checkClaims r) := by
  induction r with
  | nil => exact tame_ok ()
  | cons p r ih =>
    obtain ⟨k, v⟩ := p
    rw [checkClaims]
    split
    · exact ih
    · rename_i hf
      exact tame_error (tame_checkClaim k v _ hf)

lemma Codec.tame_encode (c : Codec) (wall : Number) (data : Record) (audience iat exp : Value) :
    Tame (c.encode wall data audience iat exp) := by
  rw [encode]
  split_ifs
  · exact tame_error trivial
  · exact tame_error trivial
  · exact tame_error trivial
  all_goals
    split
    · rename_i f hf
      exact tame_error (tame_checkClaims _ f hf)
    · exact tame_ok _

lemma Issuer.badLifetime_cases (lifetime : Value) :
    badLifetime lifetime = .error .noText ∨ ∃ f, badLifetime lifetime = .ok f ∧ f.IsPlain := by
  rw [badLifetime, Value.text]
  split
  · exact .inr ⟨_, rfl, trivial⟩
  · exact .inl rfl

lemma Issuer.tame_create (t : Issuer) (hm : m.clock = .reads n) (data : Record)
    (audience lifetime : Value) : Tame (t.create m data audience lifetime) := by
  rw [create]
  cases lifetime? (if lifetime.isUndefined then t.accessLifetime else lifetime) with
  | some seconds =>
    dsimp only
    rw [hm]
    exact (tame_ok _).bind fun _ => t.codec.tame_encode _ _ _ _ _
  | none =>
    dsimp only
    obtain h | ⟨f, h, hf⟩ := badLifetime_cases
      (if lifetime.isUndefined then t.accessLifetime else lifetime)
    · rw [h]
      exact tame_error trivial
    · rw [h]
      exact tame_error hf

lemma Issuer.tame_createPair (t : Issuer) (hm : m.clock = .reads n) (principalId tokenId : Value) :
    Tame (t.createPair m principalId tokenId) :=
  (t.tame_create hm _ _ _).bind fun _ => (t.tame_create hm _ _ _).bind fun _ => tame_ok _

end Token

lemma Session.tame_belongs (password stored : Value) : Tame (belongs password stored) := by
  unfold belongs
  split_ifs
  · exact tame_error trivial
  · split
    · exact tame_ok _
    · exact tame_error trivial

lemma Authentication.tame_words (headers : Value) : Tame (words headers) := by
  refine (Header.tame_find headers _).bind fun header => ?_
  split_ifs
  · exact tame_ok _
  · exact (header.tame_textFor _ _).bind fun _ => tame_ok _

lemma GrantRow.tame_read (field : String) (row : GrantRow) : Tame (row.read field) :=
  (row.value.tame_read field).map _

lemma Access.tame_sortNames (names : List Value) : Tame (sortNames names) := by
  rw [sortNames]
  split_ifs
  · exact tame_ok _
  · exact (tame_mapM (fun name => name.tame_text.map _) _).map _

lemma Access.tame_sorted (a : Access) : Tame a.sorted :=
  (tame_sortNames a.groups).bind fun _ => (tame_sortNames a.roles).bind fun _ =>
    (tame_sortNames a.permissions).bind fun _ => tame_ok _

lemma Failure.plain_denied (permission : Value) : (denied permission).IsPlain := by
  rw [denied]
  split
  · trivial
  · trivial

namespace Log

lemma plain_dateFault {own : List String} {f : Failure} (h : dateFault? own = some f) :
    f.IsPlain := by
  rw [dateFault?] at h
  split_ifs at h
  · obtain rfl := Option.some.inj h
    trivial
  · obtain rfl := Option.some.inj h
    trivial

mutual

lemma plain_ancestorFault : ∀ (v : Value) (own : List String) (f : Failure),
    ancestorFault? own v = some f → f.IsPlain
  | .date _, own, f, h => plain_dateFault h
  | .obj fields, own, f, h => plain_parentFault fields _ f h
  | .undefined, _, _, h | .null, _, _, h | .bool _, _, _, h | .num _, _, _, h | .str _, _, _, h
  | .half _, _, _, h | .arr _, _, _, h => by cases h

lemma plain_parentFault : ∀ (fields : List (String × Value)) (own : List String) (f : Failure),
    parentFault? own fields = some f → f.IsPlain
  | [], _, _, h => by cases h
  | (k, v) :: r, own, f, h => by
    rw [parentFault?] at h
    split_ifs at h
    · exact plain_ancestorFault v own f h
    · exact plain_parentFault r own f h

end

mutual

lemma plain_fault : ∀ (v : Value) (f : Failure), fault? v = some f → f.IsPlain
  | .arr items, f, h => plain_itemsFault items f h
  | .obj fields, f, h => by
    rw [fault?, Option.or_eq_some_iff] at h
    rcases h with h | ⟨-, h⟩
    · exact plain_parentFault fields _ f h
    · exact plain_fieldsFault fields f h
  | .undefined, _, h | .null, _, h | .bool _, _, h | .num _, _, h | .str _, _, h | .half _, _, h
  | .date _, _, h => by cases h

lemma plain_itemsFault : ∀ (items : List Value) (f : Failure),
    itemsFault? items = some f → f.IsPlain
  | [], _, h => by cases h
  | v :: vs, f, h => by
    rw [itemsFault?, Option.or_eq_some_iff] at h
    rcases h with h | ⟨-, h⟩
    · exact plain_fault v f h
    · exact plain_itemsFault vs f h

lemma plain_fieldsFault : ∀ (fields : List (String × Value)) (f : Failure),
    fieldsFault? fields = some f → f.IsPlain
  | [], _, h => by cases h
  | (k, v) :: r, f, h => by
    rw [fieldsFault?] at h
    split_ifs at h
    · exact plain_fieldsFault r f h
    · rw [Option.or_eq_some_iff] at h
      rcases h with h | ⟨-, h⟩
      · exact plain_fault v f h
      · exact plain_fieldsFault r f h

end

namespace Entry

lemma tame_stamp (wall : Number) : Tame (stamp wall) := by
  rw [stamp]
  split
  · exact tame_ok _
  · exact tame_error trivial

lemma tame_faultless {fault : Option Failure} (h : ∀ f, fault = some f → f.IsPlain) :
    Tame (faultless fault) := by
  cases fault with
  | none => exact tame_ok ()
  | some f => exact tame_error (h f rfl)

lemma tame_redacted (v : Value) : Tame (redacted v) := (v.tame_textFor _ _).map _

lemma tame_write (wall : Number) (e : Entry) : Tame (e.write wall) := by
  cases e with
  | request => exact (tame_stamp wall).bind fun _ => (Value.tame_number _).bind fun _ => tame_ok _
  | authentication _ _ _ _ reason =>
    refine (tame_stamp wall).bind fun _ => ?_
    dsimp only
    split
    · exact tame_ok _
    · exact ((tame_redacted _).map _).bind fun _ => tame_ok _
  | authorization => exact (tame_stamp wall).bind fun _ => tame_ok _
  | database => exact (tame_redacted _).bind fun _ => (tame_stamp wall).bind fun _ => tame_ok _
  | security _ _ _ _ context =>
    refine (tame_stamp wall).bind fun _ => ?_
    split_ifs
    · exact tame_error trivial
    · exact (tame_faultless (plain_fault _)).bind fun _ => tame_ok _
  | note => exact (tame_stamp wall).bind fun _ =>
      (tame_faultless (plain_fieldsFault _)).bind fun _ => tame_ok _

end Entry

end Log

end AuthGate
