import AuthGate.Proofs.Except
import AuthGate.Proofs.Memory
import AuthGate.Proofs.Text.Base64
import AuthGate.Proofs.Text.LowerCase
import AuthGate.Service.Authentication

namespace AuthGate

open Program

namespace Text

lemma not_isBlank_of_mem_encodeUrl {bs : List UInt8} {c : Char} (h : c ∈ Base64.encodeUrl bs) :
    isBlank c = false :=
  Base64.not_isBlank_of_isUrlChar (List.all_eq_true.1 (Base64.encodeUrl_all bs) c h)

end Text

lemma Header.find_obj (headers : Record) (name : String) :
    find (.obj headers) (.str name) = joined (lookup (Text.lower name) headers) := rfl

lemma Token.Codec.sign_not_blank (c : Token.Codec) (payload : Record) :
    ∀ ch ∈ (c.sign payload).toList, Text.isBlank ch = false := by
  intro ch hch
  simp only [sign, String.toList_ofList, List.mem_append, List.mem_cons] at hch
  rcases hch with (h | rfl | h) | rfl | h
  · exact Text.not_isBlank_of_mem_encodeUrl h
  · decide
  · exact Text.not_isBlank_of_mem_encodeUrl h
  · decide
  · exact Text.not_isBlank_of_mem_encodeUrl h

namespace Authentication

variable {t : Token.Issuer} {schemePrefix headers requestId : Value} {m : Moment} {token : String}
  {claims : Token.AccessClaims} {credentials : Credentials}
  {user : User} {found : Option User}

/-- The header of a request holds the scheme that is asked for, and a token. -/
def Carries (schemePrefix headers : Value) (token : String) : Prop :=
  ∃ text scheme asked, Header.find headers (.str "authorization") = .ok (.str text) ∧
    (Text.words text.toList).map String.ofList = [scheme, token] ∧ schemePrefix = .str asked ∧
    Text.lower scheme = Text.lower asked

def Presents (t : Token.Issuer) (schemePrefix : Value) (m : Moment) (headers : Value)
    (claims : Token.AccessClaims) : Prop :=
  ∃ token, Carries schemePrefix headers token ∧ t.codec.decodeAccess m token = .ok claims

def Unauthenticated (r : Except Failure Authentication) : Prop :=
  ∀ credentials principal, r ≠ .ok (.authenticated credentials principal)

lemma quiet_reject (fault : AuthFault) (reason : String) (cause : Failure) :
    (reject m requestId fault reason cause).Quiet Unauthenticated :=
  (quiet_log m _).bind (fun _ _ => .done (by simp [Unauthenticated]))
    fun e _ => by simp [Unauthenticated]

lemma quiet_checkUser (h : ∀ u, found = some u → u.status ≠ .confirmed) :
    (checkUser m requestId credentials found).Quiet Unauthenticated := by
  cases found with
  | none => exact quiet_reject _ _ _
  | some u =>
    rw [checkUser, if_neg (h u rfl)]
    cases u.id.text with
    | error e => exact .done (by simp [Unauthenticated])
    | ok id => exact quiet_reject _ _ _

lemma quiet_checkUser_confirmed (h : user.status = .confirmed) :
    (checkUser m requestId credentials (some user)).Quiet fun r =>
      ∀ a, r = .ok a → a = .authenticated credentials user.principal := by
  rw [checkUser, if_pos h]
  exact (quiet_log m _).bind (fun _ _ => .done fun a ha => (Except.ok.inj ha).symm)
    fun e _ a ha => by cases ha

lemma words_of_header {text : String}
    (h : Header.find headers (.str "authorization") = .ok (.str text)) :
    words headers = .ok ((Text.words text.toList).map String.ofList) := by
  rw [words, h]
  rfl

lemma words_of_carries (h : Carries schemePrefix headers token) :
    ∃ scheme asked, words headers = .ok [scheme, token] ∧ schemePrefix = .str asked ∧
      Text.lower scheme = Text.lower asked := by
  obtain ⟨text, scheme, asked, hf, hw, hp, hl⟩ := h
  exact ⟨scheme, asked, hw ▸ words_of_header hf, hp, hl⟩

lemma carries_of_words {scheme asked : String} (h : words headers = .ok [scheme, token])
    (hl : Text.lower scheme = Text.lower asked) : Carries (.str asked) headers token := by
  obtain ⟨header, hf, h⟩ := Except.bind_eq_ok.1 h
  split_ifs at h
  · cases h
  · obtain ⟨text, ht, h⟩ := Except.bind_eq_ok.1 h
    cases header with
    | str s =>
      obtain rfl := Except.ok.inj ht
      exact ⟨_, scheme, asked, hf, Except.ok.inj h, rfl, hl⟩
    | _ => cases ht

lemma find_authorization (text : String) :
    Header.find (.obj [("Authorization", .str text)]) (.str "authorization") = .ok (.str text) := by
  have hname : Text.lower "Authorization" = Text.lower "authorization" := by decide +kernel
  have hfound : Header.lookup (Text.lower "authorization") [("Authorization", .str text)] =
      .str text := by
    simp [Header.lookup, Value.isUndefined, hname]
  rw [Header.find_obj, hfound]
  rfl

lemma carries_header {asked : String} (hasked : ∀ c ∈ asked.toList, Text.isBlank c = false)
    (hasked' : asked ≠ "") (htoken : ∀ c ∈ token.toList, Text.isBlank c = false)
    (htoken' : token ≠ "") :
    Carries (.str asked) (.obj [("Authorization", .str (asked ++ " " ++ token))]) token := by
  have htext : (asked ++ " " ++ token).toList = asked.toList ++ ' ' :: token.toList := by simp
  refine ⟨asked ++ " " ++ token, asked, asked, find_authorization _, ?_, rfl, rfl⟩
  rw [htext, List.append_cons, Text.words_pair ⟨by simpa using hasked', hasked⟩ (by simp)
    (by simp; decide) ⟨by simpa using htoken', htoken⟩]
  simp

lemma check_of_presents (h : Presents t schemePrefix m headers claims) :
    ∃ credentials, check t schemePrefix m requestId headers =
      (ask (.findById claims.id)).bind (checkUser m requestId credentials) := by
  obtain ⟨token, hc, hd⟩ := h
  obtain ⟨scheme, asked, hw, rfl, hl⟩ := words_of_carries hc
  refine ⟨⟨scheme, token, claims⟩, ?_⟩
  simp only [check, hw, bind_eq, bind_ok, Value.textFor, hl, ne_eq, not_true_eq_false, if_false,
    checkCredential, checkToken, hd]

lemma quiet_check (h : ∀ claims, ¬ Presents t schemePrefix m headers claims) :
    (check t schemePrefix m requestId headers).Quiet Unauthenticated := by
  have hno : ∀ f, Unauthenticated (.error f) := by simp [Unauthenticated]
  rw [check]
  cases hw : words headers with
  | error f => exact .done (hno f)
  | ok found =>
    match found with
    | [] => exact .done (by simp [Unauthenticated])
    | scheme :: rest =>
      simp only [bind_eq, bind_ok]
      cases hp : schemePrefix.textFor "toLowerCase" "this.options.schemePrefix" with
      | error f => exact .done (hno f)
      | ok asked =>
        have hp : schemePrefix = .str asked := by
          cases schemePrefix <;> cases hp
          rfl
        rw [bind_ok]
        split_ifs with hl
        · exact .done (by simp [Unauthenticated])
        match rest with
        | [] => exact quiet_reject _ _ _
        | [token] =>
          have hc := hp ▸ carries_of_words hw (not_not.1 hl)
          rw [checkCredential, checkToken]
          cases hd : t.codec.decodeAccess m token with
          | ok claims => exact absurd ⟨token, hc, hd⟩ (h claims)
          | error f =>
            cases f with
            | token => exact quiet_reject _ _ _
            | _ => exact .done (hno _)
        | _ :: _ :: _ => exact quiet_reject _ _ _

def Spells (headers : Value) (scheme token : String) : Prop :=
  ∃ text gap, Header.find headers (.str "authorization") = .ok (.str text) ∧
    text.toList = scheme.toList ++ gap ++ token.toList ∧ gap ≠ [] ∧
    (∀ c ∈ gap, Text.isBlank c = true) ∧ Text.IsWord token.toList

/-- A scheme that has the lower case of a word is a word itself, so that the header has two of them
and the second one is decoded. -/
lemma check_of_spells {scheme asked : String} (h : Spells headers scheme token)
    (hasked : Text.IsWord asked.toList) (hl : Text.lower scheme = Text.lower asked) :
    check t (.str asked) m requestId headers = checkToken t m requestId scheme token := by
  obtain ⟨text, gap, hf, htext, hgap, hblank, htoken⟩ := h
  have hscheme : Text.IsWord scheme.toList := by
    rwa [← Text.isWord_lower, hl, Text.isWord_lower]
  have hwords : words headers = .ok [scheme, token] := by
    rw [words_of_header hf, htext, Text.words_pair hscheme hgap hblank htoken]
    simp
  simp only [check, hwords, bind_eq, bind_ok, Value.textFor, hl, ne_eq, not_true_eq_false, if_false,
    checkCredential]

lemma principal_eq_ok {a : Authentication} {p : Principal} (h : a.principal = .ok p) :
    ∃ credentials, a = .authenticated credentials p := by
  cases a with
  | authenticated credentials principal =>
    obtain rfl := Except.ok.inj h
    exact ⟨credentials, rfl⟩
  | anonymous => cases h
  | rejected f => cases h

end Authentication

end AuthGate
