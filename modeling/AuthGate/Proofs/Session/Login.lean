import AuthGate.Proofs.Password
import AuthGate.Proofs.Session.Refresh

namespace AuthGate

open Program

namespace Memory

variable {s s' : Memory} {u : Value}

def Identified (s : Memory) : Prop := ∀ u ∈ s.users, ∃ id, id ≠ "" ∧ u.id = .str id

structure Revoked (s s' : Memory) (k : ℕ) (u : Value) : Prop where
  live : s.isLive k u = true
  used : s'.record? k = (s.record? k).map RefreshRecord.kill
  others : ∀ j ≠ k, s'.record? j = s.record? j

lemma mem_of_userByEmail {email : Value} {user : User}
    (h : s.userByEmail email = .ok (some user)) : user ∈ s.users := by
  rw [userByEmail] at h
  split_ifs at h
  · cases h
  · obtain ⟨e, -, he⟩ := Except.map_eq_ok.1 h
    exact List.mem_of_find?_eq_some he

lemma Revoked.spares {k j : ℕ} {r : RefreshRecord} (h : Revoked s s' k u)
    (hr : s.record? j = some r) (hu : r.userId.same u = false) : s'.record? j = some r := by
  by_cases hj : j = k
  · obtain ⟨r', hr', -, hu'⟩ := isLive_iff.1 h.live
    obtain rfl := Option.some.inj ((hj ▸ hr).symm.trans hr')
    exact absurd hu' (by simp [hu])
  · rw [h.others j hj, hr]

end Memory

namespace Session

variable {t : Token.Issuer} {issuer : String} {access refresh : Number} {m : Moment} {now : ℚ}
  {s : Memory} {email password : String}

inductive LoggedOut (t : Token.Issuer) (m : Moment) (s : Memory) (token : String) :
    Outcome Memory Bool → Prop where
  | revoked {o : Outcome Memory Bool} {claims} : o.result = .ok true →
      t.codec.decodeRefresh m token = .ok claims →
      s.failureOf? (.revoke claims.tokenId claims.id) = none →
      s.Revoked o.state claims.tokenId (.str claims.id) → LoggedOut t m s token o
  | kept {o : Outcome Memory Bool} : o.result ≠ .ok true →
      (∀ claims, t.codec.decodeRefresh m token = .ok claims →
        s.isLive claims.tokenId (.str claims.id) = true →
        s.failureOf? (.revoke claims.tokenId claims.id) ≠ none) →
      o.state.records = s.records → LoggedOut t m s token o

section

variable (ht : t.Sound issuer access refresh) (hm : m.clock.seconds = .ok (.finite now))
  (h1 : 1 ≤ now) (hw : (Calendar.iso? m.wall).isSome = true) (hs : s.Identified)

include ht hm h1 hw hs

end

lemma LoggedOut.spares {token : String} {o : Outcome Memory Bool} {claims : Token.RefreshClaims}
    {k : ℕ} {r : Memory.RefreshRecord} (h : LoggedOut t m s token o)
    (hd : t.codec.decodeRefresh m token = .ok claims) (hr : s.record? k = some r)
    (hu : r.userId.same (.str claims.id) = false) : o.state.record? k = some r := by
  cases h with
  | revoked _ hd' _ hrev =>
    obtain rfl := Except.ok.inj (hd.symm.trans hd')
    exact hrev.spares hr hu
  | kept _ _ hs => rw [Memory.record?_congr hs, hr]

def sampleStored : Password.Stored := ⟨.b, 4, List.replicate 16 0⟩

def sampleHash : String :=
  .ofList (Password.render sampleStored (Text.utf8 "test-password".toList))

def loginUser : User := { sampleUser with passwordHash := .str sampleHash }

def loginMemory : Memory := { sampleMemory with users := [loginUser] }

lemma accepts_sampleHash : Password.accepts "test-password" sampleHash = true :=
  Password.accepts_render ⟨by decide, by decide, rfl⟩ _

end Session

end AuthGate
