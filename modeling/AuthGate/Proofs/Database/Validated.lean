import AuthGate.Proofs.Database.Deployment

namespace AuthGate

open Settings

variable {env : Environment}

theorem Deployment.built_serves (henv : env.Textual) :
    (∀ s, load env = .ok s → s.validate = .ok () → ∃ tokens, Token.Issuer.make? s.auth = .ok tokens) ∧
    ∀ api, buildApi env = .ok api → ∃ s secret issuer asked,
      load env = .ok s ∧ Token.Issuer.make? s.auth = .ok api.tokens ∧
      api.schemePrefix = s.auth.schemePrefix ∧
      Reliable s.auth secret issuer asked s.accessLifetime s.refreshLifetime ∧
      (∀ payload, Token.checkIssuer payload api.tokens.codec.issuer = .ok () ↔
        payload.field "iss" = .str issuer) ∧
      (∀ (m : Moment) (ms : Number), m.clock = .reads ms → ∀ id tokenId : Value,
        ∃ pair, api.tokens.createPair m id tokenId = .ok pair) ∧
      ∀ (m : Moment) (requestId headers : Value) (scheme token : String),
        Authentication.Spells headers scheme token → Text.lower scheme = Text.lower asked →
          Authentication.check api.tokens api.schemePrefix m requestId headers =
            Authentication.checkToken api.tokens m requestId scheme token := by
  refine ⟨fun s _ hv => ⟨_, make?_auth (validate_eq_ok.1 hv).1.2.2.2⟩, fun api h => ?_⟩
  obtain ⟨s, hs, hv, ht, hp⟩ := buildApi_eq_ok.1 h
  obtain ⟨secret, issuer, asked, hreliable⟩ := reliable_auth henv hs hv
  have hsound := hreliable.sound ht
  refine ⟨s, secret, issuer, asked, hs, ht, hp, hreliable, fun payload => ?_, ?_, ?_⟩
  · rw [Token.checkIssuer_eq_ok, hsound.issuer, Token.acceptsIssuer_str hreliable.issuer_ne]
  · intro m ms hm id tokenId
    exact Token.Issuer.exists_createPair hsound hm id tokenId
  · intro m requestId headers scheme token hheader hl
    have hscheme : api.schemePrefix = .str asked := hp.trans hreliable.scheme_eq
    rw [hscheme]
    exact Authentication.check_of_spells hheader hreliable.scheme_word hl

open Deployment in
theorem Deployment.built_serves_lower : ∃ api, buildApi (withSecret "first") = .ok api ∧
    (∃ pair, api.tokens.createPair ⟨.reads .nan, .nan, false⟩ (.str "") .undefined = .ok pair) ∧
    ∀ m requestId, Authentication.check api.tokens api.schemePrefix m requestId
        (.obj [("Authorization", .str "BEARER \t abc")]) =
      Authentication.checkToken api.tokens m requestId "BEARER" "abc" := by
  have henv : (withSecret "first").Textual := by simp [Environment.Textual, withSecret]
  obtain ⟨api, hapi, -⟩ := buildApi_withSecret (show "first" ≠ "" by decide)
  obtain ⟨s, secret, issuer, asked, hs, -, -, hreliable, -, hpairs, hchecks⟩ :=
    (built_serves henv).2 api hapi
  obtain rfl := Except.ok.inj ((load_withSecret "first").symm.trans hs)
  obtain rfl : "Bearer" = asked := Value.str.inj hreliable.scheme_eq
  refine ⟨api, hapi, hpairs _ .nan rfl _ _, fun m requestId => hchecks _ _ _ _ _ ?_ ?_⟩
  · exact ⟨_, [' ', '\t', ' '], Authentication.find_authorization _, rfl, by simp,
      List.all_eq_true.1 rfl, Text.isWord_iff.2 ⟨by simp, rfl⟩⟩
  · decide +kernel

end AuthGate
