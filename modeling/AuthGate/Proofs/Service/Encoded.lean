import AuthGate.Proofs.Text.Base64
import AuthGate.Proofs.Text.Utf8
import AuthGate.Proofs.Transcript
import AuthGate.Service.Api

namespace AuthGate

namespace Text.Base64

def ofText (b : String) : String := .ofList (encodeStandard (utf8 b.toList))

lemma ofUtf8_decode_ofText (b : String) : ofUtf8 (decode (ofText b).toList) = b.toList := by
  rw [ofText, String.toList_ofList, decode_encodeStandard, ofUtf8_utf8]

example : ofText "é" = "w6k=" := by decide +kernel

lemma ofText_eq_empty {b : String} : ofText b = "" ↔ b = "" := by
  constructor
  · intro h
    have hread := ofUtf8_decode_ofText b
    rw [h] at hread
    exact String.toList_eq_nil_iff.1 hread.symm
  · rintro rfl
    rfl

end Text.Base64

namespace Request

def withText (r : Request) (b : String) : Request := { r with body := .str b, isBase64 := false }

def withBase64 (r : Request) (b : String) : Request :=
  { r with body := .str (Text.Base64.ofText b), isBase64 := true }

lemma content_withBase64 (r : Request) (b : String) :
    (r.withBase64 b).content = (r.withText b).content := by
  have htruthy : (r.withBase64 b).body.truthy = (r.withText b).body.truthy :=
    decide_eq_decide.2 (not_congr Text.Base64.ofText_eq_empty)
  have htext : (r.withBase64 b).bodyText = (r.withText b).bodyText :=
    congrArg (fun t => Except.ok (some t)) (Text.Base64.ofUtf8_decode_ofText b)
  rw [content, content, htruthy, htext]

structure Agrees (r r' : Request) : Prop where
  headers : r.headers = r'.headers
  method : r.method = r'.method
  path : r.path = r'.path
  content : r.content = r'.content

lemma agrees_withBase64 (r : Request) (b : String) : (r.withBase64 b).Agrees (r.withText b) :=
  ⟨rfl, rfl, rfl, content_withBase64 r b⟩

end Request

namespace Api

open Program

variable {r r' : Request}

lemma answer_of_agrees (api : Api) (m : Moment) (requestId : String) (h : r.Agrees r') :
    api.answer m requestId r = api.answer m requestId r' := by
  have hendpoint : Endpoint.ofRequest r = Endpoint.ofRequest r' := by
    rw [Endpoint.ofRequest, Endpoint.ofRequest, h.method, h.path]
  simp only [answer, hendpoint, login, refresh, logout, authenticate, h.content, h.headers]

lemma handle_of_agrees (api : Api) (m : Moment) (requestId : String) (h : r.Agrees r') :
    api.handle m requestId r = api.handle m requestId r' := by
  rw [handle, handle, answer_of_agrees api m requestId h, h.method, h.path]

theorem encoded_like_plain {σ : Type} (stores : Stores σ) (s : σ) (api : Api) (m : Moment)
    (requestId : String) (r : Request) (b : String) :
    (api.handle m requestId (r.withBase64 b)).run stores s =
        (api.handle m requestId (r.withText b)).run stores s ∧
      (api.handle m requestId (r.withBase64 b)).transcript stores s =
        (api.handle m requestId (r.withText b)).transcript stores s := by
  rw [handle_of_agrees api m requestId (r.agrees_withBase64 b)]
  exact ⟨rfl, rfl⟩

end Api

end AuthGate
