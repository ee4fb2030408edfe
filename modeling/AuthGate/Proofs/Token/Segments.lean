import AuthGate.Proofs.Text.Base64
import AuthGate.Proofs.Text.Split
import AuthGate.Token.Verification

namespace AuthGate

namespace Token.Segments

def chars (t : Segments) : List Char := t.signed ++ '.' :: t.signature

structure Cut (token : String) (t : Segments) : Prop where
  chars : token.toList = t.header ++ '.' :: t.payload ++ '.' :: t.signature
  header : '.' ∉ t.header
  payload : '.' ∉ t.payload
  signature : '.' ∉ t.signature

lemma ofToken?_eq_some {token : String} {t : Segments} :
    ofToken? token = some t ↔ Cut token t := by
  constructor
  · intro h
    rw [ofToken?] at h
    split at h
    · rename_i a b c hs
      obtain rfl : _ = t := by simpa using h
      obtain ⟨ha, ⟨h', -⟩ | ⟨r, hr, hs⟩⟩ := Text.splitAt_head hs
      · cases h'
      · obtain ⟨hb, ⟨h', -⟩ | ⟨r', hr', hs⟩⟩ := Text.splitAt_head hs
        · cases h'
        · obtain ⟨hc, ⟨-, rfl⟩ | ⟨r'', -, hs⟩⟩ := Text.splitAt_head hs
          · exact ⟨by rw [hr, hr', List.append_assoc, List.cons_append], ha, hb, hc⟩
          · exact absurd hs (Text.splitAt_ne_nil _ _)
    · cases h
  · intro h
    rw [ofToken?, h.chars, List.append_assoc, List.cons_append, Text.splitAt_append h.header,
      Text.splitAt_append h.payload, Text.splitAt_whole h.signature]

lemma Cut.unique {token : String} {t t' : Segments} (h : Cut token t) (h' : Cut token t') :
    t = t' :=
  Option.some.inj ((ofToken?_eq_some.2 h).symm.trans (ofToken?_eq_some.2 h'))

lemma chars_of_ofToken? {token : String} {t : Segments} (h : ofToken? token = some t) :
    token.toList = t.chars :=
  (ofToken?_eq_some.1 h).chars

lemma dot_notMem {s : List Char} (h : s.all Text.Base64.isUrlChar = true) : '.' ∉ s :=
  fun hd => absurd (List.all_eq_true.1 h '.' hd) (by decide)

lemma isWellFormed_iff (t : Segments) : t.isWellFormed = true ↔ t.header ≠ [] ∧ t.payload ≠ [] ∧
    t.header.all Text.Base64.isUrlChar = true ∧ t.payload.all Text.Base64.isUrlChar = true ∧
    t.signature.all Text.Base64.isUrlChar = true := by
  simp [isWellFormed, and_assoc]

lemma ofToken?_of_chars {token : String} {t : Segments} (h : token.toList = t.chars)
    (hw : t.isWellFormed = true) : ofToken? token = some t := by
  obtain ⟨-, -, hh, hp, hs⟩ := t.isWellFormed_iff.1 hw
  exact ofToken?_eq_some.2 ⟨h, dot_notMem hh, dot_notMem hp, dot_notMem hs⟩

inductive Carries (header : Value) (text : List Char) : Record → Prop where
  | object {r : Record} : Json.parse? text = some (.obj r) → Carries header text r
  | quoted {s : String} {r : Record} : header.field "typ" = .str "JWT" →
      Json.parse? text = some (.str s) → Json.parse? s.toList = some (.obj r) →
      Carries header text r

lemma openText_eq_obj {v : Value} {r : Record} : openText v = .obj r ↔
    v = .obj r ∨ ∃ s, v = .str s ∧ Json.parse? s.toList = some (.obj r) := by
  unfold openText
  split
  · rename_i s
    split <;> simp_all
  · simp_all

lemma readPayload_eq_obj {t : Segments} {header : Value} {r : Record} :
    t.readPayload header = .ok (.obj r) ↔
      Carries header (Text.ofUtf8 (Text.Base64.decode t.payload)) r := by
  unfold readPayload
  constructor
  · intro h
    dsimp only at h
    split_ifs at h with htyp
    · have htyp : header.field "typ" = .str "JWT" := by
        split at htyp <;> simp_all
      split at h
      · rename_i hv
        rcases openText_eq_obj.1 (Except.ok.inj h) with rfl | ⟨s, rfl, hs⟩
        · exact .object hv
        · exact .quoted htyp hv hs
      · cases h
    · rcases openText_eq_obj.1 (Except.ok.inj h) with h | ⟨s, hs, hr⟩
      · cases h
      · obtain rfl := Value.str.inj hs
        exact .object (by simpa using hr)
  · intro h
    dsimp only
    split_ifs with htyp
    · cases h with
      | object h => simp [h, openText]
      | quoted _ hs hr => simp [hs, openText, hr]
    · cases h with
      | object h => simp [h, openText]
      | quoted htyp' => simp [htyp'] at htyp

lemma readPayload_eq_error {t : Segments} {header : Value} {o : Objection}
    (h : t.readPayload header = .error o) : o = .unreadablePayload := by
  rw [readPayload] at h
  split_ifs at h
  split at h
  · cases h
  · exact (Except.error.inj h).symm

end Token.Segments

namespace Digest

lemma Family.length_digest {W : Type} (F : Family W) (start : Chain W) {size : ℕ} (h : size ≤ 8)
    (message : List UInt8) : (F.digest start size message).length = size * F.wordBytes := by
  have hlength (s : Chain W) : ((words s).take size).length = size :=
    List.length_take_of_le h
  rw [digest, List.length_flatMap]
  simp only [bytesOf, List.length_map, List.length_range]
  rw [List.map_const', List.sum_replicate_nat, hlength]

lemma Hash.length_digest (h : Hash) (message : List UInt8) :
    (h.digest message).length = h.size := by
  cases h with
  | sha256 | sha384 | sha512 => exact Family.length_digest _ _ (by decide) _

end Digest

lemma Token.Codec.length_signature (c : Codec) (signed : List Char) :
    (c.signature signed).length = (4 * c.algorithm.hash.size + 2) / 3 := by
  rw [signature, Text.Base64.encodeUrl, Text.Base64.length_encodeWith, mac, Digest.hmac,
    Digest.Hash.length_digest]

lemma Token.Codec.length_sign (c : Codec) (payload : Record) : (c.sign payload).length =
    (segment c.header).length + (segment (.obj payload)).length +
      (4 * c.algorithm.hash.size + 2) / 3 + 2 := by
  rw [sign, String.length_ofList]
  simp only [List.length_append, List.length_cons, length_signature]
  omega

end AuthGate
