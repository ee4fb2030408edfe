import AuthGate.Password.Bcrypt
import AuthGate.Proofs.Text.Base64
import Mathlib.Data.List.TakeWhile

namespace AuthGate

namespace Password

open Text.Base64

lemma idxOf?_alphabet : ∀ n < 64, alphabet.idxOf? (alphabet.getD n 'A') = some n := by
  decide +kernel

lemma alphabet_ne_null : ∀ n < 64, alphabet.getD n 'A' ≠ '\x00' := by decide +kernel

lemma digit?_ofNat : ∀ n < 10, digit? (Char.ofNat (48 + n)) = some n := by decide

lemma digit_ne_null : ∀ n < 10, Char.ofNat (48 + n) ≠ '\x00' := by decide

lemma mapM_idxOf? {ns : List ℕ} (h : ∀ n ∈ ns, n < 64) :
    (ns.map fun n => alphabet.getD n 'A').mapM (fun c => alphabet.idxOf? c) = some ns := by
  induction ns with
  | nil => rfl
  | cons n ns ih =>
    obtain ⟨hn, hns⟩ := List.forall_mem_cons.1 h
    rw [List.map_cons, List.mapM_cons, idxOf?_alphabet n hn, ih hns]
    rfl

lemma saltOf?_encode (salt : List UInt8) : saltOf? (encodeWith alphabet salt) = some salt := by
  rw [saltOf?, encodeWith, mapM_idxOf? (sextets_lt salt), Option.map_some, bytes_sextets]

lemma encode_ne_null (bs : List UInt8) : ∀ c ∈ encodeWith alphabet bs, c ≠ '\x00' := by
  intro c hc
  obtain ⟨n, hn, rfl⟩ := List.mem_map.1 hc
  exact alphabet_ne_null n (sextets_lt bs n hn)

lemma length_digest (st : Stored) (password : List UInt8) : (digest st password).length = 23 := by
  rfl

structure Stored.Usable (st : Stored) : Prop where
  least : 4 ≤ st.cost
  most : st.cost ≤ 30
  salt : st.salt.length = 16

variable {st : Stored}

lemma ofText?_render (h : st.Usable) (password : List UInt8) :
    Stored.ofText? (render st password) = some st := by
  obtain ⟨version, cost, salt⟩ := st
  have hleast : 4 ≤ cost := h.least
  have hmost : cost ≤ 30 := h.most
  have hlen : (encodeWith alphabet salt).length = 22 := by
    rw [length_encodeWith, h.salt]
  have htake : (encodeWith alphabet salt ++
      encodeWith alphabet (digest ⟨version, cost, salt⟩ password)).take 22 =
      encodeWith alphabet salt := List.take_left' hlen
  have htext : (encodeWith alphabet salt ++
      encodeWith alphabet (digest ⟨version, cost, salt⟩ password)).length = 53 := by
    rw [List.length_append, hlen, length_encodeWith, length_digest]
  have htens := digit?_ofNat (cost / 10) (by omega)
  have hunits := digit?_ofNat (cost % 10) (Nat.mod_lt _ (by decide))
  have hdigits : 10 * (cost / 10) + cost % 10 = cost := Nat.div_add_mod cost 10
  have hcost : ¬ (cost < 4 ∨ 30 < cost) := by omega
  cases version <;>
    simp only [render, Version.label, List.cons_append, List.nil_append, Stored.ofText?, htens,
      hunits, hdigits, hcost, htake, htext, saltOf?_encode, Option.bind_eq_bind, Option.bind_some,
      ne_eq, not_true_eq_false, or_false, if_false]

lemma render_ne_null (h : st.Usable) (password : List UInt8) :
    ∀ c ∈ render st password, c ≠ '\x00' := by
  have hmost := h.most
  have htens := digit_ne_null (st.cost / 10) (by omega)
  have hunits := digit_ne_null (st.cost % 10) (Nat.mod_lt _ (by decide))
  have hlabel : ∀ c ∈ st.version.label, c ≠ '\x00' := by cases st.version <;> simp [Version.label]
  intro c hc
  simp only [render, List.mem_cons, List.mem_append] at hc
  rcases hc with (rfl | hc) | rfl | rfl | rfl | rfl | hc | hc
  · decide
  · exact hlabel c hc
  · decide
  · exact htens
  · exact hunits
  · decide
  · exact encode_ne_null _ c hc
  · exact encode_ne_null _ c hc

theorem accepts_render (h : st.Usable) (password : String) :
    accepts password (.ofList (render st (Text.utf8 password.toList))) = true := by
  have htext : (render st (Text.utf8 password.toList)).takeWhile (· ≠ '\x00') =
      render st (Text.utf8 password.toList) := by
    rw [List.takeWhile_eq_self_iff]
    exact fun c hc => decide_eq_true (render_ne_null h _ c hc)
  rw [accepts]
  simp only [String.toList_ofList, htext, ofText?_render h, decide_true]

end Password

end AuthGate
