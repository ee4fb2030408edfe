import AuthGate.Proofs.Calendar
import AuthGate.Proofs.Json.Numeral
import AuthGate.Proofs.Log.Address
import AuthGate.Proofs.Service.Asides
import AuthGate.Proofs.Service.Gate

namespace AuthGate

open Log (ShowsAddress)

namespace Number

lemma at_notMem_layout {ds : List Char} (h : '@' ∉ ds) (g : ℤ) : '@' ∉ layout ds g := by
  have htake (k : ℕ) : '@' ∉ ds.take k := fun hmem => h (List.mem_of_mem_take hmem)
  have hdrop (k : ℕ) : '@' ∉ ds.drop k := fun hmem => h (List.mem_of_mem_drop hmem)
  have hsign (p : Prop) [Decidable p] : '@' ≠ if p then '-' else '+' := by
    split_ifs <;> decide
  rw [layout]
  split_ifs <;> simp only [List.mem_append, List.mem_cons, List.mem_replicate, h, htake, hdrop,
    hsign, at_notMem_digits, List.not_mem_nil, or_false, false_or] <;> simp

lemma at_notMem_magnitudeText (q : ℚ) : '@' ∉ magnitudeText q := by
  rw [magnitudeText]
  split_ifs
  · exact at_notMem_digits _
  · exact at_notMem_layout (at_notMem_digits _) _

lemma at_notMem_chars (n : Number) : '@' ∉ n.chars := by
  cases n with
  | nan | negZero => decide
  | infinite s => cases s <;> decide
  | finite q =>
    rw [chars]
    split_ifs
    · simp [at_notMem_magnitudeText]
    · exact at_notMem_magnitudeText q

end Number

namespace Json

variable {s : List Char}

lemma showsAddress_quote : ShowsAddress (quote s) ↔ ShowsAddress (s.flatMap escape) := by
  rw [quote, Log.showsAddress_cons_of_not_isLocal rfl, Log.showsAddress_concat rfl (by decide)]

lemma escape_of_le {c : Char} (h : 128 ≤ c.toNat) : escape c = [c] := by
  have hne (d : Char) (hd : d.toNat < 128) : c ≠ d := by
    rintro rfl
    omega
  have hcontrol : ¬ c.toNat < 32 := by omega
  simp only [escape, hne _ (show '"'.toNat < 128 by decide), if_false, hcontrol,
    hne _ (show '\\'.toNat < 128 by decide), hne _ (show '\n'.toNat < 128 by decide),
    hne _ (show '\r'.toNat < 128 by decide), hne _ (show '\t'.toNat < 128 by decide),
    hne _ (show '\x08'.toNat < 128 by decide), hne _ (show '\x0c'.toNat < 128 by decide)]

lemma escape_table : ∀ n < 128, (Log.isLocal (.ofNat n) = true → escape (.ofNat n) = [.ofNat n]) ∧
    (Char.ofNat n ≠ '@' → '@' ∉ escape (.ofNat n)) := by
  decide +kernel

lemma escape_of_isLocal {c : Char} (h : Log.isLocal c = true) : escape c = [c] := by
  by_cases hn : c.toNat < 128
  · have htable := (escape_table c.toNat hn).1
    rw [Char.ofNat_toNat] at htable
    exact htable h
  · exact escape_of_le (Nat.le_of_not_lt hn)

lemma at_notMem_escape {c : Char} (h : c ≠ '@') : '@' ∉ escape c := by
  by_cases hn : c.toNat < 128
  · have htable := (escape_table c.toNat hn).2
    rw [Char.ofNat_toNat] at htable
    exact htable h
  · rw [escape_of_le (Nat.le_of_not_lt hn), List.mem_singleton]
    exact h.symm

lemma flatMap_escape (h : ∀ c ∈ s, Log.isLocal c) : s.flatMap escape = s := by
  induction s with
  | nil => rfl
  | cons c s ih =>
    rw [List.flatMap_cons, escape_of_isLocal (h c List.mem_cons_self),
      ih fun d hd => h d (List.mem_cons_of_mem c hd)]
    rfl

lemma startsDomain_escape (h : Log.StartsDomain s) : Log.StartsDomain (s.flatMap escape) := by
  obtain ⟨domain, top, rest, rfl, hne, hdomain, hlength, htop⟩ := h
  have hd := flatMap_escape fun c hc => Log.isLocal_of_isDomain (hdomain c hc)
  have ht := flatMap_escape fun c hc =>
    Log.isLocal_of_isDomain (Log.isDomain_of_isLetter (htop c hc))
  refine ⟨domain, top, rest.flatMap escape, ?_, hne, hdomain, hlength, htop⟩
  simp only [List.flatMap_append, List.flatMap_cons, hd, ht]
  rfl

lemma at_notMem_number (n : Number) : '@' ∉ number n := by
  rw [number.eq_def]
  split
  · decide
  · decide
  · exact n.at_notMem_chars

lemma showsAddress_quote_of_showsAddress (h : ShowsAddress s) : ShowsAddress (quote s) := by
  obtain ⟨before, name, rest, rfl, hne, hlocal, hdomain⟩ := h
  rw [showsAddress_quote]
  refine ⟨before.flatMap escape, name, rest.flatMap escape, ?_, hne, hlocal,
    startsDomain_escape hdomain⟩
  simp only [List.flatMap_append, List.flatMap_cons, flatMap_escape hlocal]
  rfl

lemma not_showsAddress_quote (h : '@' ∉ s) : ¬ ShowsAddress (quote s) := by
  rw [showsAddress_quote]
  apply Log.not_showsAddress_of_notMem
  rw [List.mem_flatMap]
  rintro ⟨c, hc, hat⟩
  exact at_notMem_escape (fun heq => h (heq ▸ hc)) hat

lemma showsAddress_separated (l : List (List Char)) :
    ShowsAddress (separated l) ↔ ∃ t ∈ l, ShowsAddress t := by
  fun_induction separated l with
  | case1 => simp [Log.not_showsAddress_nil]
  | case2 t => simp
  | case3 t u r ih =>
    rw [Log.showsAddress_append_cons rfl (by decide), ih]
    simp

lemma showsAddress_member {k : String} (hk : '@' ∉ k.toList) (t : List Char) :
    ShowsAddress (quote k.toList ++ ':' :: t) ↔ ShowsAddress t := by
  rw [Log.showsAddress_append_cons rfl (by decide)]
  exact or_iff_right (not_showsAddress_quote hk)

lemma showsAddress_object {members : List (String × List Char)}
    (hkeys : ∀ p ∈ members, '@' ∉ p.1.toList) :
    ShowsAddress (object members) ↔ ∃ p ∈ members, ShowsAddress p.2 := by
  rw [object, Log.showsAddress_cons_of_not_isLocal rfl, Log.showsAddress_concat rfl (by decide),
    showsAddress_separated]
  constructor
  · rintro ⟨t, ht, h⟩
    obtain ⟨p, hp, rfl⟩ := List.mem_map.1 ht
    exact ⟨p, hp, (showsAddress_member (hkeys p hp) p.2).1 h⟩
  · rintro ⟨p, hp, h⟩
    exact ⟨_, List.mem_map_of_mem hp, (showsAddress_member (hkeys p hp) p.2).2 h⟩

lemma printFields_eq (r : Record) :
    printFields r = r.filterMap fun p => (print? p.2).map (Prod.mk p.1) := by
  induction r with
  | nil => rfl
  | cons p r ih =>
    rw [printFields, List.filterMap_cons, ih]
    cases print? p.2 with
    | none => rfl
    | some t => rfl

lemma mem_printFields {r : Record} {p : String × List Char} :
    p ∈ printFields r ↔ ∃ v, (p.1, v) ∈ r ∧ print? v = some p.2 := by
  rw [printFields_eq, List.mem_filterMap]
  constructor
  · rintro ⟨⟨k, v⟩, hv, hp⟩
    obtain ⟨t, ht, rfl⟩ := Option.map_eq_some_iff.1 hp
    exact ⟨v, hv, ht⟩
  · rintro ⟨v, hv, hp⟩
    exact ⟨(p.1, v), hv, by rw [hp]; rfl⟩

lemma showsAddress_print {v : Value} :
    ShowsAddress (print v) ↔ ∃ t, print? v = some t ∧ ShowsAddress t := by
  rw [print]
  cases print? v with
  | none => simpa using Log.not_showsAddress_of_notMem (by decide)
  | some t => simp

lemma showsAddress_record {r : Record} (hkeys : ∀ p ∈ r, '@' ∉ p.1.toList) :
    ShowsAddress (object (printFields r)) ↔ ∃ p ∈ r, ShowsAddress (print p.2) := by
  have hwritten : ∀ p ∈ printFields r, '@' ∉ p.1.toList := by
    intro p hp
    obtain ⟨v, hv, -⟩ := mem_printFields.1 hp
    exact hkeys _ hv
  rw [showsAddress_object hwritten]
  constructor
  · rintro ⟨p, hp, h⟩
    obtain ⟨v, hv, hprint⟩ := mem_printFields.1 hp
    exact ⟨_, hv, showsAddress_print.2 ⟨_, hprint, h⟩⟩
  · rintro ⟨⟨k, v⟩, hv, h⟩
    obtain ⟨t, hprint, h⟩ := showsAddress_print.1 h
    exact ⟨(k, t), mem_printFields.2 ⟨v, hv, hprint⟩, h⟩

end Json

namespace Log.Entry

variable {wall : Number} {requestId userId method path status latency : Value} {line : Line}

lemma at_notMem_stamp {time : String} (h : stamp wall = .ok time) : '@' ∉ time.toList := by
  rw [stamp] at h
  split at h
  · rename_i time' ht
    obtain rfl := Except.ok.inj h
    obtain ⟨t, -, rfl⟩ := Option.map_eq_some_iff.1 ht
    rw [String.toList_ofList]
    exact Calendar.at_notMem_iso t
  · cases h

lemma at_notMem_statusLevel (n : Number) : '@' ∉ (statusLevel n).toList := by
  rw [statusLevel]
  split_ifs <;> decide

lemma showsAddress_request
    (h : (request requestId userId method path status latency).write wall = .ok line) :
    ShowsAddress line.text.toList ↔ ∃ v ∈ [requestId, userId, method, path, status, latency],
      ShowsAddress (Json.print v) := by
  rw [write] at h
  obtain ⟨time, ht, h⟩ := Except.bind_eq_ok.1 h
  obtain ⟨n, -, h⟩ := Except.bind_eq_ok.1 h
  obtain rfl := Except.ok.inj h
  have htext (s : String) (hs : '@' ∉ s.toList) : ¬ ShowsAddress (Json.print (.str s)) :=
    Json.not_showsAddress_quote hs
  have htime := htext time (at_notMem_stamp ht)
  have hlevel := htext (statusLevel n) (at_notMem_statusLevel n)
  have hkind := htext "API_REQUEST" (by decide)
  change ShowsAddress (String.ofList (Json.object _)).toList ↔ _
  rw [String.toList_ofList, Json.showsAddress_record (by simp [opening])]
  simp [opening, htime, hlevel, hkind]

end Log.Entry

namespace Api

open Program

variable {σ : Type} {stores : Stores σ} {s : σ} {m : Moment} {requestId : String} {r : Request}
  {response : Response}

lemma handle_lines {api : Api}
    (h : ((api.handle m requestId r).run stores s).result = .ok response) :
    ∃ userId status latency line, ((api.handle m requestId r).run stores s).lines =
      ((api.answer m requestId r).run stores s).lines ++ [line] ∧
      (Log.Entry.request (.str requestId) userId r.method r.path (.num status)
        (.num latency)).write m.wall = .ok line := by
  rw [handle, bind_eq] at h ⊢
  obtain ⟨⟨userId, answered⟩, hanswer, hlog⟩ := result_bind_eq_ok.1 h
  rw [run_bind_ok hanswer]
  simp only [bind_eq, log] at hlog ⊢
  split at hlog
  · rename_i line hline
    exact ⟨userId, _, _, line, rfl, hline⟩
  · cases hlog

/-- What is redacted shows no address; but the last line of every request that is answered shows
one exactly if the id of the request or of the user, the method or the path does as it is written,
and so it shows every address in the path. Over stores that write masked lines, all lines before the
last are masked, whatever the headers and the body hold. -/
theorem path_exposed (stores : Stores σ) (api : Api) (m : Moment) (requestId : String) (r : Request)
    (s : σ) (response : Response)
    (h : ((api.handle m requestId r).run stores s).result = .ok response) :
    (∀ text, ¬ ShowsAddress (Log.redactText text).toList) ∧
    ∃ userId line, ((api.handle m requestId r).run stores s).lines.getLast? = some line ∧
      (ShowsAddress line.text.toList ↔ ∃ v ∈ [.str requestId, userId, r.method, r.path],
        ShowsAddress (Json.print v)) ∧
      (∀ path, r.path = .str path → ShowsAddress path.toList → ShowsAddress line.text.toList) ∧
      ((∀ c s, ∀ l ∈ (stores c s).lines, l.Masked) →
        ∀ l ∈ ((api.handle m requestId r).run stores s).lines.dropLast, l.Masked) := by
  obtain ⟨userId, status, latency, line, hlines, hline⟩ := handle_lines h
  have hlast : ((api.handle m requestId r).run stores s).lines.getLast? = some line := by
    rw [hlines, List.getLast?_concat]
  have hshows := Log.Entry.showsAddress_request hline
  have hnumber (n : Number) : ¬ ShowsAddress (Json.print (.num n)) :=
    Log.not_showsAddress_of_notMem (Json.at_notMem_number n)
  have hexact : ShowsAddress line.text.toList ↔ ∃ v ∈ [.str requestId, userId, r.method, r.path],
      ShowsAddress (Json.print v) := by
    rw [hshows]
    simp [hnumber]
  refine ⟨Log.not_showsAddress_redactText, userId, line, hlast, hexact, fun path hpath h => ?_,
    fun hstores => ?_⟩
  · refine hexact.2 ⟨r.path, by simp, ?_⟩
    rw [hpath]
    exact Json.showsAddress_quote_of_showsAddress h
  · rw [hlines, List.dropLast_concat]
    exact (notes_answer api m requestId r).lines (fun _ _ _ he hl => he.masked hl) hstores s

def addressRequest : Request :=
  ⟨.obj [], .str "GET", .str "/users/ada@example.com/permissions", .null, false⟩

theorem path_exposed_unauthenticated : ∃ response line,
    ((sampleApi.handle Token.sampleMoment "request-1" addressRequest).run Memory.stores
      Session.sampleMemory).result = .ok response ∧ response.status = 401 ∧
    ((sampleApi.handle Token.sampleMoment "request-1" addressRequest).run Memory.stores
      Session.sampleMemory).lines.getLast? = some line ∧ ShowsAddress line.text.toList ∧
    ∀ l ∈ ((sampleApi.handle Token.sampleMoment "request-1" addressRequest).run Memory.stores
      Session.sampleMemory).lines.dropLast, l.Masked := by
  have hresult : ((sampleApi.handle Token.sampleMoment "request-1" addressRequest).run Memory.stores
      Session.sampleMemory).result = .ok _ := rfl
  have hdomain : Log.StartsDomain "example.com/permissions".toList :=
    ⟨"example".toList, "com".toList, "/permissions".toList, by decide +kernel, by decide +kernel,
      List.all_eq_true.1 (by decide +kernel), by decide +kernel,
      List.all_eq_true.1 (by decide +kernel)⟩
  have haddress : ShowsAddress "/users/ada@example.com/permissions".toList :=
    ⟨"/users/".toList, "ada".toList, "example.com/permissions".toList, by decide +kernel,
      by decide +kernel, List.all_eq_true.1 (by decide +kernel), hdomain⟩
  obtain ⟨-, -, line, hlast, -, hshows, hmasked⟩ :=
    path_exposed Memory.stores sampleApi Token.sampleMoment "request-1" addressRequest
      Session.sampleMemory _ hresult
  have hsilent (c : Call) (s : Memory) : ∀ l ∈ (Memory.stores c s).lines, l.Masked := by
    simp [Memory.stores_lines]
  exact ⟨_, line, hresult, rfl, hlast, hshows _ rfl haddress, hmasked hsilent⟩

end Api

end AuthGate
