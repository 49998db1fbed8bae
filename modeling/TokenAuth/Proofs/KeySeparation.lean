import TokenAuth.Proofs.KindIsolation

/-!
Each kind of token is a matter of its own key. Issuers and servers are compared that have one key in
common and may differ in the other. With the access key in common, no request behind the gate tells the
servers apart; with the refresh key in common, they refresh alike, and what comes back to refresh with is
the same text. Both hold on all along, whatever steps the two servers take together.
-/
namespace TokenAuth

/-- The issuers have the policy and the key of this kind in common. -/
structure Issuer.AgreeOn (kind : TokenKind) (g g' : Issuer) : Prop where
  key : g'.keys.forKind kind = g.keys.forKind kind
  policy : g'.policy = g.policy

namespace Issuer.AgreeOn

variable {g g' : Issuer} {kind : TokenKind}

theorem create (h : AgreeOn kind g g') (i : Identity) (expires : Instant) :
    g'.create i expires kind = g.create i expires kind := by
  simp only [Issuer.create, h.key]

theorem verify (h : AgreeOn kind g g') (now : Instant) (t : SignedToken) :
    g'.verify now t kind = g.verify now t kind := by
  simp only [Issuer.verify, h.key]

theorem issue (h : AgreeOn kind g g') (now : Instant) (i : Identity) :
    g'.issue now i kind = g.issue now i kind := by
  simp only [Issuer.issue, h.policy, h.create]

end Issuer.AgreeOn

namespace Service.Server

open Text Headers

variable {s s' : Server} {kind : TokenKind} {r : Request} {h : Headers} {t t' : Tokens}

/-- But for the key of the other kind, the servers are the same. -/
structure AgreeOn (kind : TokenKind) (s s' : Server) : Prop where
  issuer : Issuer.AgreeOn kind s.issuer s'.issuer
  store : s'.store = s.store
  now : s'.now = s.now

namespace AgreeOn

/-- No step makes use of a key but to answer a request. -/
theorem step (hagree : AgreeOn kind s s') (x : Step) :
    AgreeOn kind (s.step x).1 (s'.step x).1 := by
  cases x with
  | add u =>
    simp only [Server.step, hagree.store]
    cases s.store.add u with
    | error e => exact hagree
    | ok p => exact ⟨hagree.issuer, rfl, hagree.now⟩
  | insert id? name email hash created =>
    simp only [Server.step, hagree.store]
    cases s.store.insert id? name email hash created with
    | error e => exact hagree
    | ok p => exact ⟨hagree.issuer, rfl, hagree.now⟩
  | setClock t => exact ⟨hagree.issuer, hagree.store, rfl⟩
  | closeStore => exact ⟨hagree.issuer, congrArg Store.close hagree.store, hagree.now⟩
  | request r => exact hagree

theorem run (hagree : AgreeOn kind s s') (steps : List Step) :
    AgreeOn kind (s.run steps) (s'.run steps) := by
  induction steps generalizing s s' with
  | nil => exact hagree
  | cons x xs ih => exact ih (hagree.step x)

theorem issue (hagree : AgreeOn kind s s') (i : Identity) : s'.issue i kind = s.issue i kind := by
  simp only [Server.issue, hagree.issuer.issue, hagree.now]

theorem gate (hagree : AgreeOn .access s s') (path : List Char) (h : Headers) :
    s'.gate path h = s.gate path h := by
  simp only [Server.gate, hagree.issuer.verify, hagree.now]

/-- Behind the gate no key is used any more. -/
theorem answer_of_guarded (hagree : AgreeOn .access s s')
    (hpath : isBypassed (pathOf r.target) = false) : s'.answer r = s.answer r := by
  have hgate := hagree.gate (pathOf r.target) r.headers
  cases hverdict : s.gate (pathOf r.target) r.headers with
  | error e => rw [answer_of_gate_error hverdict, answer_of_gate_error (hgate.trans hverdict)]
  | ok who =>
    obtain ⟨i, rfl, -⟩ := (gate_eq_ok_iff hpath).1 hverdict
    rw [answer_of_gate_ok hverdict, answer_of_gate_ok (hgate.trans hverdict),
      route_of_not_bypassed hpath, route_of_not_bypassed hpath]

theorem renewed (hagree : AgreeOn .refresh s s') (presented : SignedToken) (v : VerifiedToken) :
    s'.renewed presented v = s.renewed presented v := by
  simp only [Server.renewed, hagree.issuer.policy, hagree.now, hagree.issue]

end AgreeOn

/-- The tokens differ in who has signed the access token, and in nothing else. -/
structure SameButAccess (g g' : Issuer) (t t' : Tokens) : Prop where
  tokenType : t'.tokenType = t.tokenType
  access : ∃ i e, t.accessToken = g.create i e .access ∧ t'.accessToken = g'.create i e .access
  expiresIn : t'.expiresIn = t.expiresIn
  refreshToken : t'.refreshToken = t.refreshToken

theorem sameButAccess_tokens (g g' : Issuer) (i : Identity) (e : Instant) (refresh : SignedToken) :
    SameButAccess g g' (tokens ⟨g.create i e .access, e⟩ refresh)
      (tokens ⟨g'.create i e .access, e⟩ refresh) where
  -- Not by `rfl`, which would compare the two signatures.
  tokenType := by simp only [tokens]
  access := ⟨i, e, rfl, rfl⟩
  expiresIn := by simp only [tokens]
  refreshToken := by simp only [tokens]

/-- Whichever the kind, the two issue tokens to the same effect. -/
theorem AgreeOn.issue_any (hagree : AgreeOn kind s s') (i : Identity) (k : TokenKind) :
    (s.issue i k = .error .tokenCreationFailed ∧ s'.issue i k = .error .tokenCreationFailed) ∨
      ∃ e, s.issue i k = .ok ⟨s.issuer.create i e k, e⟩ ∧
        s'.issue i k = .ok ⟨s'.issuer.create i e k, e⟩ := by
  simp only [Server.issue, Issuer.issue, Issuer.expiry, hagree.issuer.policy, hagree.now]
  cases s.now.add? (s.issuer.policy.lifetime k) with
  | none => exact Or.inl ⟨rfl, rfl⟩
  | some e => exact Or.inr ⟨e.floor, rfl, rfl⟩

theorem AgreeOn.refreshToken (hagree : AgreeOn .refresh s s') (h : Headers) :
    (∃ e, s.refreshToken h = .error e ∧ s'.refreshToken h = .error e) ∨
      ∃ t t', s.refreshToken h = .ok t ∧ s'.refreshToken h = .ok t' ∧
        SameButAccess s.issuer s'.issuer t t' := by
  cases hpresented : h.refreshToken with
  | error e => exact Or.inl ⟨e, by simp only [Server.refreshToken, hpresented], by
      simp only [Server.refreshToken, hpresented]⟩
  | ok presented =>
    have hsame := hagree.issuer.verify s.now presented
    simp only [Server.refreshToken, hpresented, hagree.now, hsame, hagree.renewed]
    cases s.issuer.verify s.now presented .refresh with
    | error e => exact Or.inl ⟨.tokenInvalid, rfl, rfl⟩
    | ok v =>
      dsimp only
      cases s.renewed presented v with
      | error e => exact Or.inl ⟨.tokenCreationFailed, rfl, rfl⟩
      | ok refresh =>
        rcases hagree.issue_any v.identity .access with ⟨hissue, hissue'⟩ | ⟨e, hissue, hissue'⟩
        · rw [hissue, hissue']
          exact Or.inl ⟨.tokenCreationFailed, rfl, rfl⟩
        · rw [hissue, hissue']
          exact Or.inr ⟨_, _, rfl, rfl, sameButAccess_tokens _ _ _ _ _⟩

/-- Either both refuse, and in the same words, or both hand out tokens. -/
theorem AgreeOn.answer_of_refresh (hagree : AgreeOn .refresh s s')
    (hpath : pathOf r.target = Call.refreshToken.path) :
    ((s.answer r).status ≠ 200 ∧ s'.answer r = s.answer r) ∨
      ∃ t t', HandsOut s r t ∧ HandsOut s' r t' ∧ SameButAccess s.issuer s'.issuer t t' := by
  by_cases hmethod : r.method = "POST"
  · rcases hagree.refreshToken r.headers with ⟨e, herror, herror'⟩ | ⟨t, t', hok, hok', hsame⟩
    · rw [answer_of_post (c := .refreshToken) (by decide) hpath hmethod,
        answer_of_post (c := .refreshToken) (by decide) hpath hmethod]
      simp only [handle, herror, herror']
      exact Or.inl ⟨e.status_ne_ok, trivial⟩
    · exact Or.inr ⟨t, t', handsOut_of_refresh hpath hmethod hok,
        handsOut_of_refresh hpath hmethod hok', hsame⟩
  · have hpass : isBypassed (pathOf r.target) = true :=
      isBypassed_eq_true_iff.2 ⟨.refreshToken, by decide, hpath⟩
    rw [answer_of_gate_ok (gate_of_bypassed s r.headers hpass),
      answer_of_gate_ok (gate_of_bypassed s' r.headers hpass)]
    simp only [route, hpath, ofPath?_path, if_neg hmethod, finishResponse_status]
    exact Or.inl ⟨by decide, trivial⟩

/-- Issuers with the key of one kind in common make and judge tokens of this kind alike, whatever their
other keys are. Servers with the access key in common answer all requests alike that are not let pass at
the gate; servers with the refresh key in common refuse a refresh for the same requests and in the same
words, and otherwise give the same refresh token back, and for the same identity and the same time an
access token each. It makes no difference which steps both have taken before. -/
theorem keys_separate :
    (∀ (g g' : Issuer) (kind : TokenKind), Issuer.AgreeOn kind g g' → ∀ now i expires t,
      g'.create i expires kind = g.create i expires kind ∧
      g'.verify now t kind = g.verify now t kind ∧ g'.issue now i kind = g.issue now i kind) ∧
    (∀ s s' : Server, AgreeOn .access s s' → ∀ (steps : List Step) (r : Request),
      (∀ c ∈ Call.bypassed, pathOf r.target ≠ c.path) →
        (s'.run steps).answer r = (s.run steps).answer r) ∧
    (∀ s s' : Server, AgreeOn .refresh s s' → ∀ (steps : List Step) (r : Request),
      pathOf r.target = Call.refreshToken.path →
      ((s'.run steps).answer r).status = ((s.run steps).answer r).status ∧
      (((s.run steps).answer r).status ≠ 200 →
        (s'.run steps).answer r = (s.run steps).answer r) ∧
      ∀ t, HandsOut (s.run steps) r t →
        ∃ t', HandsOut (s'.run steps) r t' ∧ SameButAccess s.issuer s'.issuer t t') := by
  refine ⟨?_, ?_, ?_⟩
  · intro g g' kind hagree now i expires t
    exact ⟨hagree.create i expires, hagree.verify now t, hagree.issue now i⟩
  · intro s s' hagree steps r hpath
    exact (hagree.run steps).answer_of_guarded (isBypassed_eq_false_iff.2 hpath)
  · intro s s' hagree steps r hpath
    rcases (hagree.run steps).answer_of_refresh hpath with
      ⟨hrefused, hsame⟩ | ⟨t, t', hands, hands', hsame⟩
    · refine ⟨congrArg Response.status hsame, fun _ => hsame, ?_⟩
      intro t hands
      exact absurd hands.2.1 hrefused
    · refine ⟨hands'.2.1.trans hands.2.1.symm, fun hrefused => absurd hands.2.1 hrefused, ?_⟩
      intro t₀ hands₀
      rw [run_issuer, run_issuer] at hsame
      rw [hands₀.unique hands]
      exact ⟨t', hands', hsame⟩

/-- The server with other keys. -/
def rekeyed (s : Server) (keys : Keys) : Server := { s with issuer := ⟨keys, s.issuer.policy⟩ }

def otherRefresh : Server := sample.rekeyed ⟨sample.issuer.keys.access, Compact.sampleKey⟩

def otherAccess : Server := sample.rekeyed ⟨Compact.sampleKey, sample.issuer.keys.refresh⟩

/-- With another refresh key the first user still gets through the gate, and with another access key a
refresh still gives the same token back. -/
theorem keys_separate_sample :
    otherRefresh.issuer.keys.refresh.text ≠ sample.issuer.keys.refresh.text ∧
    AgreeOn .access sample otherRefresh ∧
    otherRefresh.answer (callWith .logoutUser "Authorization" sampleValue) =
      sample.answer (callWith .logoutUser "Authorization" sampleValue) ∧
    otherAccess.issuer.keys.access.text ≠ sample.issuer.keys.access.text ∧
    AgreeOn .refresh sample otherAccess ∧
    ∃ t t', HandsOut sample sampleRenewal t ∧ HandsOut otherAccess sampleRenewal t' ∧
      t'.refreshToken = t.refreshToken := by
  obtain ⟨-, haccess, hrefresh⟩ := keys_separate
  have hagree : AgreeOn .access sample otherRefresh := ⟨⟨rfl, rfl⟩, rfl, rfl⟩
  have hagree' : AgreeOn .refresh sample otherAccess := ⟨⟨rfl, rfl⟩, rfl, rfl⟩
  obtain ⟨t, hands⟩ : ∃ t, HandsOut sample sampleRenewal t :=
    ⟨_, handsOut_of_refresh rfl rfl
      (refreshToken_of_verify refreshToken_sampleRenewal verify_sampleRefresh rfl rfl)⟩
  obtain ⟨-, -, hsame⟩ := hrefresh sample otherAccess hagree' [] sampleRenewal rfl
  obtain ⟨t', hands', hsame'⟩ := hsame t hands
  refine ⟨by decide, hagree, ?_, by decide, hagree', t, t', hands, hands', hsame'.refreshToken⟩
  exact haccess sample otherRefresh hagree [] _ (by decide)

end Service.Server

end TokenAuth
