import TokenAuth.Proofs.Renewals

/-!
No token serves two purposes. The header of a token names one kind, and every way to accept a token asks
for a kind of its own, so not even with one key for both kinds is there a text that passes for an access
token in one place and for a refresh token in another.
-/
namespace TokenAuth

namespace Compact

variable {kind kind' : TokenKind} {key key' : SigningKey} {r : Reading} {t : SignedToken}

theorem tag_of_decode {c : Claims} (hr : r.Fits t.text.toList) (h : decode t kind key = .ok c) :
    r.header.kindTag = some kind.tag := by
  rw [decode_of_fits hr] at h
  by_contra htag
  simp [if_neg htag] at h

/-- The kind of a token that is accepted can be told from its text, whatever the keys are. -/
theorem kind_of_decode {c c' : Claims} (h : decode t kind key = .ok c)
    (h' : decode t kind' key' = .ok c') : kind = kind' := by
  obtain ⟨r, hr, -⟩ := accepted_of_decode h
  have htag := tag_of_decode hr h
  rw [tag_of_decode hr h', Option.some.injEq] at htag
  exact (TokenKind.tag_injective htag).symm

theorem decode_encode_of_ne {c : Claims} (hkind : c.kind ≠ kind) :
    decode (encode c key) kind key' = .error (.kindMismatch kind (some c.kind.tag)) := by
  have hother : checkKind (untrusted c key) kind =
      .error (.kindMismatch kind (some c.kind.tag)) := by
    refine if_neg fun htag => hkind ?_
    exact TokenKind.tag_injective (Option.some.inj htag)
  simp only [decode, read_encode, hother]

end Compact

/-- Neither the clock nor the keys have a part in how a token of another kind is refused. -/
theorem Issuer.verify_create_of_ne (g g' : Issuer) (i : Identity) (expires now : Instant)
    {kind kind' : TokenKind} (hkind : kind ≠ kind') :
    g'.verify now (g.create i expires kind) kind' =
      .error (.kindMismatch kind' (some kind.tag)) := by
  have hdecode : Compact.decode (g.create i expires kind) kind' (g'.keys.forKind kind') =
      .error (.kindMismatch kind' (some kind.tag)) :=
    Compact.decode_encode_of_ne (c := Claims.ofIdentity i expires kind) hkind
  simp only [verify, hdecode]

namespace Service.Server

open Text Headers

variable {s s' : Server} {x x' : String}

/-- Some request gets through the gate with this text as that of its bearer. -/
def AcceptsBearer (s : Server) (x : String) : Prop :=
  ∃ (r : Request) (i : Identity), r.headers.get? "authorization" = some (utf8 ("Bearer " ++ x)) ∧
    s.gate (pathOf r.target) r.headers = .ok (some i)

/-- Some request is answered with new tokens for this text. -/
def AcceptsRefresh (s : Server) (x : String) : Prop :=
  ∃ r : Request, r.headers.get? "x-refresh-token" = some (utf8 x) ∧
    pathOf r.target = Call.refreshToken.path ∧ (s.answer r).status = 200

theorem AcceptsBearer.verify (h : AcceptsBearer s x) :
    ∃ t v, SignedToken.ofText x = .ok t ∧ s.issuer.verify s.now t .access = .ok v := by
  obtain ⟨r, i, hvalue, hgate⟩ := h
  cases hpath : isBypassed (pathOf r.target) with
  | true =>
    rw [gate_of_bypassed s r.headers hpath] at hgate
    simp at hgate
  | false =>
    obtain ⟨i', -, value, t, v, hvalue', ⟨rest, hread, htrim⟩, hverify, -⟩ :=
      (gate_eq_ok_iff hpath).1 hgate
    rw [hvalue, Option.some.injEq] at hvalue'
    rw [← hvalue'] at hread
    have hrest : x.toList = rest := by
      have htext := readable?_eq_some hread
      rw [String.toList_append] at htext
      exact List.append_cancel_left htext
    rw [← hrest] at htrim
    exact ⟨t, v, SignedToken.ofText_eq_ok_iff.2 htrim, hverify⟩

theorem AcceptsRefresh.verify (h : AcceptsRefresh s x) :
    ∃ t v, SignedToken.ofText x = .ok t ∧ s.issuer.verify s.now t .refresh = .ok v := by
  obtain ⟨r, hvalue, hpath, hstatus⟩ := h
  obtain ⟨_, hok, -⟩ := refreshToken_of_status_ok hpath hstatus
  obtain ⟨t, v, hpresented, hverify, -⟩ := refreshToken_eq_ok hok
  obtain ⟨value, cs, hvalue', hread, htrim⟩ := refreshToken_eq_ok_iff.1 hpresented
  rw [hvalue, Option.some.injEq] at hvalue'
  rw [← hvalue'] at hread
  rw [← readable?_eq_some hread] at htrim
  exact ⟨t, v, SignedToken.ofText_eq_ok_iff.2 htrim, hverify⟩

/-- No text is a token of both kinds, whatever the keys; a token of the other kind than the one asked
for is refused as such and not for its signature or its age. So no text is taken for an access token at
the gate of one server and for a refresh token by another, be it the same server at another time. -/
theorem no_token_of_both_kinds :
    (∀ (t : SignedToken) (key key' : SigningKey) (c c' : Claims),
      ¬ (Compact.decode t .access key = .ok c ∧ Compact.decode t .refresh key' = .ok c')) ∧
    (∀ (g g' : Issuer) (i : Identity) (expires now : Instant) (kind kind' : TokenKind),
      kind ≠ kind' → g'.verify now (g.create i expires kind) kind' =
        .error (.kindMismatch kind' (some kind.tag))) ∧
    (∀ (s s' : Server) (x x' : String), trimmed x = trimmed x' →
      ¬ (AcceptsBearer s x ∧ AcceptsRefresh s' x')) := by
  refine ⟨?_, ?_, ?_⟩
  · rintro t key key' c c' ⟨haccess, hrefresh⟩
    exact absurd (Compact.kind_of_decode haccess hrefresh) (by decide)
  · intro g g' i expires now kind kind' hkind
    exact g.verify_create_of_ne g' i expires now hkind
  · rintro s s' x x' hsame ⟨hbearer, hrefresh⟩
    obtain ⟨t, v, hx, hverify⟩ := hbearer.verify
    obtain ⟨t', v', hx', hverify'⟩ := hrefresh.verify
    -- Blanks aside, the two texts are one and the same token.
    have htoken : SignedToken.ofText x' = .ok t := by
      rw [SignedToken.ofText_eq_ok_iff] at hx ⊢
      rw [← hx, ← String.ofList_inj]
      exact hsame.symm
    rw [htoken, Except.ok.injEq] at hx'
    rw [← hx'] at hverify'
    obtain ⟨c, hdecode, -⟩ := Issuer.verify_eq_ok_iff.1 hverify
    obtain ⟨c', hdecode', -⟩ := Issuer.verify_eq_ok_iff.1 hverify'
    exact absurd (Compact.kind_of_decode hdecode hdecode') (by decide)

theorem acceptsBearer_sampleToken : AcceptsBearer sample sampleToken.text := by
  refine ⟨callWith .logoutUser "Authorization" sampleValue, sampleUser,
    get?_callWith _ _ (by decide), ?_⟩
  exact (gate_eq_ok_iff (by decide)).2 ⟨_, rfl, admits_sampleValue⟩

theorem acceptsRefresh_sampleRefresh : AcceptsRefresh sample sampleRefresh.text := by
  have hok := refreshToken_of_verify refreshToken_sampleRenewal verify_sampleRefresh rfl rfl
  exact ⟨sampleRenewal, get?_callWith _ _ (by decide), rfl, (handsOut_of_refresh rfl rfl hok).2.1⟩

/-- With one server for both, each token is good in its own place and refused in the other's. -/
theorem no_token_of_both_kinds_sample :
    TokenKind.access ≠ .refresh ∧
      sample.issuer.verify sample.now sampleToken .refresh =
        .error (.kindMismatch .refresh (some "access-tkn")) ∧
      AcceptsBearer sample sampleToken.text ∧ ¬ AcceptsRefresh sample sampleToken.text ∧
      AcceptsRefresh sample sampleRefresh.text ∧ ¬ AcceptsBearer sample sampleRefresh.text := by
  obtain ⟨-, hmismatch, hone⟩ := no_token_of_both_kinds
  refine ⟨by decide, hmismatch _ _ _ _ _ .access .refresh (by decide), acceptsBearer_sampleToken,
    ?_, acceptsRefresh_sampleRefresh, ?_⟩
  · intro hrefresh
    exact hone sample sample _ _ rfl ⟨acceptsBearer_sampleToken, hrefresh⟩
  · intro hbearer
    exact hone sample sample _ _ rfl ⟨hbearer, acceptsRefresh_sampleRefresh⟩

end Service.Server

end TokenAuth
