import TokenAuth.Proofs.Lifetimes
import TokenAuth.Proofs.TokenVerdicts

/-!
Refreshing. Whoever presents a refresh token that is good gets an access token, and the refresh token
comes back as it is while there is time left on it; otherwise a new one comes in its place that lasts
longer. Under a policy that the service starts with, what comes back is never due for renewal itself.
-/
namespace TokenAuth

namespace Compact

/-- A token that is accepted can travel in a header, whoever has made it. -/
theorem isPrintable_of_decode {t : SignedToken} {kind : TokenKind} {key : SigningKey} {c : Claims}
    (h : decode t kind key = .ok c) {x : Char} (hx : x ∈ t.text.toList) :
    Service.Headers.IsPrintable x := by
  obtain ⟨r, hr, haccepted⟩ := accepted_of_decode h
  obtain ⟨header, hsigned, -⟩ := hr.signed_eq
  rw [hr.text_eq, hsigned, haccepted.code_eq] at hx
  simp only [List.mem_append, List.mem_cons] at hx
  rcases hx with (hx | rfl | hx) | rfl | hx
  · exact isPrintable_of_mem_segment hx
  · exact Service.Headers.isPrintable_dot
  · exact isPrintable_of_mem_segment hx
  · exact Service.Headers.isPrintable_dot
  · exact isPrintable_of_mem_segment hx

end Compact

namespace Service.Server

open Text Headers CommandLine

variable {s : Server} {r : Request} {h : Headers} {presented : SignedToken} {v : VerifiedToken}
  {access refresh : Instant}

/-- The refresh token that is handed out. -/
def handedBack (s : Server) (presented : SignedToken) (v : VerifiedToken) (refresh : Instant) :
    SignedToken :=
  if v.remaining s.now < s.issuer.policy.renewalThreshold then
    s.issuer.create v.identity refresh.floor .refresh
  else presented

theorem refreshToken_of_verify (hpresented : h.refreshToken = .ok presented)
    (hverify : s.issuer.verify s.now presented .refresh = .ok v)
    (haccess : s.now.add? s.issuer.policy.accessLifetime = some access)
    (hrefresh : s.now.add? s.issuer.policy.refreshLifetime = some refresh) :
    s.refreshToken h =
      .ok (tokens ⟨s.issuer.create v.identity access.floor .access, access.floor⟩
        (s.handedBack presented v refresh)) := by
  refine refreshToken_ok_iff.2 ⟨presented, v, access, _, hpresented, hverify, ?_, haccess, rfl⟩
  rw [renewed_eq_ok_iff]
  by_cases hdue : v.remaining s.now < s.issuer.policy.renewalThreshold
  · exact Or.inl ⟨hdue, refresh, hrefresh, if_pos hdue⟩
  · exact Or.inr ⟨hdue, if_neg hdue⟩

theorem handedBack_of_due (hdue : v.remaining s.now < s.issuer.policy.renewalThreshold) :
    s.handedBack presented v refresh = s.issuer.create v.identity refresh.floor .refresh := if_pos hdue

theorem handedBack_of_left (hleft : s.issuer.policy.renewalThreshold ≤ v.remaining s.now) :
    s.handedBack presented v refresh = presented := if_neg (Std.not_lt.2 hleft)

theorem verify_of_due (hpolicy : s.issuer.policy.InMinutes)
    (hrefresh : s.now.add? s.issuer.policy.refreshLifetime = some refresh)
    (hdue : v.remaining s.now < s.issuer.policy.renewalThreshold) :
    s.issuer.verify s.now (s.handedBack presented v refresh) .refresh =
      .ok ⟨v.identity, refresh.floor⟩ := by
  have hgood : s.now < refresh.wholeSecond := hpolicy.lt_expiry .refresh hrefresh
  have hlate : ¬ refresh.wholeSecond < s.now := Std.not_gt_of_lt hgood
  rw [handedBack_of_due hdue, Issuer.verify_create, refresh.wholeSecond_floor, if_neg hlate,
    hpolicy.floor_refresh hrefresh]

/-- What is handed out is good and not due for renewal, and it speaks for the same identity. -/
theorem verify_handedBack (hpolicy : s.issuer.policy.InMinutes)
    (hverify : s.issuer.verify s.now presented .refresh = .ok v)
    (hrefresh : s.now.add? s.issuer.policy.refreshLifetime = some refresh) :
    ∃ v', s.issuer.verify s.now (s.handedBack presented v refresh) .refresh = .ok v' ∧
      v'.identity = v.identity ∧ s.issuer.policy.renewalThreshold ≤ v'.remaining s.now := by
  by_cases hdue : v.remaining s.now < s.issuer.policy.renewalThreshold
  · refine ⟨_, verify_of_due hpolicy hrefresh hdue, rfl, ?_⟩
    rw [VerifiedToken.remaining, hpolicy.floor_refresh hrefresh]
    exact hpolicy.threshold_le_since hrefresh
  · have hleft := Std.not_lt.1 hdue
    rw [handedBack_of_left hleft]
    exact ⟨v, hverify, rfl, hleft⟩

/-- A refresh succeeds if and only if the token that is presented is good. The token comes back as it
is if enough of its time is left, and as a new one with a later expiry otherwise. In both cases what
comes back is for the same identity and stays the same if it is presented at the same instant. -/
theorem refresh_renews {values : Values} {c : Configuration}
    (hconfigure : Run.configure values = .ok c) (hpolicy : s.issuer.policy = c.issuer.policy)
    (haccess : (s.now.add? s.issuer.policy.accessLifetime).isSome)
    (hrefresh : (s.now.add? s.issuer.policy.refreshLifetime).isSome)
    (hmethod : r.method = "POST") (hpath : pathOf r.target = Call.refreshToken.path)
    (hpresented : r.headers.refreshToken = .ok presented) :
    ((s.answer r).status = 200 ↔ ∃ v, s.issuer.verify s.now presented .refresh = .ok v) ∧
    ∀ v, s.issuer.verify s.now presented .refresh = .ok v →
      ∃ t e, HandsOut s r t ∧ s.now.add? s.issuer.policy.refreshLifetime = some e ∧
        (s.issuer.policy.renewalThreshold ≤ v.remaining s.now → t.refreshToken = presented) ∧
        (v.remaining s.now < s.issuer.policy.renewalThreshold →
          t.refreshToken = s.issuer.create v.identity e.floor .refresh ∧
          s.issuer.verify s.now t.refreshToken .refresh = .ok ⟨v.identity, e.floor⟩ ∧
          v.expires < e.floor) ∧
        (∃ v', s.issuer.verify s.now t.refreshToken .refresh = .ok v' ∧
          v'.identity = v.identity ∧ s.issuer.policy.renewalThreshold ≤ v'.remaining s.now) ∧
        (∀ r' : Request, r'.method = "POST" → pathOf r'.target = Call.refreshToken.path →
          r'.headers.get? "x-refresh-token" = some (utf8 t.refreshToken.text) →
          ∃ t', HandsOut s r' t' ∧ t'.refreshToken = t.refreshToken) ∧
        ∃ e', SpeaksFor s.issuer t.accessToken .access v.identity e' ∧ s.now < e' := by
  have hminutes : s.issuer.policy.InMinutes := by
    rw [hpolicy]
    exact Run.inMinutes_of_configure hconfigure
  obtain ⟨access, haccess⟩ := Option.isSome_iff_exists.1 haccess
  obtain ⟨refresh, hrefresh⟩ := Option.isSome_iff_exists.1 hrefresh
  have hhands : ∀ v, s.issuer.verify s.now presented .refresh = .ok v → HandsOut s r
      (tokens ⟨s.issuer.create v.identity access.floor .access, access.floor⟩
        (s.handedBack presented v refresh)) := fun v hverify =>
    handsOut_of_refresh hpath hmethod (refreshToken_of_verify hpresented hverify haccess hrefresh)
  refine ⟨⟨?_, ?_⟩, ?_⟩
  · intro hstatus
    obtain ⟨t, hok, -⟩ := refreshToken_of_status_ok hpath hstatus
    obtain ⟨presented', v, hpresented', hverify, -⟩ := refreshToken_eq_ok hok
    rw [hpresented, Except.ok.injEq] at hpresented'
    rw [← hpresented'] at hverify
    exact ⟨v, hverify⟩
  · rintro ⟨v, hverify⟩
    exact (hhands v hverify).2.1
  · intro v hverify
    refine ⟨_, refresh, hhands v hverify, hrefresh, ?_, ?_, ?_, ?_, ?_⟩
    · exact handedBack_of_left
    · intro hdue
      refine ⟨handedBack_of_due hdue, verify_of_due hminutes hrefresh hdue, ?_⟩
      rw [hminutes.floor_refresh hrefresh]
      exact hminutes.lt_of_due hrefresh hdue
    · exact verify_handedBack hminutes hverify hrefresh
    · -- What has been handed out is presented again.
      intro r' hmethod' hpath' hvalue
      obtain ⟨v', hverify', -, hleft⟩ := verify_handedBack hminutes hverify hrefresh
      obtain ⟨c', hdecode, -⟩ := Issuer.verify_eq_ok_iff.1 hverify'
      have hpresented' := refreshToken_of_printable _ hvalue
        fun _ => Compact.isPrintable_of_decode hdecode
      have hok := refreshToken_of_verify hpresented' hverify' haccess hrefresh
      exact ⟨_, handsOut_of_refresh hpath' hmethod' hok, handedBack_of_left hleft⟩
    · refine ⟨access.wholeSecond, ?_, hminutes.lt_expiry .access haccess⟩
      rw [← access.wholeSecond_floor]
      exact speaksFor_create _ _ _ _

/-- Options that the service starts with, with the standard policy. -/
def sampleValues : Values := [("access-token-key", "access"), ("refresh-token-key", "refresh")]

theorem configure_sampleValues :
    ∃ c, Run.configure sampleValues = .ok c ∧ sample.issuer.policy = c.issuer.policy :=
  ⟨_, rfl, rfl⟩

/-- A refresh token that expires at this instant. -/
def sampleRefresh : SignedToken := sample.issuer.create sampleUser sample.now .refresh

def sampleRenewal : Request := callWith .refreshToken "X-Refresh-Token" (utf8 sampleRefresh.text)

theorem refreshToken_sampleRenewal : sampleRenewal.headers.refreshToken = .ok sampleRefresh :=
  refreshToken_of_printable _ (get?_callWith _ _ (by decide))
    fun _ => Compact.isPrintable_of_mem_encode

theorem verify_sampleRefresh :
    sample.issuer.verify sample.now sampleRefresh .refresh = .ok ⟨sampleUser, sample.now⟩ := by
  rw [sampleRefresh, Issuer.verify_create]
  exact if_neg (by decide)

/-- The token has no time left, and the one that comes in its place has. -/
theorem refresh_renews_sample :
    ∃ c, Run.configure sampleValues = .ok c ∧ sample.issuer.policy = c.issuer.policy ∧
      sampleRenewal.headers.refreshToken = .ok sampleRefresh ∧
      (sample.answer sampleRenewal).status = 200 ∧
      ∃ t e, HandsOut sample sampleRenewal t ∧
        t.refreshToken = sample.issuer.create sampleUser e .refresh ∧ sample.now < e := by
  obtain ⟨c, hconfigure, hpolicy⟩ := configure_sampleValues
  obtain ⟨hstatus, hrenews⟩ := refresh_renews hconfigure hpolicy (by decide) (by decide) rfl rfl
    refreshToken_sampleRenewal
  obtain ⟨t, e, hands, -, -, hdue, -⟩ := hrenews _ verify_sampleRefresh
  obtain ⟨hmade, -, hlater⟩ := hdue (by decide)
  exact ⟨c, hconfigure, hpolicy, refreshToken_sampleRenewal,
    hstatus.2 ⟨_, verify_sampleRefresh⟩, t, e.floor, hands, hmade, hlater⟩

end Service.Server

end TokenAuth
