import TokenAuth.Proofs.KindIsolation

/-!
When a token is good. A token is refused for one reason at all times, or it is good up to the instant of
its expiry and expired from then on. Expiries are whole seconds, in whichever format the claims are
written, and whether a token has expired is asked only after everything else has been found right.
-/
namespace TokenAuth

namespace Cbor

/-- What every item keeps, the items of an array or map keep together. -/
theorem readItems_keeps {σ : Type} {item : σ → List UInt8 → Option (σ × List UInt8)} {P : σ → Prop}
    (hitem : ∀ s bs s' r, P s → item s bs = some (s', r) → P s') {fuel : Nat} {n : Option Nat}
    {s s' : σ} {bs r : List UInt8} (hs : P s) (h : readItems item fuel n s bs = some (s', r)) :
    P s' := by
  -- Cases 3 and 4 are about items of a given number, those after them about items up to a break.
  fun_induction readItems item fuel n s bs with
  | case1 =>
    rw [← (Prod.mk.inj (Option.some.inj h)).1]
    exact hs
  | case2 => simp at h
  | case3 => simp at h
  | case4 fuel n s bs s₁ r₁ hfirst ih => exact ih (hitem _ _ _ _ hs hfirst) h
  | case5 => simp at h
  | case6 =>
    rw [← (Prod.mk.inj (Option.some.inj h)).1]
    exact hs
  | case7 => simp at h
  | case8 fuel s bs head r hhead hbreak s₁ r₁ hfirst ih => exact ih (hitem _ _ _ _ hs hfirst) h

end Cbor

namespace ClaimsFormat

variable {f : ClaimsFormat} {bs : List UInt8} {d d' : Draft}

/-- The instants read so far are whole seconds. -/
def Draft.InSeconds (d : Draft) : Prop :=
  ∀ name t, d.times.lookup name = some t → t.nanos = 0

theorem Draft.empty_inSeconds : empty.InSeconds := by
  intro name t h
  simp [empty] at h

theorem Draft.InSeconds.addTime (hd : d.InSeconds) {name : String} {n : Int}
    (h : d.addTime name (Instant.ofSeconds? n) = some d') : d'.InSeconds := by
  unfold Draft.addTime at h
  split at h
  · simp at h
  · obtain ⟨t, ht, rfl⟩ := Option.map_eq_some_iff.1 h
    intro asked t' hfound
    rw [List.lookup_cons] at hfound
    split at hfound
    · rw [← Option.some.inj hfound]
      exact (Instant.ofParts?_eq_some ht).2
    · exact hd asked t' hfound

theorem Draft.InSeconds.addEntry (hd : d.InSeconds) {e : String × Content}
    (h : addEntry d e = some d') : d'.InSeconds := by
  obtain ⟨name, c⟩ := e
  unfold ClaimsFormat.addEntry at h
  split at h
  · cases hc : timeOf? c with
    | none => simp [Draft.addTime, hc] at h
    | some t =>
      obtain ⟨n, hn⟩ : ∃ n, timeOf? c = Instant.ofSeconds? n := by
        unfold timeOf? at hc ⊢
        split at hc
        · exact ⟨_, rfl⟩
        · exact ⟨_, rfl⟩
        · simp at hc
      rw [hn] at h
      exact hd.addTime h
  · rw [← Option.some.inj h]
    exact hd

theorem Draft.InSeconds.foldlM (hd : d.InSeconds) {es : List (String × Content)}
    (h : es.foldlM ClaimsFormat.addEntry d = some d') : d'.InSeconds := by
  induction es generalizing d with
  | nil =>
    rw [← Option.some.inj h]
    exact hd
  | cons e es ih =>
    rw [List.foldlM_cons] at h
    obtain ⟨d₁, hfirst, hrest⟩ := Option.bind_eq_some_iff.1 h
    exact ih (hd.addEntry hfirst) hrest

theorem Draft.InSeconds.readCborMember (hd : d.InSeconds) {r : List UInt8}
    (h : readCborMember d bs = some (d', r)) : d'.InSeconds := by
  unfold ClaimsFormat.readCborMember at h
  obtain ⟨⟨name, bs₁⟩, -, h⟩ := Option.bind_eq_some_iff.1 h
  dsimp only at h
  split at h
  · obtain ⟨⟨n, bs₂⟩, -, h⟩ := Option.bind_eq_some_iff.1 h
    obtain ⟨d₁, hadd, h⟩ := Option.bind_eq_some_iff.1 h
    rw [← (Prod.mk.inj (Option.some.inj h)).1]
    exact hd.addTime hadd
  · obtain ⟨⟨c, bs₂⟩, -, h⟩ := Option.bind_eq_some_iff.1 h
    rw [← (Prod.mk.inj (Option.some.inj h)).1]
    exact hd

theorem inSeconds_of_draft? (h : f.draft? bs = some d) : d.InSeconds := by
  cases f with
  | json =>
    obtain ⟨s, -, h⟩ := Option.bind_eq_some_iff.1 h
    obtain ⟨es, -, h⟩ := Option.bind_eq_some_iff.1 h
    exact Draft.empty_inSeconds.foldlM h
  | cbor =>
    obtain ⟨p, -, h⟩ := Option.bind_eq_some_iff.1 h
    split at h
    · obtain ⟨⟨d₁, r⟩, hitems, rfl⟩ := Option.map_eq_some_iff.1 h
      exact Cbor.readItems_keeps (P := Draft.InSeconds)
        (fun _ _ _ _ hs => hs.readCborMember) Draft.empty_inSeconds hitems
    · simp at h

/-- No fraction of a second is read. -/
theorem nanos_of_read {c : UntrustedClaims} {e : Instant} (h : f.read bs = some c)
    (he : c.expires = some e) : e.nanos = 0 := by
  rw [read_eq_finish] at h
  obtain ⟨d, hd, hfinish⟩ := Option.bind_eq_some_iff.1 h
  obtain ⟨body, -, rfl⟩ := Option.map_eq_some_iff.1 hfinish
  exact inSeconds_of_draft? hd "exp" e he

end ClaimsFormat

namespace Compact

variable {t : SignedToken} {kind : TokenKind} {key : SigningKey}

theorem CodeVerdict.ne_expired {r : Reading} {result : Except TokenError Claims}
    (h : CodeVerdict kind key r result) : result ≠ .error .expired := by
  cases h <;> simp

/-- Reading a token does not ask for its age. -/
theorem decode_ne_expired (t : SignedToken) (kind : TokenKind) (key : SigningKey) :
    decode t kind key ≠ .error .expired := by
  have hverdict := verdict_decode t kind key
  generalize decode t kind key = result at hverdict
  cases hverdict with
  | unreadable => simp
  | otherKind => simp
  | ofKind _ _ h => exact h.ne_expired

theorem nanos_of_decode {c : Claims} (h : decode t kind key = .ok c) : c.expires.nanos = 0 := by
  obtain ⟨r, -, haccepted⟩ := accepted_of_decode h
  exact ClaimsFormat.nanos_of_read haccepted.claims_eq rfl

end Compact

namespace Issuer

variable {g : Issuer} {t : SignedToken} {kind : TokenKind} {now : Instant}

theorem verify_of_decode_error {e : TokenError}
    (h : Compact.decode t kind (g.keys.forKind kind) = .error e) (now : Instant) :
    g.verify now t kind = .error e := by
  simp only [verify, h]

theorem verify_of_decode {c : Claims} (h : Compact.decode t kind (g.keys.forKind kind) = .ok c)
    (now : Instant) : g.verify now t kind =
      if c.expires < now then .error .expired else .ok ⟨c.body.user, c.expires⟩ := by
  simp only [verify, h]

/-- Only what has been found right in everything else has expired. -/
theorem verify_eq_expired_iff : g.verify now t kind = .error .expired ↔
    ∃ c, Compact.decode t kind (g.keys.forKind kind) = .ok c ∧ c.expires < now := by
  constructor
  · intro h
    cases hdecode : Compact.decode t kind (g.keys.forKind kind) with
    | error e =>
      rw [verify_of_decode_error hdecode, Except.error.injEq] at h
      rw [h] at hdecode
      exact absurd hdecode (Compact.decode_ne_expired _ _ _)
    | ok c =>
      rw [verify_of_decode hdecode] at h
      split at h
      · next hlate => exact ⟨c, rfl, hlate⟩
      · simp at h
  · rintro ⟨c, hdecode, hlate⟩
    rw [verify_of_decode hdecode, if_pos hlate]

theorem verify_earlier {v : VerifiedToken} {earlier : Instant} (h : g.verify now t kind = .ok v)
    (hle : earlier ≤ now) : g.verify earlier t kind = .ok v := by
  obtain ⟨c, hdecode, hgood, rfl⟩ := verify_eq_ok_iff.1 h
  exact verify_eq_ok_iff.2 ⟨c, hdecode, Std.le_trans hle hgood, rfl⟩

/-- A token is refused for one and the same reason at all times, and then not for its age; or there is a
whole second, the one that its claims give, up to which it is good for one and the same identity, and
after which it has expired. So what is good at one instant is good at every earlier one, and a token has
expired only if its signature and its kind are right. -/
theorem verify_interval (g : Issuer) (t : SignedToken) (kind : TokenKind) :
    ((∃ e, e ≠ .expired ∧ ∀ now, g.verify now t kind = .error e) ∨
      ∃ c, Compact.decode t kind (g.keys.forKind kind) = .ok c ∧ c.expires.nanos = 0 ∧
        ∀ now, (now ≤ c.expires → g.verify now t kind = .ok ⟨c.body.user, c.expires⟩) ∧
          (c.expires < now → g.verify now t kind = .error .expired)) ∧
    (∀ now earlier v, g.verify now t kind = .ok v → earlier ≤ now →
      g.verify earlier t kind = .ok v) ∧
    (∀ now, g.verify now t kind = .error .expired → ∃ (r : Compact.Reading) (c : Claims),
      r.Fits t.text.toList ∧ r.Accepted kind (g.keys.forKind kind) c ∧ c.expires < now) := by
  refine ⟨?_, fun now earlier v h hle => verify_earlier h hle, ?_⟩
  · cases hdecode : Compact.decode t kind (g.keys.forKind kind) with
    | error e =>
      refine Or.inl ⟨e, ?_, verify_of_decode_error hdecode⟩
      rintro rfl
      exact Compact.decode_ne_expired _ _ _ hdecode
    | ok c =>
      refine Or.inr ⟨c, rfl, Compact.nanos_of_decode hdecode, fun now => ⟨?_, ?_⟩⟩
      · intro hgood
        rw [verify_of_decode hdecode, if_neg (Std.not_lt.2 hgood)]
      · intro hlate
        rw [verify_of_decode hdecode, if_pos hlate]
  · intro now h
    obtain ⟨c, hdecode, hlate⟩ := verify_eq_expired_iff.1 h
    obtain ⟨r, hfits, haccepted⟩ := Compact.accepted_of_decode hdecode
    exact ⟨r, c, hfits, haccepted, hlate⟩

open Service.Server in
/-- A token that is good for the second of its expiry is so a second before, and has expired a second
later. -/
theorem verify_interval_sample :
    sample.issuer.verify sample.now sampleToken .access = .ok ⟨sampleUser, sample.now⟩ ∧
    (Instant.ofSeconds? (-1)).get rfl ≤ sample.now ∧
    sample.issuer.verify ((Instant.ofSeconds? (-1)).get rfl) sampleToken .access =
      .ok ⟨sampleUser, sample.now⟩ ∧
    sample.issuer.verify ((Instant.ofSeconds? 1).get rfl) sampleToken .access = .error .expired ∧
    ∃ (r : Compact.Reading) (c : Claims), r.Fits sampleToken.text.toList ∧
      r.Accepted .access (sample.issuer.keys.forKind .access) c := by
  obtain ⟨-, hearlier, hexpired⟩ := verify_interval sample.issuer sampleToken .access
  have hgood : sample.issuer.verify sample.now sampleToken .access =
      .ok ⟨sampleUser, sample.now⟩ := by
    rw [sampleToken, verify_create]
    exact if_neg (by decide)
  have hlate : sample.issuer.verify ((Instant.ofSeconds? 1).get rfl) sampleToken .access =
      .error .expired := by
    rw [sampleToken, verify_create]
    exact if_pos (by decide)
  obtain ⟨r, c, hfits, haccepted, -⟩ := hexpired _ hlate
  exact ⟨hgood, by decide, hearlier _ _ _ hgood (by decide), hlate, r, c, hfits, haccepted⟩

end Issuer

end TokenAuth
