import Mathlib.Data.List.Induction
import TokenAuth.Proofs.Renewals

/-!
How long what is handed out can be used. Each token is still good when it is handed out, and good for no
longer than the lifetime of its kind from then on. For a refresh token that comes back unchanged this
goes back to when it was made: the clock has not been set back since, so no chain of refreshes adds up
lifetimes.
-/
namespace TokenAuth

namespace Instant

variable {now e : Instant} {d : Duration}

/-- An expiry that is yet to come, and that comes at the end of the lifetime or sooner. If the lifetime
leads out of range, its end comes after every instant. -/
structure Within (e now : Instant) (d : Duration) : Prop where
  lt : now < e
  since_le : e.since now ≤ d
  le_add : ∀ last, now.add? d = some last → e ≤ last

/-- A leap second in between is counted only from within it, and then most of it has passed. -/
theorem since_le_of_seconds_le (hwhole : e.nanos = 0)
    (hle : e.seconds * 1000000000 ≤ now.seconds * 1000000000 + d.nanoseconds) : e.since now ≤ d := by
  have hleap : leapBetween e now * 1000000000 ≤ now.nanos := by
    unfold leapBetween IsLeap
    split_ifs <;> omega
  have hsince : (e.since now).nanoseconds =
    (e.seconds - now.seconds + leapBetween e now) * 1000000000 + (e.nanos - now.nanos) := rfl
  rw [Duration.le_iff, hsince, hwhole]
  omega

theorem seconds_floor (t : Instant) : t.floor.seconds = t.seconds := by
  unfold floor
  split <;> rfl

end Instant

namespace Policy.InMinutes

variable {p : Policy} {now e : Instant}

theorem seconds_eq (h : p.InMinutes) {kind : TokenKind} (he : now.add? (p.lifetime kind) = some e) :
    e.seconds * 1000000000 = now.seconds * 1000000000 + (p.lifetime kind).nanoseconds := by
  obtain ⟨n, hn, hlifetime⟩ := h.exists_ofMinutes kind
  rw [hlifetime] at he ⊢
  rw [(Instant.add?_ofMinutes hn he).1, Duration.nanoseconds_ofMinutes]
  omega

theorem within (h : p.InMinutes) (kind : TokenKind) (hwhole : e.nanos = 0) (hlt : now < e)
    (hle : e.seconds * 1000000000 ≤ now.seconds * 1000000000 + (p.lifetime kind).nanoseconds) :
    e.Within now (p.lifetime kind) := by
  refine ⟨hlt, Instant.since_le_of_seconds_le hwhole hle, ?_⟩
  intro last hlast
  have hseconds := h.seconds_eq hlast
  rw [Instant.le_iff]
  omega

/-- What is not due for renewal has not expired. -/
theorem lt_of_left (h : p.InMinutes) (hleft : p.renewalThreshold ≤ e.since now) : now < e := by
  obtain ⟨access, refresh, threshold, -, hthreshold, -, rfl⟩ := h
  obtain ⟨-, hnear⟩ := e.since_near now
  rw [Duration.le_iff] at hleft
  dsimp only [Duration.nanoseconds_ofMinutes] at hleft
  rw [Instant.lt_iff]
  omega

end Policy.InMinutes

namespace Service.Server

open Text Headers CommandLine

variable {s s' : Server} {r : Request} {i : Identity} {t : Tokens} {x : SignedToken} {e : Instant}
  {kind : TokenKind} {steps : List Step}

/-- A token that the server made, that is good now, and that expires within the lifetime of its kind. -/
structure Timely (s : Server) (kind : TokenKind) (i : Identity) (x : SignedToken) (e : Instant) :
    Prop where
  made : x = s.issuer.create i e kind
  good : s.now < e.wholeSecond
  bound : e.seconds * 1000000000 ≤
    s.now.seconds * 1000000000 + (s.issuer.policy.lifetime kind).nanoseconds

theorem timely_of_add? (hpolicy : s.issuer.policy.InMinutes) (i : Identity)
    (he : s.now.add? (s.issuer.policy.lifetime kind) = some e) :
    s.Timely kind i (s.issuer.create i e.floor kind) e.floor := by
  refine ⟨rfl, ?_, ?_⟩
  · rw [e.wholeSecond_floor]
    exact hpolicy.lt_expiry kind he
  · rw [e.seconds_floor, hpolicy.seconds_eq he]

/-- As long as it is good, a token stays timely while the clock goes on. -/
theorem Timely.later (h : s.Timely kind i x e) (hissuer : s'.issuer = s.issuer)
    (hclock : s.now.seconds ≤ s'.now.seconds) (hgood : s'.now < e.wholeSecond) :
    s'.Timely kind i x e := by
  refine ⟨?_, hgood, ?_⟩
  · rw [hissuer]
    exact h.made
  · have hbound := h.bound
    rw [hissuer]
    omega

/-- What is handed out is timely, if the refresh token that was presented, if any, has been so. -/
theorem HandsOut.timely (hpolicy : s.issuer.policy.InMinutes) (hands : HandsOut s r t)
    (hknown : pathOf r.target = Call.refreshToken.path → ∀ presented,
      r.headers.refreshToken = .ok presented → ∃ s₀ i e, Timely s₀ .refresh i presented e ∧
        s.issuer = s₀.issuer ∧ s₀.now.seconds ≤ s.now.seconds) :
    ∃ i access refresh, s.Timely .access i t.accessToken access ∧
      t.expiresIn = Int64.ofInt access.seconds ∧ s.Timely .refresh i t.refreshToken refresh := by
  rcases hands.1 with hpath | hpath
  · obtain ⟨t', hok, hands'⟩ := authenticateUser_of_status_ok hpath hands.2.1
    obtain ⟨i, access, refresh, -, haccess, hrefresh, rfl⟩ := authenticateUser_eq_ok_iff.1 hok
    rw [hands.unique hands']
    exact ⟨i, access.floor, refresh.floor, timely_of_add? hpolicy i haccess, rfl,
      timely_of_add? hpolicy i hrefresh⟩
  · obtain ⟨t', hok, hands'⟩ := refreshToken_of_status_ok hpath hands.2.1
    obtain ⟨presented, v, access, refresh, hpresented, hverify, hrenewed, haccess, rfl⟩ :=
      refreshToken_ok_iff.1 hok
    rw [hands.unique hands']
    refine ⟨v.identity, access.floor, ?_⟩
    rcases renewed_eq_ok_iff.1 hrenewed with ⟨-, e, he, hmade⟩ | ⟨hleft, hsame⟩
    · refine ⟨e.floor, timely_of_add? hpolicy _ haccess, rfl, ?_⟩
      rw [hmade]
      exact timely_of_add? hpolicy _ he
    · -- The token comes back unchanged, so its bound is the one it had before.
      obtain ⟨s₀, i, e, hold, hissuer, hclock⟩ := hknown hpath presented hpresented
      have hread := hverify
      rw [hold.made, ← hissuer, Issuer.verify_create] at hread
      split at hread
      · simp at hread
      · have hv := Except.ok.inj hread
        have hgood : s.now < e.wholeSecond := by
          apply hpolicy.lt_of_left
          rw [← hv] at hleft
          exact Std.not_lt.1 hleft
        refine ⟨e, timely_of_add? hpolicy _ haccess, rfl, ?_⟩
        rw [hsame, ← hv]
        exact hold.later hissuer hclock hgood

/-- Somewhere in these steps a request is answered with these tokens. -/
def HandsOutIn (s : Server) (steps : List Step) (t : Tokens) : Prop :=
  ∃ before r after, steps = before ++ .request r :: after ∧ HandsOut (s.run before) r t

/-- Runs in which the clock never goes back, and no refresh token is accepted but those that were handed
out before. -/
inductive Orderly (s : Server) : List Step → Prop
  | nil : Orderly s []
  | snoc {steps : List Step} {x : Step} (h : Orderly s steps)
      (hclock : ∀ t, x = .setClock t → (s.run steps).now ≤ t)
      (hknown : ∀ r t presented, x = .request r → pathOf r.target = Call.refreshToken.path →
        HandsOut (s.run steps) r t → r.headers.refreshToken = .ok presented →
        ∃ t', HandsOutIn s steps t' ∧ t'.refreshToken = presented) :
      Orderly s (steps ++ [x])

theorem run_snoc (s : Server) (steps : List Step) (x : Step) :
    s.run (steps ++ [x]) = ((s.run steps).step x).1 := by
  simp only [run, List.foldl_append, List.foldl_cons, List.foldl_nil]

theorem now_le_step {x : Step} (hclock : ∀ t, x = .setClock t → s.now ≤ t) :
    s.now.seconds ≤ (s.step x).1.now.seconds := by
  by_cases hx : ∃ t, x = .setClock t
  · obtain ⟨t, rfl⟩ := hx
    have hlater := hclock t rfl
    rw [Instant.le_iff] at hlater
    change s.now.seconds ≤ t.seconds
    omega
  · have hsame := s.step_now (x := x) fun t ht => hx ⟨t, ht⟩
    rw [hsame]

theorem split_snoc {α : Type} {xs before after : List α} {x y : α}
    (h : xs ++ [x] = before ++ y :: after) :
    before = xs ∧ y = x ∨ ∃ after', xs = before ++ y :: after' := by
  rcases List.eq_nil_or_concat' after with rfl | ⟨after', z, rfl⟩
  · obtain ⟨hbefore, hlast⟩ := List.append_inj' h rfl
    exact Or.inl ⟨hbefore.symm, (List.singleton_inj.1 hlast).symm⟩
  · rw [← List.cons_append, ← List.append_assoc] at h
    exact Or.inr ⟨after', (List.append_inj' h rfl).1⟩

/-- The invariant of a run: whatever was handed out in it was timely, and the clock has not been set back
since. -/
theorem Orderly.timely (hpolicy : s.issuer.policy.InMinutes) (h : Orderly s steps)
    {before after : List Step} (hsplit : steps = before ++ .request r :: after)
    (hands : HandsOut (s.run before) r t) :
    (∃ i access refresh, (s.run before).Timely .access i t.accessToken access ∧
      t.expiresIn = Int64.ofInt access.seconds ∧
      (s.run before).Timely .refresh i t.refreshToken refresh) ∧
    (s.run before).now.seconds ≤ (s.run steps).now.seconds := by
  induction h generalizing before after r t with
  | nil => simp at hsplit
  | @snoc steps x h hclock hknown ih =>
    have hlater := now_le_step hclock
    rw [run_snoc]
    rcases split_snoc hsplit with ⟨rfl, hx⟩ | ⟨after', hbefore⟩
    · refine ⟨hands.timely (by rw [run_issuer]; exact hpolicy) ?_, hlater⟩
      intro hpath presented hpresented
      obtain ⟨t', ⟨before', r', after', hsplit', hands'⟩, hsame⟩ :=
        hknown r t presented hx.symm hpath hands hpresented
      obtain ⟨⟨i, -, e, -, -, hrefresh⟩, hclock'⟩ := ih hsplit' hands'
      rw [hsame] at hrefresh
      exact ⟨s.run before', i, e, hrefresh, by rw [run_issuer, run_issuer], hclock'⟩
    · obtain ⟨htimely, hclock'⟩ := ih hbefore hands
      exact ⟨htimely, hclock'.trans hlater⟩

theorem Timely.speaksFor (h : s.Timely kind i x e) :
    SpeaksFor s.issuer x kind i e.wholeSecond := by
  rw [h.made]
  exact speaksFor_create _ _ _ _

theorem Timely.within (h : s.Timely kind i x e) (hpolicy : s.issuer.policy.InMinutes) :
    e.wholeSecond.Within s.now (s.issuer.policy.lifetime kind) :=
  hpolicy.within kind rfl h.good h.bound

/-- As long as the clock is not set back and no refresh token is accepted that was not handed out before,
every login and every refresh that succeeds hands out two tokens that are good, for one identity, and
neither for longer than the lifetime of its kind from then on. -/
theorem tokens_of_bounded_use {values : Values} {c : Configuration}
    (hconfigure : Run.configure values = .ok c) (hpolicy : s.issuer.policy = c.issuer.policy)
    (horderly : Orderly s steps) {before after : List Step}
    (hsplit : steps = before ++ .request r :: after)
    (hpath : pathOf r.target = Call.authenticateUser.path ∨
      pathOf r.target = Call.refreshToken.path)
    (hstatus : ((s.run before).answer r).status = 200) :
    ∃ t i access refresh, HandsOut (s.run before) r t ∧
      SpeaksFor s.issuer t.accessToken .access i access ∧ t.expiresIn.toInt = access.seconds ∧
      access.Within (s.run before).now s.issuer.policy.accessLifetime ∧
      SpeaksFor s.issuer t.refreshToken .refresh i refresh ∧
      refresh.Within (s.run before).now s.issuer.policy.refreshLifetime := by
  have hminutes : s.issuer.policy.InMinutes := by
    rw [hpolicy]
    exact Run.inMinutes_of_configure hconfigure
  have hissuer := s.run_issuer before
  have hminutes' : (s.run before).issuer.policy.InMinutes := by
    rw [hissuer]
    exact hminutes
  obtain ⟨t, hands⟩ := exists_handsOut hpath hstatus
  obtain ⟨⟨i, access, refresh, haccess, hexpires, hrefresh⟩, -⟩ :=
    horderly.timely hminutes hsplit hands
  rw [← hissuer]
  refine ⟨t, i, access.wholeSecond, refresh.wholeSecond, hands, haccess.speaksFor, ?_,
    haccess.within hminutes', hrefresh.speaksFor, hrefresh.within hminutes'⟩
  rw [hexpires, Instant.toInt_ofInt_seconds]
  rfl

/-- What the first user is handed out at the start to refresh with. -/
def sampleHanded : SignedToken :=
  sample.issuer.create sampleUser ((Instant.ofSeconds? 604800).get rfl) .refresh

def sampleReturn : Request := callWith .refreshToken "X-Refresh-Token" (utf8 sampleHanded.text)

/-- The first user is added and logs in, and a minute goes by. -/
def sampleMinute : List Step :=
  [.add (sampleNewUser sampleUser.email), .request (sampleLogin sampleUser.email),
    .setClock ((Instant.ofSeconds? 60).get rfl)]

theorem refreshToken_sampleReturn : sampleReturn.headers.refreshToken = .ok sampleHanded :=
  refreshToken_of_printable _ (get?_callWith _ _ (by decide))
    fun _ => Compact.isPrintable_of_mem_encode

theorem run_sampleMinute : sample.run sampleMinute =
    ⟨sample.issuer, sampleStore sampleUser.email, (Instant.ofSeconds? 60).get rfl⟩ := by
  simp only [sampleMinute, run, List.foldl_cons, List.foldl_nil, step, add_sampleNewUser]

theorem handsOut_sampleLogin :
    ∃ t, HandsOut (sample.run [.add (sampleNewUser sampleUser.email)])
      (sampleLogin sampleUser.email) t ∧ t.refreshToken = sampleHanded := by
  have haccess : (sample.now.add? sample.issuer.policy.accessLifetime).isSome := by decide
  have hrefresh : sample.now.add? sample.issuer.policy.refreshLifetime =
    some ((Instant.ofSeconds? 604800).get rfl) := by decide
  obtain ⟨access, haccess⟩ := Option.isSome_iff_exists.1 haccess
  have hlogin := login_sample
  rw [run_addSample] at hlogin ⊢
  have hok := authenticateUser_eq_ok_iff.2 ⟨sampleUser, access, _, hlogin, haccess, hrefresh, rfl⟩
  exact ⟨_, handsOut_of_login rfl rfl hok, rfl⟩

theorem handsOut_sampleReturn :
    ∃ t, HandsOut (sample.run sampleMinute) sampleReturn t ∧ t.refreshToken = sampleHanded := by
  rw [run_sampleMinute]
  have hverify : sample.issuer.verify ((Instant.ofSeconds? 60).get rfl) sampleHanded .refresh =
      .ok ⟨sampleUser, (Instant.ofSeconds? 604800).get rfl⟩ := by
    rw [sampleHanded, Issuer.verify_create]
    exact if_neg (by decide)
  have haccess : (((Instant.ofSeconds? 60).get rfl).add?
    sample.issuer.policy.accessLifetime).isSome := by decide
  obtain ⟨access, haccess⟩ := Option.isSome_iff_exists.1 haccess
  refine ⟨_, handsOut_of_refresh rfl rfl (refreshToken_ok_iff.2
    ⟨_, _, access, sampleHanded, refreshToken_sampleReturn, hverify, ?_, haccess, rfl⟩), rfl⟩
  exact renewed_eq_ok_iff.2 (Or.inr ⟨by decide, rfl⟩)

theorem orderly_sampleMinute : Orderly sample sampleMinute := by
  have hadded : Orderly sample [.add (sampleNewUser sampleUser.email)] := by
    apply Orderly.nil.snoc
    · intro t ht
      simp at ht
    · intro r t presented hr
      simp at hr
  have hlogged : Orderly sample [.add (sampleNewUser sampleUser.email),
      .request (sampleLogin sampleUser.email)] := by
    apply hadded.snoc
    · intro t ht
      simp at ht
    · intro r t presented hr hpath
      rw [← Step.request.inj hr] at hpath
      exact absurd hpath (by decide)
  apply hlogged.snoc
  · intro t ht
    have hnow : (sample.run [.add (sampleNewUser sampleUser.email),
      .request (sampleLogin sampleUser.email)]).now = sample.now := by
      simp only [run, List.foldl_cons, List.foldl_nil, step, add_sampleNewUser]
    rw [hnow, ← Step.setClock.inj ht]
    decide
  · intro r t presented hr
    simp at hr

/-- A minute after the login the refresh token comes back unchanged. -/
theorem tokens_of_bounded_use_sample :
    ∃ c, Run.configure sampleValues = .ok c ∧ sample.issuer.policy = c.issuer.policy ∧
      Orderly sample (sampleMinute ++ [.request sampleReturn]) ∧
      pathOf sampleReturn.target = Call.refreshToken.path ∧
      ((sample.run sampleMinute).answer sampleReturn).status = 200 ∧
      ∃ t, ∃ refresh : Instant, HandsOut (sample.run sampleMinute) sampleReturn t ∧
        t.refreshToken = sampleHanded ∧
        refresh.Within (sample.run sampleMinute).now sample.issuer.policy.refreshLifetime := by
  obtain ⟨c, hconfigure, hpolicy⟩ := configure_sampleValues
  obtain ⟨t, hands, hsame⟩ := handsOut_sampleReturn
  have horderly : Orderly sample (sampleMinute ++ [.request sampleReturn]) := by
    apply orderly_sampleMinute.snoc
    · intro t ht
      simp at ht
    intro r t' presented hr _ _ hpresented
    obtain ⟨t₀, hlogin, hfirst⟩ := handsOut_sampleLogin
    rw [← Step.request.inj hr, refreshToken_sampleReturn] at hpresented
    exact ⟨t₀, ⟨_, _, _, rfl, hlogin⟩, hfirst.trans (Except.ok.inj hpresented)⟩
  have hsplit : sampleMinute ++ [.request sampleReturn] =
    sampleMinute ++ .request sampleReturn :: [] := rfl
  obtain ⟨t', i, access, refresh, hands', -, -, -, -, hwithin⟩ :=
    tokens_of_bounded_use hconfigure hpolicy horderly hsplit (Or.inr rfl) hands.2.1
  rw [← hands'.unique hands] at hsame
  exact ⟨c, hconfigure, hpolicy, horderly, rfl, hands.2.1, t', refresh, hands', hsame, hwithin⟩

end Service.Server

end TokenAuth
