import Mathlib.Data.List.TakeWhile
import TokenAuth.Proofs.BasicHeaders
import TokenAuth.Proofs.BoundedUse

/-!
Tokens in headers. A header gives the text that is left of its value without the blanks at the ends, and
the one for authorization only if the value starts with the scheme; nothing else is taken for a token.
Whatever tokens are made or handed out here consist of printable characters, so they come out of a header
as they were put there, with spaces and tabs around them or without.
-/
namespace TokenAuth

namespace Text

theorem trimStart_append {front : List Char} (h : ∀ c ∈ front, isBlank c = true) (cs : List Char) :
    trimStart (front ++ cs) = trimStart cs := List.dropWhile_append_of_pos h

theorem trimStart_append_of_visible {cs : List Char} (h : trimStart cs ≠ []) (back : List Char) :
    trimStart (cs ++ back) = trimStart cs ++ back := by
  unfold trimStart at h ⊢
  rw [List.dropWhile_append, if_neg (by simpa using h)]

theorem trimStart_eq_nil_iff {cs : List Char} : trimStart cs = [] ↔ ∀ c ∈ cs, isBlank c = true :=
  List.dropWhile_eq_nil_iff

theorem trimEnd_append {back : List Char} (h : ∀ c ∈ back, isBlank c = true) (cs : List Char) :
    trimEnd (cs ++ back) = trimEnd cs := by
  unfold trimEnd
  rw [List.reverse_append, trimStart_append fun c hc => h c (List.mem_reverse.1 hc)]

/-- Blanks around a text make no difference to what is left of it. -/
theorem trim_between {front back : List Char} (hfront : ∀ c ∈ front, isBlank c = true)
    (hback : ∀ c ∈ back, isBlank c = true) (cs : List Char) :
    trim (front ++ (cs ++ back)) = trim cs := by
  unfold trim
  rw [trimStart_append hfront]
  -- A text of blanks alone has no end of its own, so what comes after it goes with its start.
  by_cases hcs : trimStart cs = []
  · rw [trimStart_append (trimStart_eq_nil_iff.1 hcs), trimStart_eq_nil_iff.2 hback, hcs]
  · rw [trimStart_append_of_visible hcs, trimEnd_append hback]

end Text

namespace SignedToken

/-- What is left of a text without the blanks at its ends is a token, if anything is left. -/
theorem exists_of_trim {cs : List Char} {text : String} (htrim : Text.trim cs = text.toList)
    (hne : text ≠ "") : ∃ t : SignedToken, t.text = text := by
  have htrimmed : Text.trimmed text = text := by
    rw [Text.trimmed, ← htrim, Text.trim_trim, htrim, String.ofList_toList]
  exact ⟨⟨text, hne, htrimmed⟩, rfl⟩

end SignedToken

namespace Service.Headers

open Text

variable {h : Headers} {value : List UInt8} {text : String}

/-- Behind the scheme and one space stands this text, with blanks around it or without. -/
def BearsText (value : List UInt8) (text : String) : Prop :=
  ∃ rest, Shows value ("Bearer".toList ++ ' ' :: rest) ∧ trim rest = text.toList ∧ text ≠ ""

/-- The value is this text, with blanks around it or without. -/
def HoldsText (value : List UInt8) (text : String) : Prop :=
  ∃ shown, Shows value shown ∧ trim shown = text.toList ∧ text ≠ ""

theorem bearsText_iff : BearsText value text ↔ ∃ t : SignedToken, BearerText value t ∧ t.text = text := by
  constructor
  · rintro ⟨rest, hshows, htrim, hne⟩
    obtain ⟨t, rfl⟩ := SignedToken.exists_of_trim htrim hne
    exact ⟨t, ⟨rest, readable?_of_shows hshows, htrim⟩, rfl⟩
  · rintro ⟨t, ⟨rest, hread, htrim⟩, rfl⟩
    exact ⟨rest, shows_of_readable? hread, htrim, t.text_ne⟩

theorem exists_bearerToken_iff : (∃ t, h.bearerToken = .ok t ∧ t.text = text) ↔
    ∃ value, h.HasFirst "authorization" value ∧ BearsText value text := by
  simp only [bearerToken_eq_ok_iff, get?_eq_some_iff, bearsText_iff]
  constructor
  · rintro ⟨t, ⟨value, hfirst, ht⟩, htext⟩
    exact ⟨value, hfirst, t, ht, htext⟩
  · rintro ⟨value, hfirst, t, ht, htext⟩
    exact ⟨t, ⟨value, hfirst, ht⟩, htext⟩

theorem bearerToken_eq_error {e : Refusal} (herror : h.bearerToken = .error e) :
    e = .noAuthorizationHeader ∨ e = .noBearerScheme := by
  unfold bearerToken at herror
  split at herror
  · next e' habsent =>
    rw [← Except.error.inj herror]
    exact Or.inl (schemeCredentials_eq_error_iff.1 habsent).2
  · split at herror
    · simp at herror
    · exact Or.inr (Except.error.inj herror).symm

theorem bearerToken_eq_noAuthorizationHeader_iff :
    h.bearerToken = .error .noAuthorizationHeader ↔ h.get? "authorization" = none := by
  constructor
  · intro herror
    cases hvalue : h.get? "authorization" with
    | none => rfl
    | some value =>
      by_cases hno : ∃ t, BearerText value t
      · obtain ⟨t, ht⟩ := hno
        rw [bearerToken_eq_ok_iff.2 ⟨value, hvalue, ht⟩] at herror
        simp at herror
      · rw [bearerToken_of_other hvalue hno] at herror
        simp at herror
  · exact bearerToken_of_absent

theorem bearerToken_eq_noBearerScheme_iff : h.bearerToken = .error .noBearerScheme ↔
    ∃ value, h.HasFirst "authorization" value ∧ ∀ text, ¬ BearsText value text := by
  constructor
  · intro herror
    cases hvalue : h.get? "authorization" with
    | none =>
      rw [bearerToken_of_absent hvalue] at herror
      simp at herror
    | some value =>
      have hfirst := get?_eq_some_iff.1 hvalue
      refine ⟨value, hfirst, ?_⟩
      intro text htext
      obtain ⟨t, hok, -⟩ := exists_bearerToken_iff.2 ⟨value, hfirst, htext⟩
      rw [hok] at herror
      simp at herror
  · rintro ⟨value, hfirst, hno⟩
    apply bearerToken_of_other (get?_eq_some_iff.2 hfirst)
    rintro ⟨t, ht⟩
    exact hno t.text (bearsText_iff.2 ⟨t, ht, rfl⟩)

theorem exists_refreshToken_iff : (∃ t, h.refreshToken = .ok t ∧ t.text = text) ↔
    ∃ value, h.HasFirst "x-refresh-token" value ∧ HoldsText value text := by
  simp only [refreshToken_eq_ok_iff, get?_eq_some_iff, readable?_eq_some_iff]
  constructor
  · rintro ⟨t, ⟨value, shown, hfirst, hshows, htrim⟩, rfl⟩
    exact ⟨value, hfirst, shown, hshows, htrim, t.text_ne⟩
  · rintro ⟨value, hfirst, shown, hshows, htrim, hne⟩
    obtain ⟨t, rfl⟩ := SignedToken.exists_of_trim htrim hne
    exact ⟨t, ⟨value, shown, hfirst, hshows, htrim⟩, rfl⟩

theorem refreshToken_eq_error_iff {e : Refusal} : h.refreshToken = .error e ↔
    e = .noRefreshHeader ∧
      ∀ value text, h.HasFirst "x-refresh-token" value → ¬ HoldsText value text := by
  constructor
  · intro herror
    refine ⟨?_, ?_⟩
    · unfold refreshToken at herror
      split at herror
      · simp at herror
      · exact (Except.error.inj herror).symm
    · intro value text hfirst htext
      obtain ⟨t, hok, -⟩ := exists_refreshToken_iff.2 ⟨value, hfirst, htext⟩
      rw [hok] at herror
      simp at herror
  · rintro ⟨rfl, hno⟩
    cases hresult : h.refreshToken with
    | ok t =>
      obtain ⟨value, hfirst, htext⟩ := exists_refreshToken_iff.1 ⟨t, hresult, rfl⟩
      exact absurd htext (hno value t.text hfirst)
    | error e =>
      unfold refreshToken at hresult
      split at hresult
      · simp at hresult
      · exact hresult.symm

/-- Spaces and tabs. -/
def Gap (cs : List Char) : Prop := ∀ c ∈ cs, c = ' ' ∨ c = '\t'

theorem Gap.isBlank {cs : List Char} (hgap : Gap cs) : ∀ c ∈ cs, isBlank c = true := by
  intro c hc
  rcases hgap c hc with rfl | rfl <;> decide

theorem Gap.shown {cs : List Char} (hgap : Gap cs) : ∀ c ∈ cs, c = '\t' ∨ IsPrintable c := by
  intro c hc
  rcases hgap c hc with rfl | rfl
  · exact Or.inr (by decide)
  · exact Or.inl rfl

/-- A token that comes out of a header as it was put there, whatever spaces and tabs are around it. -/
def Travels (t : SignedToken) : Prop :=
  ∀ (h : Headers) (front back : List Char), Gap front → Gap back →
    (h.HasFirst "authorization"
        (utf8 (String.ofList ("Bearer".toList ++ ' ' :: (front ++ (t.text.toList ++ back))))) →
      h.bearerToken = .ok t) ∧
    (h.HasFirst "x-refresh-token" (utf8 (String.ofList (front ++ (t.text.toList ++ back)))) →
      h.refreshToken = .ok t)

theorem travels_of_printable {t : SignedToken} (hprintable : ∀ c ∈ t.text.toList, IsPrintable c) :
    Travels t := by
  intro h front back hfront hback
  have hshown : ∀ c ∈ front ++ (t.text.toList ++ back), c = '\t' ∨ IsPrintable c := by
    intro c hc
    simp only [List.mem_append] at hc
    rcases hc with hc | hc | hc
    · exact hfront.shown c hc
    · exact Or.inr (hprintable c hc)
    · exact hback.shown c hc
  have htrim : trim (front ++ (t.text.toList ++ back)) = t.text.toList := by
    rw [trim_between hfront.isBlank hback.isBlank, t.trim_text]
  constructor
  · intro hfirst
    have hscheme : "Bearer ".toList.all (fun c => decide (IsPrintable c)) = true := by decide
    refine bearerToken_eq_ok_iff.2 ⟨_, get?_eq_some_iff.2 hfirst, _, readable?_of_shows ⟨rfl, ?_⟩, htrim⟩
    intro c hc
    rcases List.mem_append.1 hc with hc | hc
    · exact Or.inr (of_decide_eq_true (List.all_eq_true.1 hscheme c hc))
    · exact hshown c hc
  · intro hfirst
    exact refreshToken_eq_ok_iff.2
      ⟨_, _, get?_eq_some_iff.2 hfirst, readable?_of_shows ⟨rfl, hshown⟩, htrim⟩

end Service.Headers

namespace Service.Server

open Text Headers

variable {s : Server} {r : Request} {t : Tokens}

/-- A refresh token that is handed out was made here or accepted here. -/
theorem HandsOut.isPrintable (hands : HandsOut s r t) :
    ∀ c ∈ t.refreshToken.text.toList, IsPrintable c := by
  rcases hands.1 with hpath | hpath
  · obtain ⟨t', hok, hands'⟩ := authenticateUser_of_status_ok hpath hands.2.1
    obtain ⟨i, -, -, e, hmade⟩ := authenticateUser_eq_ok hok
    rw [hands.unique hands', hmade]
    exact fun _ => Compact.isPrintable_of_mem_encode
  · obtain ⟨t', hok, hands'⟩ := refreshToken_of_status_ok hpath hands.2.1
    obtain ⟨presented, v, -, hverify, -, hsame | ⟨e, hmade⟩⟩ := refreshToken_eq_ok hok
    · obtain ⟨c, hdecode, -⟩ := Issuer.verify_eq_ok_iff.1 hverify
      rw [hands.unique hands', hsame]
      exact fun _ => Compact.isPrintable_of_decode hdecode
    · rw [hands.unique hands', hmade]
      exact fun _ => Compact.isPrintable_of_mem_encode

/-- The token for authorization is the text behind the scheme in the first header of that name, and the
token for a refresh the text of the first header of its own, each without the blanks at its ends and only
if some of it is left; what is missing decides about the error. Every token that an issuer makes and
every refresh token that is handed out goes through either header unchanged. -/
theorem tokens_travel (h : Headers) :
    (∀ text, (∃ t, h.bearerToken = .ok t ∧ t.text = text) ↔
      ∃ value, h.HasFirst "authorization" value ∧ BearsText value text) ∧
    (h.bearerToken = .error .noAuthorizationHeader ↔
      ∀ e ∈ h, sameName e.1 "authorization" = false) ∧
    (h.bearerToken = .error .noBearerScheme ↔
      ∃ value, h.HasFirst "authorization" value ∧ ∀ text, ¬ BearsText value text) ∧
    (∀ e, h.bearerToken = .error e → e = .noAuthorizationHeader ∨ e = .noBearerScheme) ∧
    (∀ text, (∃ t, h.refreshToken = .ok t ∧ t.text = text) ↔
      ∃ value, h.HasFirst "x-refresh-token" value ∧ HoldsText value text) ∧
    (∀ e, h.refreshToken = .error e ↔ e = .noRefreshHeader ∧
      ∀ value text, h.HasFirst "x-refresh-token" value → ¬ HoldsText value text) ∧
    (∀ (g : Issuer) i e kind, Travels (g.create i e kind)) ∧
    ∀ s r t, HandsOut s r t → Travels t.refreshToken := by
  refine ⟨fun _ => exists_bearerToken_iff, ?_, bearerToken_eq_noBearerScheme_iff,
    fun _ => bearerToken_eq_error, fun _ => exists_refreshToken_iff,
    fun _ => refreshToken_eq_error_iff, ?_, ?_⟩
  · rw [bearerToken_eq_noAuthorizationHeader_iff, get?_eq_none_iff]
  · intro g i e kind
    exact travels_of_printable fun _ => Compact.isPrintable_of_mem_encode
  · intro s r t hands
    exact travels_of_printable hands.isPrintable

/-- The second of two headers is not looked at, and a tab and a space in the first one are dropped. -/
theorem tokens_travel_sample :
    ∃ t, HandsOut (sample.run sampleMinute) sampleReturn t ∧
      Headers.refreshToken [("X-Refresh-Token",
          utf8 (String.ofList (['\t'] ++ (t.refreshToken.text.toList ++ [' '])))),
        ("x-refresh-token", [])] = .ok t.refreshToken := by
  obtain ⟨t, hands, -⟩ := handsOut_sampleReturn
  have hfront : Gap ['\t'] := by
    intro c hc
    exact Or.inr (List.mem_singleton.1 hc)
  have hback : Gap [' '] := by
    intro c hc
    exact Or.inl (List.mem_singleton.1 hc)
  obtain ⟨-, -, -, -, -, -, -, htravels⟩ := tokens_travel []
  refine ⟨t, hands, (htravels _ _ t hands _ _ _ hfront hback).2 ?_⟩
  exact ⟨[], _, _, rfl, by decide, by simp⟩

end Service.Server

end TokenAuth
