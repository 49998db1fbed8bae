import TokenAuth.Proofs.HeaderText

/-!
The grammar of basic credentials. The first header for authorization, if it is readable and has the scheme
before its first space, has to hold the one base64 text that a name without a colon and a password have,
with blanks around it or without. Whatever departs from this is told apart by the place where it does: no
header, another scheme or none, or no such text behind the scheme.
-/
namespace TokenAuth

namespace Service.Headers

open Text

variable {h : Headers} {name scheme username password : String} {value : List UInt8}

/-- The first value under a name, whatever the case of its letters. -/
def HasFirst (h : Headers) (name : String) (value : List UInt8) : Prop :=
  ∃ before given after, h = before ++ (given, value) :: after ∧ sameName given name = true ∧
    ∀ e ∈ before, sameName e.1 name = false

theorem get?_eq_some_iff : h.get? name = some value ↔ h.HasFirst name value := by
  unfold get?
  rw [Option.map_eq_some_iff]
  constructor
  · rintro ⟨⟨given, value'⟩, hfind, rfl⟩
    obtain ⟨hname, before, after, hsplit, hbefore⟩ := List.find?_eq_some_iff_append.1 hfind
    exact ⟨before, given, after, hsplit, hname, fun e he => by simpa using hbefore e he⟩
  · rintro ⟨before, given, after, hsplit, hname, hbefore⟩
    refine ⟨(given, value), List.find?_eq_some_iff_append.2 ⟨hname, before, after, hsplit, ?_⟩, rfl⟩
    intro e he
    simp [hbefore e he]

theorem HasFirst.unique {value' : List UInt8} (hfirst : h.HasFirst name value)
    (hfirst' : h.HasFirst name value') : value = value' := by
  rw [← get?_eq_some_iff] at hfirst hfirst'
  rw [hfirst] at hfirst'
  exact Option.some.inj hfirst'

theorem get?_eq_none_iff : h.get? name = none ↔ ∀ e ∈ h, sameName e.1 name = false := by
  simp [get?]

theorem readable?_eq_none_iff :
    readable? value = none ↔ ∃ b ∈ value, b ≠ 9 ∧ (b.toNat < 32 ∨ 126 < b.toNat) := by
  unfold readable?
  split
  · next hall =>
    simp only [reduceCtorEq, false_iff, not_exists, not_and, not_or, not_lt]
    intro b hb hne
    exact (readable_iff.1 (List.all_eq_true.1 hall b hb)).resolve_left hne
  · next hsome =>
    simp only [true_iff]
    by_contra hnone
    apply hsome
    rw [List.all_eq_true]
    intro b hb
    by_contra hb'
    rw [readable_iff, not_or] at hb'
    exact hnone ⟨b, hb, hb'.1, by omega⟩

/-- A value that is not readable, has no space, or has something else than the scheme before its first
space. -/
def OtherScheme (scheme : String) (value : List UInt8) : Prop :=
  (∃ b ∈ value, b ≠ 9 ∧ (b.toNat < 32 ∨ 126 < b.toNat)) ∨
    ∃ text, Shows value text ∧ (' ' ∉ text ∨
      ∃ found rest, text = found ++ ' ' :: rest ∧ ' ' ∉ found ∧ found ≠ scheme.toList)

theorem otherScheme_iff : OtherScheme scheme value ↔
    ∀ found rest, (readable? value).bind (cutFirst ' ') = some (found, rest) →
      found ≠ scheme.toList := by
  constructor
  · rintro (hbad | ⟨text, hshows, hnone | ⟨found', rest', rfl, hfree, hne⟩⟩) found rest hcut
    · simp [readable?_eq_none_iff.2 hbad] at hcut
    · rw [readable?_of_shows hshows, Option.bind_some, cutFirst_eq_none_iff.2 hnone] at hcut
      simp at hcut
    · rw [readable?_of_shows hshows, Option.bind_some, cutFirst_append ' ' _ _ hfree,
        Option.some.injEq, Prod.mk.injEq] at hcut
      rw [← hcut.1]
      exact hne
  · intro h
    cases hread : readable? value with
    | none => exact Or.inl (readable?_eq_none_iff.1 hread)
    | some text =>
      refine Or.inr ⟨text, shows_of_readable? hread, ?_⟩
      cases hcut : cutFirst ' ' text with
      | none => exact Or.inl (cutFirst_eq_none_iff.1 hcut)
      | some p =>
        obtain ⟨hsplit, hfree⟩ := cutFirst_eq_some hcut
        exact Or.inr ⟨p.1, p.2, hsplit, hfree, h p.1 p.2 (by rw [hread, Option.bind_some, hcut])⟩

theorem schemeCredentials_eq_none_iff : h.schemeCredentials scheme = .ok none ↔
    ∃ value, h.HasFirst "authorization" value ∧ OtherScheme scheme value := by
  simp only [← get?_eq_some_iff, otherScheme_iff]
  unfold schemeCredentials
  cases h.get? "authorization" with
  | none => simp
  | some value =>
    cases hcut : (readable? value).bind (cutFirst ' ') with
    | none => simp [hcut]
    | some p =>
      obtain ⟨found, rest⟩ := p
      simp [hcut]

/-- Behind the scheme stands the base64 text of the name, a colon and the password, and nothing else but
blanks. -/
def BasicText (value : List UInt8) (username password : String) : Prop :=
  ∃ rest, Shows value ("Basic".toList ++ ' ' :: rest) ∧
    trim rest = Base64.encodePadded .standard (utf8 (username ++ ":" ++ password))

theorem basicCredentials_eq_ok_iff : h.basicCredentials = .ok ⟨username, password⟩ ↔
    ':' ∉ username.toList ∧
      ∃ value, h.HasFirst "authorization" value ∧ BasicText value username password := by
  have hscheme : ' ' ∉ "Basic".toList := by decide
  unfold basicCredentials
  constructor
  · intro hok
    split at hok
    · simp at hok
    · simp at hok
    · next cs hcredentials =>
      obtain ⟨value, hvalue, htext⟩ := (schemeCredentials_eq_some_iff hscheme).1 hcredentials
      split at hok
      · next c hpair =>
        rw [Except.ok.inj hok] at hpair
        obtain ⟨hcolon, htrim⟩ := readPair_eq_some_iff.1 hpair
        exact ⟨hcolon, value, get?_eq_some_iff.1 hvalue, cs, shows_of_readable? htext, htrim⟩
      · simp at hok
  · rintro ⟨hcolon, value, hvalue, cs, hshows, htrim⟩
    have hcredentials := (schemeCredentials_eq_some_iff hscheme).2
      ⟨value, get?_eq_some_iff.2 hvalue, readable?_of_shows hshows⟩
    simp only [hcredentials, readPair_eq_some_iff.2 ⟨hcolon, htrim⟩]

theorem basicCredentials_eq_noAuthorizationHeader_iff :
    h.basicCredentials = .error .noAuthorizationHeader ↔ h.get? "authorization" = none := by
  unfold basicCredentials
  constructor
  · intro herror
    split at herror
    · next e habsent => exact (schemeCredentials_eq_error_iff.1 habsent).1
    · simp at herror
    · split at herror <;> simp at herror
  · intro hnone
    rw [schemeCredentials_eq_error_iff.2 ⟨hnone, rfl⟩]

theorem basicCredentials_eq_noBasicScheme_iff :
    h.basicCredentials = .error .noBasicScheme ↔
      ∃ value, h.HasFirst "authorization" value ∧ OtherScheme "Basic" value := by
  rw [← schemeCredentials_eq_none_iff]
  unfold basicCredentials
  constructor
  · intro herror
    split at herror
    · next e habsent =>
      rw [(schemeCredentials_eq_error_iff.1 habsent).2] at herror
      simp at herror
    · assumption
    · split at herror <;> simp at herror
  · intro hnone
    rw [hnone]

theorem basicCredentials_eq_malformed_iff :
    h.basicCredentials = .error .malformedCredentialPair ↔
      ∃ value, h.HasFirst "authorization" value ∧ ¬ OtherScheme "Basic" value ∧
        ∀ username password, ':' ∉ username.toList → ¬ BasicText value username password := by
  constructor
  · intro hmalformed
    cases hvalue : h.get? "authorization" with
    | none =>
      rw [basicCredentials_eq_noAuthorizationHeader_iff.2 hvalue] at hmalformed
      simp at hmalformed
    | some value =>
      have hfirst := get?_eq_some_iff.1 hvalue
      refine ⟨value, hfirst, ?_, ?_⟩
      · intro hother
        rw [basicCredentials_eq_noBasicScheme_iff.2 ⟨value, hfirst, hother⟩] at hmalformed
        simp at hmalformed
      · intro username password hcolon htext
        rw [basicCredentials_eq_ok_iff.2 ⟨hcolon, value, hfirst, htext⟩] at hmalformed
        simp at hmalformed
  · rintro ⟨value, hfirst, hscheme, hno⟩
    cases hresult : h.basicCredentials with
    | ok c =>
      obtain ⟨hcolon, value', hfirst', htext⟩ := basicCredentials_eq_ok_iff.1 hresult
      rw [hfirst'.unique hfirst] at htext
      exact absurd htext (hno _ _ hcolon)
    | error e =>
      rcases basicCredentials_eq_error hresult with rfl | rfl | rfl
      · rw [basicCredentials_eq_noAuthorizationHeader_iff, get?_eq_some_iff.2 hfirst] at hresult
        simp at hresult
      · obtain ⟨value', hfirst', hother⟩ := basicCredentials_eq_noBasicScheme_iff.1 hresult
        rw [hfirst'.unique hfirst] at hother
        exact absurd hother hscheme
      · rfl

/-- A value shows one text, and a text behind the scheme is that of one pair. -/
theorem BasicText.unique {username' password' : String} (hcolon : ':' ∉ username.toList)
    (hcolon' : ':' ∉ username'.toList) (h : BasicText value username password)
    (h' : BasicText value username' password') : username = username' ∧ password = password' := by
  have hfirst : HasFirst [("authorization", value)] "authorization" value :=
    ⟨[], "authorization", [], rfl, by decide, by simp⟩
  have hok := basicCredentials_eq_ok_iff.2 ⟨hcolon, value, hfirst, h⟩
  rw [basicCredentials_eq_ok_iff.2 ⟨hcolon', value, hfirst, h'⟩, Except.ok.injEq,
    BasicCredentials.mk.injEq] at hok
  exact ⟨hok.1.symm, hok.2.symm⟩

theorem basicText_basicValue (username password : String) :
    BasicText (basicValue username password) username password := by
  have hscheme : "Basic ".toList.all (fun c => decide (IsPrintable c)) = true := by decide
  refine ⟨Base64.encodePadded .standard (utf8 (username ++ ":" ++ password)), ?_, ?_⟩
  · exact shows_of_readable? (readable?_scheme hscheme fun c hc => (mem_encodePadded hc).1)
  · exact trim_of_no_blank fun c hc => (mem_encodePadded hc).2

/-- Credentials are read from headers if and only if the first header for authorization is the scheme, a
space and the base64 text of the pair, in one piece and with nothing around it but blanks. Otherwise there
is no such header, or it is not readable or of another scheme, or it holds no such text. Every pair with
a colon-free name can be written so and is read back, and no two pairs have a value in common. -/
theorem basicCredentials_grammar (h : Headers) :
    (∀ username password, h.basicCredentials = .ok ⟨username, password⟩ ↔ ':' ∉ username.toList ∧
      ∃ value, h.HasFirst "authorization" value ∧ BasicText value username password) ∧
    (h.basicCredentials = .error .noAuthorizationHeader ↔
      ∀ e ∈ h, sameName e.1 "authorization" = false) ∧
    (h.basicCredentials = .error .noBasicScheme ↔
      ∃ value, h.HasFirst "authorization" value ∧ OtherScheme "Basic" value) ∧
    (h.basicCredentials = .error .malformedCredentialPair ↔
      ∃ value, h.HasFirst "authorization" value ∧ ¬ OtherScheme "Basic" value ∧
        ∀ username password, ':' ∉ username.toList → ¬ BasicText value username password) ∧
    (∀ e, h.basicCredentials = .error e →
      e = .noAuthorizationHeader ∨ e = .noBasicScheme ∨ e = .malformedCredentialPair) ∧
    (∀ username password, ':' ∉ username.toList →
      h.HasFirst "authorization" (basicValue username password) →
      h.basicCredentials = .ok ⟨username, password⟩) ∧
    ∀ value username password username' password', ':' ∉ username.toList →
      ':' ∉ username'.toList → BasicText value username password →
      BasicText value username' password' → username = username' ∧ password = password' := by
  refine ⟨fun _ _ => basicCredentials_eq_ok_iff, ?_, basicCredentials_eq_noBasicScheme_iff,
    basicCredentials_eq_malformed_iff, fun _ => basicCredentials_eq_error, ?_,
    fun _ _ _ _ _ => BasicText.unique⟩
  · rw [basicCredentials_eq_noAuthorizationHeader_iff, get?_eq_none_iff]
  · intro username password hcolon hfirst
    exact basicCredentials_eq_ok_iff.2 ⟨hcolon, _, hfirst, basicText_basicValue username password⟩

/-- The first of two headers counts, whatever the case of its name, and only the first colon divides. -/
theorem basicCredentials_grammar_sample :
    HasFirst [("Accept", []), ("Authorization", basicValue "jörg" "a:b"),
      ("authorization", basicValue "other" "")] "authorization" (basicValue "jörg" "a:b") ∧
    basicCredentials [("Accept", []), ("Authorization", basicValue "jörg" "a:b"),
      ("authorization", basicValue "other" "")] = .ok ⟨"jörg", "a:b"⟩ ∧
    ∀ username password, ':' ∉ username.toList →
      BasicText (basicValue "jörg" "a:b") username password → "jörg" = username ∧ "a:b" = password := by
  have hfirst : HasFirst [("Accept", []), ("Authorization", basicValue "jörg" "a:b"),
      ("authorization", basicValue "other" "")] "authorization" (basicValue "jörg" "a:b") := by
    refine ⟨[("Accept", [])], "Authorization", [("authorization", basicValue "other" "")], rfl,
      by decide, ?_⟩
    intro e he
    rw [List.mem_singleton.1 he]
    decide
  obtain ⟨-, -, -, -, -, hread, hunique⟩ := basicCredentials_grammar [("Accept", []),
    ("Authorization", basicValue "jörg" "a:b"), ("authorization", basicValue "other" "")]
  refine ⟨hfirst, hread "jörg" "a:b" (by decide) hfirst, ?_⟩
  intro username password hcolon htext
  exact hunique _ "jörg" "a:b" username password (by decide) hcolon
    (basicText_basicValue "jörg" "a:b") htext

end Service.Headers

end TokenAuth
