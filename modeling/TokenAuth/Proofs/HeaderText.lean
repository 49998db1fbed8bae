import TokenAuth.Proofs.Base64Text
import TokenAuth.Proofs.TokenRoundTrip
import TokenAuth.Service.Headers

/-!
Credentials travel through headers unchanged. A header of visible characters and spaces is read as its
text; a token behind its scheme is read as that token, and the base64 text of a name and a password as
that pair, as long as the name holds no colon.
-/
namespace TokenAuth

namespace Text

theorem utf8_ofList (cs : List Char) : utf8 (String.ofList cs) = cs.flatMap String.utf8EncodeChar := by
  simp [utf8, List.utf8Encode]

theorem utf8EncodeChar_ascii {c : Char} (h : c.toNat < 128) :
    String.utf8EncodeChar c = [UInt8.ofNat c.toNat] := by
  have hsize : c.utf8Size = 1 := by
    rw [Char.utf8Size_eq_one_iff, UInt32.le_iff_toNat_le]
    have hlt : c.val.toNat < 128 := h
    have hmax : (127 : UInt32).toNat = 127 := rfl
    omega
  rw [String.utf8EncodeChar_eq_singleton hsize]
  rfl

theorem ofUtf8?_eq_some_iff {bs : List UInt8} {s : String} : ofUtf8? bs = some s ↔ bs = utf8 s := by
  constructor
  · exact fun h => (utf8_of_ofUtf8? h).symm
  · rintro rfl
    exact ofUtf8?_utf8 s

/-- Bytes have one padded text, and no other text is read as these bytes. -/
theorem Base64.decodePadded_eq_some_iff {a : Alphabet} {cs : List Char} {bs : List UInt8} :
    decodePadded a cs = some bs ↔ cs = encodePadded a bs := by
  constructor
  · intro h
    unfold decodePadded at h
    dsimp only at h
    split at h
    · next hpadded =>
      rw [decode_eq_some_iff.1 h] at hpadded
      exact hpadded
    · simp at h
  · rintro rfl
    exact decodePadded_encodePadded a bs

end Text

theorem SignedToken.trim_text (t : SignedToken) : Text.trim t.text.toList = t.text.toList := by
  have htrimmed := congrArg String.toList t.text_trimmed
  rwa [Text.trimmed, String.toList_ofList] at htrimmed

theorem SignedToken.ofText_eq_ok_iff {s : String} {t : SignedToken} :
    ofText s = .ok t ↔ Text.trim s.toList = t.text.toList := by
  have hsame : Text.trim s.toList = t.text.toList ↔ Text.trimmed s = t.text := by
    rw [← String.toList_inj, Text.trimmed, String.toList_ofList]
  rw [hsame]
  unfold ofText
  constructor
  · intro h
    split at h
    · simp at h
    · rw [← Except.ok.inj h]
  · intro h
    have hne : Text.trimmed s ≠ "" := by
      rw [h]
      exact t.text_ne
    rw [dif_neg hne]
    simp [h]

namespace Service.Headers

open Text

/-- Printable characters are those that a header can hold and that are read as themselves. -/
def IsPrintable (c : Char) : Prop := 32 ≤ c.toNat ∧ c.toNat ≤ 126

instance (c : Char) : Decidable (IsPrintable c) := inferInstanceAs (Decidable (_ ∧ _))

theorem isPrintable_dot : IsPrintable '.' := by decide

theorem readable_iff {b : UInt8} : isReadable b = true ↔ b = 9 ∨ 32 ≤ b.toNat ∧ b.toNat ≤ 126 := by
  simp only [isReadable, Bool.or_eq_true, Bool.and_eq_true, beq_iff_eq, decide_eq_true_eq,
    UInt8.le_iff_toNat_le]
  rfl

/-- A value of tabs and printable ASCII characters, which stands for just these. -/
def Shows (value : List UInt8) (text : List Char) : Prop :=
  value = utf8 (String.ofList text) ∧ ∀ c ∈ text, c = '\t' ∨ IsPrintable c

theorem toNat_lt_of_shown {c : Char} (h : c = '\t' ∨ IsPrintable c) : c.toNat < 127 := by
  rcases h with rfl | ⟨-, hhigh⟩
  · decide
  · omega

theorem utf8_of_shown {text : List Char} (h : ∀ c ∈ text, c = '\t' ∨ IsPrintable c) :
    utf8 (String.ofList text) = text.map fun c => UInt8.ofNat c.toNat := by
  rw [utf8_ofList]
  induction text with
  | nil => rfl
  | cons c text ih =>
    have hc := toNat_lt_of_shown (h c (by simp))
    rw [List.flatMap_cons, utf8EncodeChar_ascii (by omega), ih fun d hd => h d (by simp [hd])]
    rfl

theorem readable?_of_shows {value : List UInt8} {text : List Char} (h : Shows value text) :
    readable? value = some text := by
  obtain ⟨rfl, hshown⟩ := h
  have hvalue : ∀ c ∈ text, (UInt8.ofNat c.toNat).toNat = c.toNat := by
    intro c hc
    have := toNat_lt_of_shown (hshown c hc)
    rw [UInt8.toNat_ofNat']
    omega
  have hall : (text.map fun c => UInt8.ofNat c.toNat).all isReadable = true := by
    rw [List.all_map, List.all_eq_true]
    intro c hc
    rw [Function.comp_apply, readable_iff, hvalue c hc]
    rcases hshown c hc with rfl | hprintable
    · exact Or.inl rfl
    · exact Or.inr hprintable
  have hback : ∀ c ∈ text, ((fun b : UInt8 => Char.ofNat b.toNat) ∘
      fun c : Char => UInt8.ofNat c.toNat) c = c := by
    intro c hc
    simp only [Function.comp_apply, hvalue c hc, Char.ofNat_toNat]
  unfold readable?
  rw [utf8_of_shown hshown, if_pos hall, List.map_map, List.map_congr_left hback, List.map_id']

theorem shows_of_readable? {value : List UInt8} {text : List Char}
    (h : readable? value = some text) : Shows value text := by
  unfold readable? at h
  split at h
  · next hall =>
    have hchar : ∀ b ∈ value, (Char.ofNat b.toNat).toNat = b.toNat ∧
        (b = 9 ∨ 32 ≤ b.toNat ∧ b.toNat ≤ 126) := by
      intro b hb
      have hb' := readable_iff.1 (List.all_eq_true.1 hall b hb)
      have hsmall : b.toNat ≤ 126 := by
        rcases hb' with rfl | hb'
        · decide
        · exact hb'.2
      have hvalid : b.toNat.isValidChar := Or.inl (by omega)
      refine ⟨?_, hb'⟩
      rw [Char.ofNat, dif_pos hvalid]
      rfl
    have hbyte : ∀ b ∈ value, String.utf8EncodeChar (Char.ofNat b.toNat) = [b] := by
      intro b hb
      obtain ⟨hsame, hb'⟩ := hchar b hb
      have hsmall : (Char.ofNat b.toNat).toNat < 128 := by
        rw [hsame]
        rcases hb' with rfl | hb'
        · decide
        · omega
      rw [utf8EncodeChar_ascii hsmall, hsame, UInt8.ofNat_toNat]
    rw [← Option.some.inj h]
    constructor
    · rw [utf8_ofList, List.flatMap_map, List.flatMap_congr hbyte, List.flatMap_singleton']
    · intro c hc
      obtain ⟨b, hb, rfl⟩ := List.mem_map.1 hc
      obtain ⟨hsame, hb'⟩ := hchar b hb
      rcases hb' with rfl | hb'
      · exact Or.inl rfl
      · right
        unfold IsPrintable
        rw [hsame]
        exact hb'
  · simp at h

theorem readable?_eq_some_iff {value : List UInt8} {text : List Char} :
    readable? value = some text ↔ Shows value text := ⟨shows_of_readable?, readable?_of_shows⟩

theorem readable?_utf8 {cs : List Char} (h : ∀ c ∈ cs, IsPrintable c) :
    readable? (utf8 (String.ofList cs)) = some cs :=
  readable?_of_shows ⟨rfl, fun c hc => Or.inr (h c hc)⟩

/-- What is readable in a header is the text that was put there. -/
theorem readable?_eq_some {text : String} {cs : List Char}
    (h : readable? (utf8 text) = some cs) : text.toList = cs := by
  obtain ⟨hvalue, -⟩ := shows_of_readable? h
  have htext := ofUtf8?_utf8 (String.ofList cs)
  rw [← hvalue, ofUtf8?_utf8, Option.some.injEq] at htext
  rw [htext, String.toList_ofList]

/-- A value that is put together from a scheme and what follows it is read as just that. -/
theorem readable?_scheme {scheme : String} {cs : List Char}
    (hscheme : scheme.toList.all (fun c => decide (IsPrintable c)) = true)
    (h : ∀ c ∈ cs, IsPrintable c) :
    readable? (utf8 (scheme ++ String.ofList cs)) = some (scheme.toList ++ cs) := by
  have htext : scheme ++ String.ofList cs = String.ofList (scheme.toList ++ cs) := by
    rw [← String.toList_inj]
    simp
  rw [htext]
  apply readable?_utf8
  intro c hc
  rcases List.mem_append.1 hc with hc | hc
  · exact of_decide_eq_true (List.all_eq_true.1 hscheme c hc)
  · exact h c hc

theorem tokenOf?_eq_some_iff {cs : List Char} {t : SignedToken} :
    tokenOf? cs = some t ↔ trim cs = t.text.toList := by
  have hresult : tokenOf? cs = some t ↔ SignedToken.ofText (String.ofList cs) = .ok t := by
    unfold tokenOf?
    cases SignedToken.ofText (String.ofList cs) <;> simp [Except.toOption]
  rw [hresult, SignedToken.ofText_eq_ok_iff, String.toList_ofList]

/-- The credentials behind a scheme are all that follows the scheme and one space. -/
theorem schemeCredentials_eq_some_iff {h : Headers} {scheme : String} {cs : List Char}
    (hscheme : ' ' ∉ scheme.toList) :
    h.schemeCredentials scheme = .ok (some cs) ↔
      ∃ value, h.get? "authorization" = some value ∧
        readable? value = some (scheme.toList ++ ' ' :: cs) := by
  unfold schemeCredentials
  constructor
  · intro heq
    split at heq
    · simp at heq
    · next value hvalue =>
      split at heq
      · next found credentials hcut =>
        obtain ⟨text, htext, hcut⟩ := Option.bind_eq_some_iff.1 hcut
        split at heq
        · next hfound =>
          have hsame : credentials = cs := by simpa using heq
          obtain ⟨hsplit, -⟩ := cutFirst_eq_some hcut
          exact ⟨value, hvalue, by rw [htext, hsplit, hfound, hsame]⟩
        · simp at heq
      · simp at heq
  · rintro ⟨value, hvalue, htext⟩
    simp [hvalue, htext, cutFirst_append ' ' scheme.toList cs hscheme]

theorem schemeCredentials_eq_error_iff {h : Headers} {scheme : String} {e : Refusal} :
    h.schemeCredentials scheme = .error e ↔
      h.get? "authorization" = none ∧ e = .noAuthorizationHeader := by
  unfold schemeCredentials
  constructor
  · intro heq
    split at heq
    · next hnone => exact ⟨hnone, (Except.error.inj heq).symm⟩
    · split at heq <;> simp at heq
  · rintro ⟨hnone, rfl⟩
    simp [hnone]

theorem basicCredentials_eq_error {h : Headers} {e : Refusal} (herror : h.basicCredentials = .error e) :
    e = .noAuthorizationHeader ∨ e = .noBasicScheme ∨ e = .malformedCredentialPair := by
  unfold basicCredentials at herror
  split at herror
  · next e' habsent =>
    rw [← Except.error.inj herror]
    exact Or.inl (schemeCredentials_eq_error_iff.1 habsent).2
  · exact Or.inr (Or.inl (Except.error.inj herror).symm)
  · split at herror
    · simp at herror
    · exact Or.inr (Or.inr (Except.error.inj herror).symm)

/-- The value of a header is a token behind the scheme of bearers, with blanks around it or without. -/
def BearerText (value : List UInt8) (t : SignedToken) : Prop :=
  ∃ rest, readable? value = some ("Bearer ".toList ++ rest) ∧ trim rest = t.text.toList

theorem bearerToken_eq_ok_iff {h : Headers} {t : SignedToken} :
    h.bearerToken = .ok t ↔ ∃ value, h.get? "authorization" = some value ∧ BearerText value t := by
  have hscheme : ' ' ∉ "Bearer".toList := by decide
  have hsplit : ∀ rest, "Bearer ".toList ++ rest = "Bearer".toList ++ ' ' :: rest := fun _ => rfl
  unfold bearerToken
  constructor
  · intro heq
    split at heq
    · simp at heq
    · next credentials hcredentials =>
      cases credentials with
      | none => simp at heq
      | some cs =>
        obtain ⟨value, hvalue, htext⟩ := (schemeCredentials_eq_some_iff hscheme).1 hcredentials
        cases htoken : tokenOf? cs with
        | none => simp [htoken] at heq
        | some u =>
          have hsame : u = t := by simpa [htoken] using heq
          rw [hsame] at htoken
          exact ⟨value, hvalue, cs, by rw [htext, hsplit], tokenOf?_eq_some_iff.1 htoken⟩
  · rintro ⟨value, hvalue, cs, htext, htrim⟩
    rw [hsplit] at htext
    rw [(schemeCredentials_eq_some_iff hscheme).2 ⟨value, hvalue, htext⟩]
    simp [tokenOf?_eq_some_iff.2 htrim]

theorem bearerToken_of_absent {h : Headers} (hnone : h.get? "authorization" = none) :
    h.bearerToken = .error .noAuthorizationHeader := by
  simp [bearerToken, schemeCredentials_eq_error_iff.2 ⟨hnone, rfl⟩]

theorem bearerToken_of_other {h : Headers} {value : List UInt8}
    (hvalue : h.get? "authorization" = some value) (hno : ¬ ∃ t, BearerText value t) :
    h.bearerToken = .error .noBearerScheme := by
  cases hresult : h.bearerToken with
  | ok t =>
    obtain ⟨value', hvalue', ht⟩ := bearerToken_eq_ok_iff.1 hresult
    rw [hvalue] at hvalue'
    rw [← Option.some.inj hvalue'] at ht
    exact absurd ⟨t, ht⟩ hno
  | error e =>
    unfold bearerToken at hresult
    split at hresult
    · next herror =>
      rw [(schemeCredentials_eq_error_iff.1 herror).1] at hvalue
      simp at hvalue
    · split at hresult
      · simp at hresult
      · exact hresult.symm

/-- Basic credentials are never taken from a bearer's header. -/
theorem basicCredentials_of_bearerText {h : Headers} {value : List UInt8} {t : SignedToken}
    (hvalue : h.get? "authorization" = some value) (ht : BearerText value t) :
    h.basicCredentials = .error .noBasicScheme := by
  obtain ⟨rest, htext, -⟩ := ht
  have hcut : cutFirst ' ' ("Bearer ".toList ++ rest) = some ("Bearer".toList, rest) :=
    cutFirst_append ' ' "Bearer".toList rest (by decide)
  have hother : "Bearer".toList ≠ "Basic".toList := by decide
  unfold basicCredentials schemeCredentials
  simp only [hvalue, htext, Option.bind_some, hcut, if_neg hother]

/-- A printable token stands behind the scheme as it is. -/
theorem bearerText_utf8 (t : SignedToken) (h : ∀ c ∈ t.text.toList, IsPrintable c) :
    BearerText (utf8 ("Bearer " ++ t.text)) t := by
  have hscheme : "Bearer ".toList.all (fun c => decide (IsPrintable c)) = true := by decide
  have hreadable := readable?_scheme hscheme h
  rw [String.ofList_toList] at hreadable
  exact ⟨t.text.toList, hreadable, t.trim_text⟩

theorem refreshToken_eq_ok_iff {h : Headers} {t : SignedToken} :
    h.refreshToken = .ok t ↔ ∃ value cs, h.get? "x-refresh-token" = some value ∧
      readable? value = some cs ∧ trim cs = t.text.toList := by
  have hresult : h.refreshToken = .ok t ↔
      ((h.get? "x-refresh-token").bind readable?).bind tokenOf? = some t := by
    unfold refreshToken
    cases ((h.get? "x-refresh-token").bind readable?).bind tokenOf? <;> simp
  simp only [hresult, Option.bind_eq_some_iff, tokenOf?_eq_some_iff]
  constructor
  · rintro ⟨cs, ⟨value, hvalue, hread⟩, htrim⟩
    exact ⟨value, cs, hvalue, hread, htrim⟩
  · rintro ⟨value, cs, hvalue, hread, htrim⟩
    exact ⟨cs, ⟨value, hvalue, hread⟩, htrim⟩

theorem refreshToken_of_printable {h : Headers} (t : SignedToken)
    (hvalue : h.get? "x-refresh-token" = some (utf8 t.text))
    (hprintable : ∀ c ∈ t.text.toList, IsPrintable c) : h.refreshToken = .ok t := by
  have hread := readable?_utf8 hprintable
  rw [String.ofList_toList] at hread
  exact refreshToken_eq_ok_iff.2 ⟨_, _, hvalue, hread, t.trim_text⟩

/-- The value of the header that a user with this name and password logs in with. -/
def basicValue (username password : String) : List UInt8 :=
  utf8 ("Basic " ++ String.ofList
    (Base64.encodePadded .standard (utf8 (username ++ ":" ++ password))))

theorem mem_encodePadded {bs : List UInt8} {c : Char}
    (h : c ∈ Base64.encodePadded .standard bs) : IsPrintable c ∧ isBlank c = false := by
  rcases List.mem_append.1 h with h | h
  · obtain ⟨n, rfl⟩ := Base64.exists_symbol_of_mem_encode h
    obtain ⟨hlow, hhigh⟩ := Base64.symbol_visible .standard n
    exact ⟨⟨by omega, hhigh⟩, Base64.isBlank_of_mem_encode h⟩
  · rw [List.eq_of_mem_replicate h]
    exact ⟨by unfold IsPrintable; decide, by decide⟩

theorem toList_pair (username password : String) :
    (username ++ ":" ++ password).toList = username.toList ++ ':' :: password.toList := by
  simp

theorem readPair_eq_some_iff {username password : String} {cs : List Char} :
    readPair cs = some ⟨username, password⟩ ↔ ':' ∉ username.toList ∧
      trim cs = Base64.encodePadded .standard (utf8 (username ++ ":" ++ password)) := by
  simp only [readPair, Option.bind_eq_bind, Option.bind_eq_some_iff, Base64.decodePadded_eq_some_iff,
    ofUtf8?_eq_some_iff]
  constructor
  · rintro ⟨bytes, htrim, pair, rfl, ⟨front, back⟩, hcut, hpair⟩
    obtain ⟨hsplit, hcolon⟩ := cutFirst_eq_some hcut
    obtain ⟨rfl, rfl⟩ : String.ofList front = username ∧ String.ofList back = password := by
      simpa using hpair
    have hsame : String.ofList front ++ ":" ++ String.ofList back = pair := by
      rw [← String.toList_inj, toList_pair, String.toList_ofList, String.toList_ofList, hsplit]
    rw [hsame, String.toList_ofList]
    exact ⟨hcolon, htrim⟩
  · rintro ⟨hcolon, htrim⟩
    refine ⟨_, htrim, _, rfl, (username.toList, password.toList), ?_, ?_⟩
    · rw [toList_pair, cutFirst_append ':' _ _ hcolon]
    · simp

/-- The pair comes back if its name holds no colon. -/
theorem basicCredentials_basicValue {h : Headers} {username password : String}
    (hvalue : h.get? "authorization" = some (basicValue username password))
    (hcolon : ':' ∉ username.toList) : h.basicCredentials = .ok ⟨username, password⟩ := by
  let encoded := Base64.encodePadded .standard (utf8 (username ++ ":" ++ password))
  have hencoded : ∀ c ∈ encoded, IsPrintable c ∧ isBlank c = false := fun _ => mem_encodePadded
  have hscheme : "Basic ".toList.all (fun c => decide (IsPrintable c)) = true := by decide
  have hreadable : readable? (basicValue username password) =
      some ("Basic".toList ++ ' ' :: encoded) :=
    readable?_scheme hscheme fun c hc => (hencoded c hc).1
  have hcredentials : h.schemeCredentials "Basic" = .ok (some encoded) :=
    (schemeCredentials_eq_some_iff (by decide)).2 ⟨_, hvalue, hreadable⟩
  have hpair : readPair encoded = some ⟨username, password⟩ :=
    readPair_eq_some_iff.2 ⟨hcolon, trim_of_no_blank fun c hc => (hencoded c hc).2⟩
  simp only [basicCredentials, hcredentials, hpair]

/-- A colon in a name ends it, and the rest of the name is taken for the start of the password. -/
theorem basicValue_colon (front back password : String) :
    basicValue (front ++ ":" ++ back) password = basicValue front (back ++ ":" ++ password) := by
  simp only [basicValue, String.append_assoc]

end Service.Headers

namespace Compact

theorem isPrintable_of_mem_segment {bs : List UInt8} {x : Char} (h : x ∈ segment bs) :
    Service.Headers.IsPrintable x := by
  obtain ⟨n, rfl⟩ := Text.Base64.exists_symbol_of_mem_encode h
  obtain ⟨hlow, hhigh⟩ := Text.Base64.symbol_visible .urlSafe n
  exact ⟨by omega, hhigh⟩

/-- Every character of a signed token can stand in a header. -/
theorem isPrintable_of_mem_encode {c : Claims} {key : SigningKey} {x : Char}
    (h : x ∈ (encode c key).text.toList) : Service.Headers.IsPrintable x := by
  rw [toList_encode] at h
  simp only [List.mem_append, List.mem_cons] at h
  rcases h with h | rfl | h | rfl | h
  · exact isPrintable_of_mem_segment h
  · exact Service.Headers.isPrintable_dot
  · exact isPrintable_of_mem_segment h
  · exact Service.Headers.isPrintable_dot
  · exact isPrintable_of_mem_segment h

end Compact

end TokenAuth
